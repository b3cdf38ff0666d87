import PriceOracle.Proxy.Error
import PriceOracle.Proxy.Local

/-!
# PriceOracle.Proxy.Server

The server's side of a connection. It answers each text frame with one response and goes on, until
a request to close, which it acknowledges before it leaves. Other frames are passed over.
-/

namespace PriceOracle
namespace Proxy

inductive Frame where
  | text (s : String)
  | binary
  | ping
  /-- The client leaves. -/
  | close
  deriving Repr, DecidableEq

namespace Server

def failure (e : Store.Error) : Response := .error e.message

/-- Do what a request asks of the store. -/
def execute (l : Local) : Request → Response × Local
  | .get key =>
    match l.get key with
    | .ok value => (.value (value.map Hex.encode), l)
    | .error e => (failure e, l)
  | .put key value =>
    match Hex.decode value with
    | .error fault => (.error (badHexMessage key fault), l)
    | .ok bytes =>
      match l.put key bytes with
      | (.ok (), l) => (.ack, l)
      | (.error e, l) => (failure e, l)
  | .close => (.ack, l)

/-- An error for a text that is no request. The words of it are those of the JSON reader, which are
left open: these stand for them. -/
def noRequest : Response := .error "not a request"

/-- What comes of one frame: the answer, if there is one, and whether the server stays. -/
structure Turn where
  answer : Option Response
  stays : Bool
  store : Local

def take (l : Local) : Frame → Turn
  | .text s =>
    match Request.ofText? s with
    | none => ⟨some noRequest, true, l⟩
    | some .close => ⟨some .ack, false, l⟩
    | some request =>
      let (response, l) := execute l request
      ⟨some response, true, l⟩
  | .binary => ⟨none, true, l⟩
  | .ping => ⟨none, true, l⟩
  | .close => ⟨none, false, l⟩

/-- Take frames while the server stays: its answers in order, and the store afterwards. -/
def serve (l : Local) : List Frame → List Response × Local
  | [] => ([], l)
  | f :: rest =>
    let turn := take l f
    if turn.stays then
      let (answers, l) := serve turn.store rest
      (turn.answer.toList ++ answers, l)
    else (turn.answer.toList, turn.store)

end Server
end Proxy
end PriceOracle
