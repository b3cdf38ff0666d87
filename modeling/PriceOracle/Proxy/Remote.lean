import PriceOracle.Proxy.Error

/-!
# PriceOracle.Proxy.Remote

The client's side of a connection to a store. A call sends one request and waits for the next text
that comes in; other frames are passed over. A response that makes no sense is an error of that
call only, but when the connection ends it is given up, and later calls fail without sending.
-/

namespace PriceOracle
namespace Proxy

inductive Incoming where
  | text (s : String)
  /-- A frame that carries no response. -/
  | other
  /-- The server says that it leaves. -/
  | close
  /-- The connection breaks. -/
  | failure
  deriving Repr, DecidableEq

namespace Remote

inductive Reply where
  | text (s : String)
  | closed
  | failed
  deriving Repr, DecidableEq

/-- Wait for a reply among the frames that come in. The end of the frames closes too. -/
def await : List Incoming → Reply × List Incoming
  | [] => (.closed, [])
  | .text s :: rest => (.text s, rest)
  | .other :: rest => await rest
  | .close :: rest => (.closed, rest)
  | .failure :: rest => (.failed, rest)

def response : Reply → Except Error Response
  | .closed => .error .disconnected
  | .failed => .error .transport
  | .text s =>
    match Response.ofText? s with
    | none => .error (.protocol (.unparsable s))
    | some (.error message) => .error (.remote message)
    | some r => .ok r

/-- Does the connection outlive the reply? -/
def Reply.keeps : Reply → Bool
  | .text _ => true
  | _ => false

def getRequest (key : String) : Request := .get key

def putRequest (key : String) (value : Bytes) : Request := .put key (Hex.encode value)

def valueOf (key : String) (r : Except Error Response) : Except Error (Option Bytes) :=
  match r with
  | .error e => .error e
  | .ok (.value none) => .ok none
  | .ok (.value (some s)) =>
    match Hex.decode s with
    | .ok bytes => .ok (some bytes)
    | .error fault => .error (.protocol (.badHex key fault))
  | .ok r => .error (.protocol (.unexpected r))

def ackOf (r : Except Error Response) : Except Error Unit :=
  match r with
  | .error e => .error e
  | .ok .ack => .ok ()
  | .ok r => .error (.protocol (.unexpected r))

/-- A client, what it sent so far (the latest first), and the frames that are still to come in. -/
structure Connection where
  isOpen : Bool
  sent : List Request
  incoming : List Incoming

/-- Send a request and wait for its reply. -/
def exchange (request : Request) (c : Connection) : Except Error Response × Connection :=
  if c.isOpen then
    let (reply, rest) := await c.incoming
    (response reply, ⟨reply.keeps, request :: c.sent, rest⟩)
  else (.error .disconnected, c)

def get (key : String) (c : Connection) : Except Error (Option Bytes) × Connection :=
  let (r, c) := exchange (getRequest key) c
  (valueOf key r, c)

def put (key : String) (value : Bytes) (c : Connection) : Except Error Unit × Connection :=
  let (r, c) := exchange (putRequest key value) c
  (ackOf r, c)

/-- Say goodbye, if there is somebody to say it to, and give up the connection. -/
def close (c : Connection) : Connection :=
  if c.isOpen then { c with isOpen := false, sent := .close :: c.sent } else c

end Remote
end Proxy
end PriceOracle
