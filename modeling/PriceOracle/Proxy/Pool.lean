import PriceOracle.Proxy.Remote
import PriceOracle.Proxy.Server
import PriceOracle.Store.Quantity

/-!
# PriceOracle.Proxy.Pool

A server and its clients, each known by a name. What a client sends arrives at once, and the answer
is there before anybody else sends. When the server has shut down, the clients find their
connections closed.
-/

namespace PriceOracle
namespace Proxy

/-- The word in a record that somebody has got. -/
def wordOf (key : String) (r : Except Error (Option Bytes)) : Except Error (Option Word) :=
  match r with
  | .error e => .error e
  | .ok none => .ok none
  | .ok (some raw) =>
    match Quantity.decode key raw with
    | .ok w => .ok (some w)
    | .error e => .error (.store e)

structure Pool where
  store : Local
  /-- The server listens. -/
  isUp : Bool
  /-- The clients, and whether they hold their connections to be open. -/
  clients : Table String Bool

namespace Pool

def start (store : Local) : Pool := ⟨store, true, []⟩

def shutdown (p : Pool) : Pool := { p with isUp := false }

/-- What comes in after a turn of the server. -/
def afterTurn (turn : Server.Turn) : List Incoming :=
  (turn.answer.map fun r => Incoming.text r.text).toList ++ if turn.stays then [] else [.close]

/-- Send a frame to the server; what comes in then. -/
def send (frame : Frame) (p : Pool) : List Incoming × Pool :=
  if p.isUp then
    let turn := Server.take p.store frame
    (afterTurn turn, { p with store := turn.store })
  else ([.close], p)

def isOpen (client : String) (p : Pool) : Bool := (p.clients.get? client).getD false

def mark (client : String) (isOpen : Bool) (p : Pool) : Pool :=
  { p with clients := p.clients.put client isOpen }

def connect (client : String) (p : Pool) : Except Error Unit × Pool :=
  if p.isUp then (.ok (), p.mark client true) else (.error .transport, p)

/-- Let a client call the server with a request. -/
def call {α : Type} (client : String) (request : Request)
    (act : Remote.Connection → α × Remote.Connection) (p : Pool) : α × Pool :=
  if p.isOpen client then
    let (incoming, p) := p.send (.text request.text)
    let (a, c) := act ⟨true, [], incoming⟩
    (a, p.mark client c.isOpen)
  else ((act ⟨false, [], []⟩).1, p)

def get (client key : String) (p : Pool) : Except Error (Option Bytes) × Pool :=
  p.call client (Remote.getRequest key) (Remote.get key)

def put (client key : String) (value : Bytes) (p : Pool) : Except Error Unit × Pool :=
  p.call client (Remote.putRequest key value) (Remote.put key value)

def close (client : String) (p : Pool) : Pool :=
  (p.call client .close fun c => ((), Remote.close c)).2

/-- Send frames of which the server answers none. -/
def sendAll (frames : List Frame) (p : Pool) : Pool :=
  frames.foldl (fun p frame => (p.send frame).2) p

/-- Let a client send some frames and a text, and see what it gets back: a text, or nothing when its
connection is closed. A client that is not known yet connects first. -/
def raw (client : String) (before : List Frame) (text : String) (p : Pool) :
    Option String × Pool :=
  let p := if (p.clients.get? client).isNone then (p.connect client).2 else p
  if p.isOpen client then
    let (incoming, p) := (p.sendAll before).send (.text text)
    match incoming with
    | .text reply :: rest => (some reply, p.mark client rest.isEmpty)
    | _ => (none, p.mark client false)
  else (none, p)

end Pool
end Proxy
end PriceOracle
