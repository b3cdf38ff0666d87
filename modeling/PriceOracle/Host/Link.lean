import PriceOracle.Host.Line
import PriceOracle.Host.Vault
import PriceOracle.Socket.Handshake
import PriceOracle.Socket.Message

/-!
# PriceOracle.Host.Link

The two ends of a connection to a store: a `Link` is the client's, and a `Desk` is where clients are
served.
-/

namespace PriceOracle
namespace Host

open Proxy Socket

/-- How long a look at a line takes, in milliseconds. -/
def glance : Nat := 100

/-- How long a wait for a reply lasts, in milliseconds, before it begins anew. -/
def replyPatience : Nat := 60000

/-- How long the other side may take to open a socket, in milliseconds. -/
def handshakePatience : Nat := 10000

/-- Take what comes in until it is the head of a message, which is to be there in time. -/
partial def headBy (deadline : Nat) (l : Line) (received : Bytes) : IO (Http.Head × Bytes) := do
  match Http.Head.read? received with
  | some result => return result
  | none =>
    match ← l.receive (deadline - (← IO.monoMsNow)) with
    | .bytes b => headBy deadline l (received ++ b)
    | .ended | .nothing => throw (.userError "no handshake")

/-- The head of a message that comes in now. -/
def head (l : Line) : IO (Http.Head × Bytes) := do
  headBy ((← IO.monoMsNow) + handshakePatience) l []

structure Link where
  line : Line
  /-- What has come in, unless the connection is given up. -/
  inbox : Std.Mutex (Option Inbox)

namespace Link

/-- Send a message as clients do, covered. -/
def say (m : Message) (l : Line) : IO Unit := do
  let mask ← IO.getRandomBytes 4
  l.send (m.packet.encode (some mask.toList))

/-- Connect to the data service at a URL. -/
def connect (url : String) : IO Link := do
  match Http.Endpoint.ofSocket? url with
  | none => throw (.userError "no socket")
  | some e =>
    let line ← dial handshakePatience e.host e.service
    let key := Base64.encode (← IO.getRandomBytes 16).toList
    line.send (invitation e key).encode
    let (head, rest) ← head line
    if isWelcome key head then
      return ⟨line, ← Std.Mutex.new (some (Inbox.empty.push rest))⟩
    else throw (.userError "not welcome")

/-- Wait for a message. Questions whether anybody is there are answered. -/
partial def hear (l : Line) (inbox : Inbox) : IO (Incoming × Inbox) := do
  match inbox.next with
  | (.broken, inbox) => return (.failure, inbox)
  | (.message m, inbox) =>
    if let .ping payload := m then say (.pong payload) l
    return (m.incoming, inbox)
  | (.nothing, inbox) =>
    match ← l.receive replyPatience with
    | .bytes b => hear l (inbox.push b)
    | .ended => return (.failure, inbox)
    | .nothing => hear l inbox

/-- Wait for a message that may be a reply. -/
partial def hearReply (l : Line) (inbox : Inbox) : IO (Incoming × Inbox) := do
  match ← hear l inbox with
  | (.other, inbox) => hearReply l inbox
  | result => return result

/-- Call the other side with a request. -/
def call {α : Type} (request : Request) (act : Remote.Connection → α × Remote.Connection)
    (l : Link) : IO α :=
  l.inbox.atomically do
    match ← get with
    | none => return (act ⟨false, [], []⟩).1
    | some inbox =>
      let (incoming, inbox) ←
        try
          say (.text request.text) l.line
          hearReply l.line inbox
        catch _ => pure (Incoming.failure, inbox)
      let (a, c) := act ⟨true, [], [incoming]⟩
      set (if c.isOpen then some inbox else none)
      return a

def get (key : String) (l : Link) : IO (Except Error (Option Bytes)) :=
  l.call (Remote.getRequest key) (Remote.get key)

def put (key : String) (value : Bytes) (l : Link) : IO (Except Error Unit) :=
  l.call (Remote.putRequest key value) (Remote.put key value)

def close (l : Link) : IO Unit :=
  l.inbox.atomically do
    if (← MonadState.get).isSome then
      try
        say (.text Request.close.text) l.line
        say .close l.line
        l.line.hangUp
      catch _ => pure ()
      set (none : Option Inbox)

end Link

structure Desk where
  switchboard : Switchboard
  vault : Vault

namespace Desk

def openAt (address : String) (vault : Vault) : IO Desk := do
  match Http.Endpoint.ofSocket? ("ws://" ++ address) with
  | none => throw (.userError "no address")
  | some e => return ⟨← Switchboard.listen e.host e.service, vault⟩

def say (m : Message) (l : Line) : IO Unit := l.send (m.packet.encode none)

def leave (l : Line) : IO Unit := do
  say .close l
  l.hangUp

/-- Serve a client until one of both leaves. -/
partial def serve (told : IO Bool) (d : Desk) (l : Line) (inbox : Inbox) : IO Unit := do
  match inbox.next with
  | (.broken, _) => leave l
  | (.message m, inbox) =>
    if let .ping payload := m then say (.pong payload) l
    let turn ← d.vault.change fun store =>
      let turn := Server.take store m.frame
      (turn, turn.store)
    if let some r := turn.answer then say (.text r.text) l
    if turn.stays then serve told d l inbox else leave l
  | (.nothing, inbox) =>
    if ← told then leave l
    else
      match ← l.receive glance with
      | .bytes b => serve told d l (inbox.push b)
      | .ended => l.hangUp
      | .nothing => serve told d l inbox

def welcome (told : IO Bool) (d : Desk) (l : Line) : IO Unit := do
  let (head, rest) ← head l
  match key? head with
  | none => l.hangUp
  | some key =>
    l.send (Socket.welcome key)
    d.serve told l (Inbox.empty.push rest)

/-- Let clients in until told to stop. -/
partial def run (told : IO Bool) (d : Desk) : IO Unit := do
  if ← told then return
  match ← (d.switchboard.accept glance).toBaseIO with
  | .ok (some line) => let _ ← IO.asTask (d.welcome told line) .dedicated
  | .ok none => pure ()
  | .error _ => pure ()
  d.run told

end Desk
end Host
end PriceOracle
