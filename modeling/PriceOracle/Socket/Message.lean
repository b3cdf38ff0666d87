import PriceOracle.Proxy.Remote
import PriceOracle.Proxy.Server
import PriceOracle.Socket.Packet

/-!
# PriceOracle.Socket.Message

Messages over a socket, put together from packets, and what they are to a store and to its clients.
-/

namespace PriceOracle
namespace Socket

inductive Message where
  | text (s : String)
  | binary
  /-- A question whether anybody is there. -/
  | ping (payload : Bytes)
  /-- The answer to it. -/
  | pong (payload : Bytes)
  | close
  deriving Repr, DecidableEq

namespace Message

def packet : Message → Packet
  | .text s => ⟨true, .text, Utf8.encode s⟩
  | .binary => ⟨true, .binary, []⟩
  | .ping payload => ⟨true, .ping, payload⟩
  | .pong payload => ⟨true, .pong, payload⟩
  | .close => ⟨true, .close, []⟩

/-- The message of a kind with a payload, if there is one. -/
def of? (kind : Kind) (payload : Bytes) : Option Message :=
  match kind with
  | .more => none
  | .text => (Utf8.decode payload).toOption.map .text
  | .binary => some .binary
  | .close => some .close
  | .ping => some (.ping payload)
  | .pong => some (.pong payload)

/-- What a message is to a store. -/
def frame : Message → Proxy.Frame
  | .text s => .text s
  | .binary => .binary
  | .ping _ | .pong _ => .ping
  | .close => .close

/-- What a message is to a client of a store. -/
def incoming : Message → Proxy.Incoming
  | .text s => .text s
  | .binary | .ping _ | .pong _ => .other
  | .close => .close

end Message

/-- What has come in, and the message of which some packets have come. -/
structure Inbox where
  received : Bytes
  begun : Option (Kind × Bytes)

inductive Delivery where
  /-- There is more to come. -/
  | nothing
  | broken
  | message (m : Message)
  deriving Repr, DecidableEq

namespace Inbox

def empty : Inbox := ⟨[], none⟩

def push (bytes : Bytes) (b : Inbox) : Inbox := { b with received := b.received ++ bytes }

/-- What the message of a packet is so far, if the packet is not out of order. -/
def joined? (begun : Option (Kind × Bytes)) (p : Packet) : Option (Kind × Bytes) :=
  match p.kind, begun with
  | .more, some (kind, front) => some (kind, front ++ p.payload)
  | .more, none | _, some _ => none
  | kind, none => some (kind, p.payload)

def deliver : Option Message → Delivery
  | some m => .message m
  | none => .broken

/-- The next message, out of so many packets at most. -/
def nextOf : (packets : Nat) → Inbox → Delivery × Inbox
  | 0, b => (.nothing, b)
  | packets + 1, b =>
    match Packet.read b.received with
    | .unfinished => (.nothing, b)
    | .broken => (.broken, b)
    | .complete p rest =>
      if p.kind.isControl then (deliver (Message.of? p.kind p.payload), ⟨rest, b.begun⟩)
      else
        match joined? b.begun p with
        | none => (.broken, b)
        | some (kind, payload) =>
          if p.isLast then (deliver (Message.of? kind payload), ⟨rest, none⟩)
          else nextOf packets ⟨rest, some (kind, payload)⟩

def next (b : Inbox) : Delivery × Inbox := nextOf b.received.length b

end Inbox
end Socket
end PriceOracle
