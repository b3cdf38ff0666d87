import PriceOracle.Word

/-!
# PriceOracle.Socket.Packet

What travels over a socket: packets of a few kinds. A packet has a payload behind its length, which
may be covered by a mask of four bytes. `Packet.read` looks at what has come in so far.
-/

namespace PriceOracle
namespace Socket

inductive Kind where
  /-- More of the message before. -/
  | more
  | text
  | binary
  | close
  | ping
  | pong
  deriving Repr, DecidableEq

def Kind.code : Kind → Nat
  | .more => 0
  | .text => 1
  | .binary => 2
  | .close => 8
  | .ping => 9
  | .pong => 10

def Kind.ofCode? (code : Nat) : Option Kind :=
  [more, text, binary, close, ping, pong].find? fun k => k.code = code

/-- Kinds that stand for themselves and may come between the parts of a message. -/
def Kind.isControl (k : Kind) : Bool := 8 ≤ k.code

structure Packet where
  /-- Does its message end with it? -/
  isLast : Bool
  kind : Kind
  payload : Bytes
  deriving Repr, DecidableEq

/-- Cover bytes with a mask, or uncover them. -/
def cover (mask payload : Bytes) : Bytes :=
  payload.mapIdx fun i b => b ^^^ mask.getD (i % 4) 0

namespace Packet

/-- A length in as few bytes as it takes, below a bit that tells whether there is a mask. -/
def lengthBytes (isMasked : Bool) (length : Nat) : Bytes :=
  let bit := if isMasked then 128 else 0
  if length < 126 then [UInt8.ofNat (bit + length)]
  else if length < 65536 then UInt8.ofNat (bit + 126) :: bytesOfNat 2 length
  else UInt8.ofNat (bit + 127) :: bytesOfNat 8 length

/-- Write a packet, perhaps covered by a mask. -/
def encode (mask : Option Bytes) (p : Packet) : Bytes :=
  let first := UInt8.ofNat ((if p.isLast then 128 else 0) + p.kind.code)
  first :: lengthBytes mask.isSome p.payload.length ++
    match mask with
    | some mask => mask ++ cover mask p.payload
    | none => p.payload

inductive Reading where
  | unfinished
  | broken
  | complete (p : Packet) (rest : Bytes)

/-- So many bytes, and what follows them. -/
def take? (n : Nat) (received : Bytes) : Option (Bytes × Bytes) :=
  if n ≤ received.length then some (received.take n, received.drop n) else none

/-- The length that the second byte announces, and what follows it. -/
def length? (second : UInt8) (received : Bytes) : Option (Nat × Bytes) :=
  let short := second.toNat % 128
  let width := if short = 126 then 2 else if short = 127 then 8 else 0
  if width = 0 then some (short, received)
  else (take? width received).map fun (digits, rest) => (natOfBytes digits, rest)

/-- The payload behind the second byte, uncovered, and what follows it. -/
def payload? (second : UInt8) (received : Bytes) : Option (Bytes × Bytes) := do
  let (length, rest) ← length? second received
  let (mask, rest) ← take? (if second.toNat < 128 then 0 else 4) rest
  let (payload, rest) ← take? length rest
  some (cover mask payload, rest)

/-- Read a packet in what has come in so far. -/
def read : Bytes → Reading
  | first :: second :: received =>
    match Kind.ofCode? (first.toNat % 128) with
    | none => .broken
    | some kind =>
      match payload? second received with
      | some (payload, rest) => .complete ⟨128 ≤ first.toNat, kind, payload⟩ rest
      | none => .unfinished
  | _ => .unfinished

end Packet
end Socket
end PriceOracle
