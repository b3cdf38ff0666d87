import PriceOracle.Account.Signature

/-!
# PriceOracle.Rpc.Envelope

Transactions as they travel. Bytes and lists of them are written behind their lengths, and a number
as its bytes without leading zeros. A transaction names the most that it pays for its gas, and what
of that is a tip, or simply a price; its signature is that of the hash of the same list without the
signature, where a transaction with a price has the number of the chain in that place.
-/

namespace PriceOracle
namespace Rpc

namespace Packed

/-- The bytes of a number without leading zeros. -/
def digits (n : Nat) : Bytes :=
  if n = 0 then [] else digits (n / 256) ++ [UInt8.ofNat (n % 256)]
termination_by n

/-- What stands in front of so many bytes. -/
def front (mark : UInt8) (size : Nat) : Bytes :=
  if size < 56 then [mark + UInt8.ofNat size]
  else (mark + 55 + UInt8.ofNat (digits size).length) :: digits size

def bytes (b : Bytes) : Bytes :=
  if b.length = 1 ∧ b.all (· < 0x80) then b else front 0x80 b.length ++ b

def number (n : Nat) : Bytes := bytes (digits n)

/-- A list of items that are packed already. -/
def list (items : List Bytes) : Bytes := front 0xC0 items.flatten.length ++ items.flatten

end Packed

/-- What a transaction pays at most for a unit of gas, and what of that is a tip. -/
structure Fees where
  most : Nat
  tip : Nat
  deriving Repr, DecidableEq

/-- How a transaction pays for its gas. -/
inductive Price where
  | capped (fees : Fees)
  /-- A price for each unit, where blocks ask for no base fee. -/
  | flat (perUnit : Nat)
  deriving Repr, DecidableEq

/-- A transaction that is ready to be signed. -/
structure Envelope where
  chainId : Nat
  nonce : Nat
  price : Price
  gas : Nat
  recipient : Address
  data : Bytes
  deriving Repr, DecidableEq

namespace Envelope

open Packed

/-- The kind of transactions that name their fees. -/
def kind : UInt8 := 2

/-- Nothing is paid to the recipient. -/
def purpose (e : Envelope) : List Bytes :=
  [number e.gas, bytes e.recipient.toBytes, number 0, bytes e.data]

/-- The items of a transaction with fees. No storage is announced. -/
def cappedItems (e : Envelope) (fees : Fees) : List Bytes :=
  [number e.chainId, number e.nonce, number fees.tip, number fees.most] ++ e.purpose ++ [list []]

/-- The items of a transaction with a price. -/
def flatItems (e : Envelope) (perUnit : Nat) : List Bytes :=
  [number e.nonce, number perUnit] ++ e.purpose

/-- What is hashed and signed. -/
def signable (e : Envelope) : Bytes :=
  match e.price with
  | .capped fees => kind :: list (e.cappedItems fees)
  | .flat perUnit => list (e.flatItems perUnit ++ [number e.chainId, number 0, number 0])

def withSignature (e : Envelope) (s : PrivateKey.Signature) : Bytes :=
  let oddness := if s.isOdd then 1 else 0
  match e.price with
  | .capped fees => kind :: list (e.cappedItems fees ++ [number oddness, number s.r, number s.s])
  | .flat perUnit =>
    list (e.flatItems perUnit ++ [number (2 * e.chainId + 35 + oddness), number s.r, number s.s])

def sign? (e : Envelope) (k : PrivateKey) : Option Bytes :=
  (k.sign? (Keccak.hash e.signable)).map e.withSignature

end Envelope
end Rpc
end PriceOracle
