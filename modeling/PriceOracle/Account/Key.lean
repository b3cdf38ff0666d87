import PriceOracle.Account.Curve
import PriceOracle.Hash.Keccak
import PriceOracle.Word

/-!
# PriceOracle.Account.Key

Private keys and the addresses of their accounts.
-/

namespace PriceOracle

/-- A private key: a number that is neither zero nor too large. -/
structure PrivateKey where
  number : Nat
  positive : 0 < number
  below : number < Curve.order
  deriving Repr, DecidableEq

namespace PrivateKey

def ofNat? (n : Nat) : Option PrivateKey :=
  if h : 0 < n ∧ n < Curve.order then some ⟨n, h.1, h.2⟩ else none

/-- The key with the given 64 hexadecimal digits, which may have marks in front. -/
def ofHex? (s : String) : Option PrivateKey :=
  (Hex.bytes? 32 (Hex.dropMarks s.toList)).bind fun bytes => ofNat? (natOfBytes bytes)

/-- The coordinates of the point that belongs to a key. -/
def publicBytes (k : PrivateKey) : Bytes :=
  match Curve.times k.number (some Curve.generator) with
  | some p => bytesOfNat 32 p.x ++ bytesOfNat 32 p.y
  | none => []

def address (k : PrivateKey) : Address :=
  Address.ofBytes ((Keccak.hash k.publicBytes).drop 12)

end PrivateKey

/-- The address with the given 40 hexadecimal digits, which may have a mark in front. -/
def Address.ofText? (s : String) : Option Address :=
  (Hex.bytes? 20 s.toList).map Address.ofBytes

end PriceOracle
