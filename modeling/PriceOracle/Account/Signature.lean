import PriceOracle.Account.Key
import PriceOracle.Hash.Hmac

/-!
# PriceOracle.Account.Signature

Signatures of hashes by private keys. The secret number of a signature is drawn from the key and the
hash, so that the same hash is always signed the same way. Of the two numbers `s` and `-s`, which
are as good as each other, a signature has the lower one.
-/

namespace PriceOracle
namespace PrivateKey

structure Signature where
  r : Nat
  s : Nat
  /-- Is the height of the secret point odd? -/
  isOdd : Bool
  deriving Repr, DecidableEq

namespace Signature

/-- The state that secret numbers are drawn from. -/
structure Source where
  key : Bytes
  value : Bytes

namespace Source

def stir (extra : Bytes) (s : Source) : Source :=
  let key := Hmac.tag s.key (s.value ++ extra)
  ⟨key, Hmac.tag key s.value⟩

/-- The state for a private key and a hash. -/
def start (k : PrivateKey) (hash : Bytes) : Source :=
  let seed := bytesOfNat 32 k.number ++ bytesOfNat 32 (natOfBytes hash % Curve.order)
  ((Source.mk (List.replicate 32 0) (List.replicate 32 1)).stir (0 :: seed)).stir (1 :: seed)

def draw (s : Source) : Nat × Source :=
  let value := Hmac.tag s.key s.value
  (natOfBytes value, ⟨s.key, value⟩)

end Source

/-- The signature with a given secret number, if that is any good. -/
def withSecret? (k : PrivateKey) (hash : Bytes) (secret : Nat) : Option Signature := do
  let secret ← ofNat? secret
  let point ← Curve.times secret.number (some Curve.generator)
  let r := point.x % Curve.order
  let s := Curve.inverseModulo Curve.order secret.number * (natOfBytes hash + r * k.number)
    % Curve.order
  if r = 0 ∨ s = 0 then none
  else if 2 * s < Curve.order then some ⟨r, s, point.y % 2 = 1⟩
  else some ⟨r, Curve.order - s, point.y % 2 = 0⟩

/-- The signature with the first of so many drawn numbers that is good. -/
def search (k : PrivateKey) (hash : Bytes) : (draws : Nat) → Source → Option Signature
  | 0, _ => none
  | draws + 1, source =>
    let (secret, source) := source.draw
    match withSecret? k hash secret with
    | some signature => some signature
    | none => search k hash draws (source.stir [0])

/-- More draws than ever fail in a row. -/
def patience : Nat := 16

end Signature

def sign? (k : PrivateKey) (hash : Bytes) : Option Signature :=
  Signature.search k hash Signature.patience (.start k hash)

end PrivateKey
end PriceOracle
