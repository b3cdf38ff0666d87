/-!
# PriceOracle.Decimal.Binary

A double as an exact number. The bits of a finite double are `m * 2 ^ q` with a sign, and the
reals that round to it form an interval around that value: from halfway to the neighbour below to
halfway to the neighbour above, with both ends when `m` is even. `readsBack` decides whether a
decimal lies in it, by comparing natural numbers.
-/

namespace PriceOracle
namespace Decimal

/-- A number in decimal: `digits * 10 ^ exp`. -/
structure Scaled where
  digits : Nat
  exp : Int
  deriving Repr, DecidableEq

/-- The magnitude of a finite double: `m * 2 ^ q`. -/
structure Binary where
  m : Nat
  q : Int
  /-- The gap to the value below is half the gap to the value above. -/
  narrowBelow : Bool
  deriving Repr, DecidableEq

/-- The magnitude that the lower 63 bits of a finite double stand for. -/
def Binary.ofBits (bits : UInt64) : Binary :=
  let e := ((bits >>> 52) &&& 0x7FF).toNat
  let f := (bits &&& 0xFFFFFFFFFFFFF).toNat
  if e = 0 then ⟨f, -1074, false⟩ else ⟨Nat.pow 2 52 + f, (e : Int) - 1075, f = 0 && 1 < e⟩

inductive Kind where
  | nan
  | infinite (negative : Bool)
  | finite (negative : Bool) (magnitude : Binary)

def Kind.of (x : Float) : Kind :=
  let bits := x.toBits
  let negative := bits >>> 63 = 1
  if x.isNaN then .nan
  else if (bits >>> 52) &&& 0x7FF = 0x7FF then .infinite negative
  else .finite negative (.ofBits bits)

/-- Compare `a * 10 ^ i` with `n * 2 ^ j`. -/
def compareScaled (a : Nat) (i : Int) (n : Nat) (j : Int) : Ordering :=
  compare (a * Nat.pow 10 i.toNat * Nat.pow 2 (-j).toNat)
    (n * Nat.pow 2 j.toNat * Nat.pow 10 (-i).toNat)

/-- Is `d` one of the reals that round to `x`? -/
def Binary.readsBack (x : Binary) (d : Scaled) : Bool :=
  let below := if x.narrowBelow then 4 * x.m - 1 else 4 * x.m - 2
  let closed := x.m % 2 = 0
  let left := compareScaled d.digits d.exp below (x.q - 2)
  let right := compareScaled d.digits d.exp (4 * x.m + 2) (x.q - 2)
  (left == .gt || closed && left == .eq) && (right == .lt || closed && right == .eq)

/-- A double without its fraction, as far as the natural numbers up to `limit` go. -/
def wholeWithin (limit : Nat) (x : Float) : Nat :=
  match Kind.of x with
  | .nan => 0
  | .infinite negative => if negative then 0 else limit
  | .finite negative b =>
    if negative then 0 else min limit (b.m * Nat.pow 2 b.q.toNat / Nat.pow 2 (-b.q).toNat)

/-- The whole number nearest to a double, a half away from zero, as far as the natural numbers up to
`limit` go. -/
def roundedWithin (limit : Nat) (x : Float) : Nat :=
  match Kind.of x with
  | .nan => 0
  | .infinite negative => if negative then 0 else limit
  | .finite negative b =>
    let num := b.m * Nat.pow 2 b.q.toNat
    let den := Nat.pow 2 (-b.q).toNat
    if negative then 0 else min limit ((2 * num + den) / (2 * den))

/-- Numerator and denominator of `m * 2 ^ q / 10 ^ e`. -/
def Binary.over (x : Binary) (e : Int) : Nat × Nat :=
  (x.m * Nat.pow 2 x.q.toNat * Nat.pow 10 (-e).toNat,
    Nat.pow 2 (-x.q).toNat * Nat.pow 10 e.toNat)

end Decimal
end PriceOracle
