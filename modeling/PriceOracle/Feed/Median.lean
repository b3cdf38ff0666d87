/-!
# PriceOracle.Feed.Median

The median of doubles. They are put in the order of their bits: negative ones first, by falling
magnitude, a NaN beyond the infinity of its sign, and zero above its negative. The median is the
middle one of an odd number and the mean of the two middle ones of an even number.
-/

namespace PriceOracle

/-- A double as its 64 bits, so that NaNs with and without a sign are apart. -/
structure Double where
  bits : UInt64
  deriving Repr, DecidableEq

namespace Double

def ofFloat (x : Float) : Double := ⟨x.toBits⟩

def toFloat (d : Double) : Float := Float.ofBits d.bits

/-- The place of a double in the order of all doubles. -/
def rank (d : Double) : Int :=
  if d.bits.toNat < Nat.pow 2 63 then d.bits.toNat
  else (Nat.pow 2 63 : Int) - 1 - d.bits.toNat

def le (a b : Double) : Bool := a.rank ≤ b.rank

end Double

def sorted (values : List Double) : List Double := values.mergeSort Double.le

/-- The middle ones of the values in order: one of an odd number, two of an even one. -/
def middles (values : List Double) : List Double :=
  let n := values.length
  if n % 2 = 0 then ((sorted values).drop (n / 2 - 1)).take (if n = 0 then 0 else 2)
  else ((sorted values).drop (n / 2)).take 1

def median (values : List Double) : Option Float :=
  match middles values with
  | [x] => some x.toFloat
  | [x, y] => some ((x.toFloat + y.toFloat) / 2.0)
  | _ => none

end PriceOracle
