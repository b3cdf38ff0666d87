import PriceOracle.Decimal.Binary

/-!
# PriceOracle.Decimal.Shortest

The fewest digits that read back. For one, two, ... seventeen digits the two neighbours of the
value on that decimal grid are tried; the first grid with a hit wins, and of two hits the nearer.
`Tie` says which of two equally near neighbours is taken.
-/

namespace PriceOracle
namespace Decimal

/-- Which of two equally near decimals is taken. -/
inductive Tie where
  | toEven
  | up
  deriving Repr, DecidableEq

/-- The least `k` with `m * 2 ^ q < 10 ^ k`. The binary logarithm misses it by a step or two. -/
def scale (x : Binary) : Int :=
  let guess := ((x.m.log2 : Int) + x.q) * 30103 / 100000 - 1
  let fits (i : Nat) : Bool := compareScaled 1 (guess + i) x.m x.q == .gt
  match (List.range 5).find? fits with
  | some i => guess + i
  | none => guess + 5

/-- The decimal with grid `10 ^ e` that reads back to `x`, if a neighbour of `x` on it does. -/
def onGrid (tie : Tie) (x : Binary) (e : Int) : Option Scaled :=
  let (num, den) := x.over e
  let low := num / den
  let lowHit := x.readsBack ⟨low, e⟩
  let highHit := x.readsBack ⟨low + 1, e⟩
  if lowHit && highHit then
    match compare (2 * num) ((2 * low + 1) * den), tie with
    | .lt, _ => some ⟨low, e⟩
    | .gt, _ => some ⟨low + 1, e⟩
    | .eq, .up => some ⟨low + 1, e⟩
    | .eq, .toEven => if low % 2 = 0 then some ⟨low, e⟩ else some ⟨low + 1, e⟩
  else if lowHit then some ⟨low, e⟩
  else if highHit then some ⟨low + 1, e⟩
  else none

/-- Move factors of ten from the digits to the exponent, at most `fuel` of them. -/
def strip : (fuel : Nat) → Scaled → Scaled
  | 0, d => d
  | fuel + 1, d =>
    if d.digits ≠ 0 ∧ d.digits % 10 = 0 then strip fuel ⟨d.digits / 10, d.exp + 1⟩ else d

/-- The exact decimal value of `m * 2 ^ q`. -/
def exact (x : Binary) : Scaled :=
  if 0 ≤ x.q then ⟨x.m * Nat.pow 2 x.q.toNat, 0⟩ else ⟨x.m * Nat.pow 5 (-x.q).toNat, x.q⟩

/-- The shortest decimal that reads back to `x`, the nearest of those. -/
def shortest (tie : Tie) (x : Binary) : Scaled :=
  if x.m = 0 then ⟨0, 0⟩
  else
    let k := scale x
    let found := (List.range 17).findSome? fun n => onGrid tie x (k - (n + 1 : Nat))
    strip 20 (found.getD (exact x))

end Decimal
end PriceOracle
