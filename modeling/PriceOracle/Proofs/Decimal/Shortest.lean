import Mathlib.Algebra.Order.Field.Power
import Mathlib.Algebra.Order.Field.Rat
import Mathlib.Tactic.FieldSimp
import Mathlib.Tactic.Linarith
import Mathlib.Tactic.NormNum
import Mathlib.Tactic.Positivity
import Mathlib.Tactic.Ring
import PriceOracle.Decimal.Shortest

/-!
# PriceOracle.Proofs.Decimal.Shortest

The shortest digits read back. Decimals and doubles are compared as rational numbers here
(`compareScaled_eq`); `readsBack_iff` names the ends of the interval of the reals that round to a
double, and the digits that `shortest` finds lie in it (`readsBack_shortest`).
-/

namespace PriceOracle
namespace Decimal

def Scaled.value (d : Scaled) : ℚ := d.digits * 10 ^ d.exp

def Binary.value (x : Binary) : ℚ := x.m * 2 ^ x.q

theorem zpow_split (b : ℚ) (hb : b ≠ 0) (i : Int) :
    b ^ i * b ^ (-i).toNat = b ^ i.toNat := by
  rw [← zpow_natCast b (-i).toNat, ← zpow_natCast b i.toNat, ← zpow_add₀ hb]
  congr 1
  omega

theorem compareScaled_eq (a : Nat) (i : Int) (n : Nat) (j : Int) :
    compareScaled a i n j = cmp ((a : ℚ) * 10 ^ i) (n * 2 ^ j) := by
  have hpos : (0 : ℚ) < 2 ^ (-j).toNat * 10 ^ (-i).toNat := by positivity
  unfold compareScaled
  rw [← cmp_eq_compare, ← (Nat.strictMono_cast (α := ℚ)).cmp_map_eq,
    ← cmp_mul_pos_right hpos ((a : ℚ) * 10 ^ i)]
  congr 1
  · simp only [Nat.pow_eq]
    push_cast
    rw [← zpow_split 10 (by norm_num) i]
    ring
  · simp only [Nat.pow_eq]
    push_cast
    rw [← zpow_split 2 (by norm_num) j]
    ring

theorem compareScaled_eq_lt {a n : Nat} {i j : Int} :
    compareScaled a i n j = .lt ↔ (a : ℚ) * 10 ^ i < n * 2 ^ j := by
  rw [compareScaled_eq, cmp_eq_lt_iff]

theorem compareScaled_eq_gt {a n : Nat} {i j : Int} :
    compareScaled a i n j = .gt ↔ (n : ℚ) * 2 ^ j < a * 10 ^ i := by
  rw [compareScaled_eq, cmp_eq_gt_iff]

theorem compareScaled_eq_eq {a n : Nat} {i j : Int} :
    compareScaled a i n j = .eq ↔ (a : ℚ) * 10 ^ i = n * 2 ^ j := by
  rw [compareScaled_eq, cmp_eq_eq_iff]

/-- The least real that may round to `x`. -/
def Binary.lower (x : Binary) : ℚ :=
  (if x.narrowBelow then 4 * x.m - 1 else 4 * x.m - 2 : Nat) * 2 ^ (x.q - 2)

/-- The greatest real that may round to `x`. -/
def Binary.upper (x : Binary) : ℚ := (4 * x.m + 2 : Nat) * 2 ^ (x.q - 2)

/-- The ends belong to the interval of an even `m`. -/
def Binary.Around (x : Binary) (v : ℚ) : Prop :=
  (x.lower < v ∨ x.m % 2 = 0 ∧ x.lower = v) ∧ (v < x.upper ∨ x.m % 2 = 0 ∧ v = x.upper)

theorem readsBack_iff (x : Binary) (d : Scaled) : x.readsBack d = true ↔ x.Around d.value := by
  unfold Binary.readsBack Binary.Around Scaled.value Binary.lower Binary.upper
  simp only [Bool.and_eq_true, Bool.or_eq_true, beq_iff_eq, compareScaled_eq_lt,
    compareScaled_eq_gt, compareScaled_eq_eq, decide_eq_true_eq,
    eq_comm (b := (d.digits : ℚ) * 10 ^ d.exp)]

theorem around_value (x : Binary) : x.Around x.value := by
  have hpos : (0 : ℚ) < 2 ^ (x.q - 2) := by positivity
  have hvalue : x.value = 4 * x.m * 2 ^ (x.q - 2) := by
    rw [Binary.value, zpow_sub₀ two_ne_zero]
    norm_num
    ring
  constructor
  · rw [hvalue, Binary.lower]
    by_cases hm : x.m = 0
    · exact .inr ⟨by omega, by simp [hm]⟩
    · refine .inl (mul_lt_mul_of_pos_right ?_ hpos)
      norm_cast
      split <;> omega
  · rw [hvalue, Binary.upper]
    refine .inl (mul_lt_mul_of_pos_right ?_ hpos)
    norm_cast
    omega

theorem value_strip (fuel : Nat) (d : Scaled) : (strip fuel d).value = d.value := by
  induction fuel generalizing d with
  | zero => rfl
  | succ fuel ih =>
    rw [strip]
    split
    · next h =>
      have hdigits : (d.digits : ℚ) = (d.digits / 10 : Nat) * 10 := by
        norm_cast
        omega
      rw [ih, Scaled.value, Scaled.value, hdigits, zpow_add₀ (by norm_num)]
      ring
    · rfl

theorem value_exact (x : Binary) : (exact x).value = x.value := by
  unfold exact
  split
  · next h =>
    obtain ⟨q, hq⟩ := Int.eq_ofNat_of_zero_le h
    simp [Scaled.value, Binary.value, hq]
  · next h =>
    obtain ⟨q, hq⟩ : ∃ q : Nat, x.q = -q := ⟨(-x.q).toNat, by omega⟩
    have hten : (10 : ℚ) ^ q = 2 ^ q * 5 ^ q := by rw [← mul_pow]; norm_num
    simp only [Scaled.value, Binary.value, hq, neg_neg, Int.toNat_natCast, zpow_neg, zpow_natCast,
      Nat.pow_eq, Nat.cast_mul, Nat.cast_pow, Nat.cast_ofNat, hten]
    field_simp

theorem readsBack_onGrid {tie : Tie} {x : Binary} {e : Int} {d : Scaled}
    (h : onGrid tie x e = some d) : x.readsBack d = true := by
  unfold onGrid at h
  simp only at h
  repeat' split at h
  all_goals first
    | (cases h; simp_all)
    | cases h

theorem around_shortest (tie : Tie) (x : Binary) : x.Around (shortest tie x).value := by
  unfold shortest
  split
  · next hm =>
    have hzero : (⟨0, 0⟩ : Scaled).value = x.value := by simp [Scaled.value, Binary.value, hm]
    rw [hzero]
    exact around_value x
  · simp only [value_strip]
    cases hfound : (List.range 17).findSome? fun n => onGrid tie x (scale x - (n + 1 : Nat)) with
    | none =>
      rw [Option.getD_none, value_exact]
      exact around_value x
    | some d =>
      obtain ⟨n, -, hn⟩ := List.exists_of_findSome?_eq_some hfound
      exact (readsBack_iff x d).1 (readsBack_onGrid hn)

/-- The digits of a number other than zero are not zero. -/
theorem digits_shortest (tie : Tie) (x : Binary) :
    (shortest tie x).digits = 0 → (shortest tie x).exp ≤ 0 := by
  intro hd
  by_cases hm : x.m = 0
  · rw [shortest, if_pos hm]
  · have hlower : 0 < x.lower := by
      have : 0 < if x.narrowBelow then 4 * x.m - 1 else 4 * x.m - 2 := by split <;> omega
      unfold Binary.lower
      positivity
    have hvalue : (shortest tie x).value = 0 := by rw [Scaled.value, hd]; simp
    have haround := (around_shortest tie x).1
    rw [hvalue] at haround
    obtain h | ⟨-, h⟩ := haround
    · exact absurd hlower (not_lt.2 h.le)
    · exact absurd hlower (not_lt.2 h.le)

end Decimal
end PriceOracle
