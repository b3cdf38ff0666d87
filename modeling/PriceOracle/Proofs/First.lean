import Mathlib.Order.Nat

/-!
# PriceOracle.Proofs.First

The first number with a property, as a loop finds it that counts up from some number: it is there
already (`isFirst_iff_eq`), or the rest of the loop finds it (`isFirst_succ_iff`).
-/

namespace PriceOracle

/-- Of the numbers from `k` on, `n` is the first that has the property. -/
structure IsFirst (P : Nat → Prop) (k n : Nat) : Prop where
  le : k ≤ n
  holds : P n
  before : ∀ i, k ≤ i → i < n → ¬P i

section First

variable {P : Nat → Prop} {k n : Nat}

theorem isFirst_iff_eq (h : P k) : IsFirst P k n ↔ n = k := by
  constructor
  · intro hfirst
    by_contra hne
    exact hfirst.before k (Nat.le_refl k) (Nat.lt_of_le_of_ne hfirst.le (Ne.symm hne)) h
  · rintro rfl
    exact ⟨Nat.le_refl n, h, fun i hle hlt => absurd hle (Nat.not_le.2 hlt)⟩

theorem isFirst_succ_iff (h : ¬P k) : IsFirst P (k + 1) n ↔ IsFirst P k n := by
  constructor
  · intro hfirst
    refine ⟨Nat.le_of_succ_le hfirst.le, hfirst.holds, fun i hki hin => ?_⟩
    obtain rfl | hki := Nat.eq_or_lt_of_le hki
    · exact h
    · exact hfirst.before i hki hin
  · intro hfirst
    refine ⟨?_, hfirst.holds, fun i hki => hfirst.before i (Nat.le_of_succ_le hki)⟩
    obtain rfl | hkn := Nat.eq_or_lt_of_le hfirst.le
    · exact absurd hfirst.holds h
    · exact hkn

theorem isFirst_zero_iff : IsFirst P 0 n ↔ P n ∧ ∀ i < n, ¬P i :=
  ⟨fun h => ⟨h.holds, fun i => h.before i (Nat.zero_le i)⟩,
    fun h => ⟨Nat.zero_le n, h.1, fun i _ => h.2 i⟩⟩

theorem exists_isFirst (h : P n) : ∃ m ≤ n, IsFirst P 0 m := by
  classical
  have hex : ∃ n, P n := ⟨n, h⟩
  exact ⟨Nat.find hex, Nat.find_min' hex h,
    isFirst_zero_iff.2 ⟨Nat.find_spec hex, fun i => Nat.find_min hex⟩⟩

end First

end PriceOracle
