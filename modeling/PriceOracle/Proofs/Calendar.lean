import Mathlib.Algebra.Ring.Int.Defs
import Mathlib.Algebra.Ring.Nat
import PriceOracle.Calendar

/-!
# PriceOracle.Proofs.Calendar

Seconds in 64 bits with a sign. Counts from `2 ^ 63` on are read as negative numbers, so that two
counts keep their order unless only the greater one is that large (`signed64_le_iff`). Times between
instants are told as they are as long as they fit (`elapsed_eq`, `apart_eq`); instants that are
farther from each other may seem to be near (`one_le_elapsed_iff`, `apart_le_iff`).
-/

namespace PriceOracle
namespace Calendar

variable {n m : Nat} {x a b : Int}

theorem wrapped64_eq_self (h : IsSigned64 x) : wrapped64 x = x := by
  obtain ⟨hlow, hhigh⟩ := h
  have hperiod : Nat.pow 2 64 = 18446744073709551616 := rfl
  rw [wrapped64, hperiod]
  exact Int.bmod_eq_of_le (by omega) (by omega)

/-- Below the range, one period is added. -/
theorem wrapped64_of_lt (hlow : -(2 ^ 63 + 2 ^ 64) ≤ x) (hhigh : x < -2 ^ 63) :
    wrapped64 x = x + 2 ^ 64 := by
  have hshift : wrapped64 (x + 2 ^ 64) = wrapped64 x := Int.add_bmod_right x (Nat.pow 2 64)
  rw [← hshift]
  exact wrapped64_eq_self ⟨by omega, by omega⟩

/-- Above the range, one period is taken away. -/
theorem wrapped64_of_le (hlow : 2 ^ 63 ≤ x) (hhigh : x < 2 ^ 63 + 2 ^ 64) :
    wrapped64 x = x - 2 ^ 64 := by
  have hshift : wrapped64 (x - 2 ^ 64) = wrapped64 x := Int.sub_bmod_right x (Nat.pow 2 64)
  rw [← hshift]
  exact wrapped64_eq_self ⟨by omega, by omega⟩

theorem signed64_eq_self (h : n < 2 ^ 63) : signed64 n = n :=
  wrapped64_eq_self ⟨by omega, by omega⟩

theorem signed64_of_le (hlow : 2 ^ 63 ≤ n) (hhigh : n < 2 ^ 64) : signed64 n = n - 2 ^ 64 :=
  wrapped64_of_le (by omega) (by omega)

theorem signed64_neg (hlow : 2 ^ 63 ≤ n) (hhigh : n < 2 ^ 64) : signed64 n < 0 := by
  rw [signed64_of_le hlow hhigh]
  omega

/-- Two numbers keep their order, unless only the greater one is read as a negative number. -/
theorem signed64_le_iff (hle : n ≤ m) (h : m < 2 ^ 64) :
    signed64 n ≤ signed64 m ↔ m < 2 ^ 63 ∨ 2 ^ 63 ≤ n := by
  obtain hm | hm := Nat.lt_or_ge m (2 ^ 63)
  · rw [signed64_eq_self (Nat.lt_of_le_of_lt hle hm), signed64_eq_self hm]
    omega
  · rw [signed64_of_le hm h]
    obtain hn | hn := Nat.lt_or_ge n (2 ^ 63)
    · rw [signed64_eq_self hn]
      omega
    · rw [signed64_of_le hn (Nat.lt_of_le_of_lt hle h)]
      omega

theorem isSigned64_signed64 (n : Nat) : IsSigned64 (signed64 n) := by
  have hperiod : Nat.pow 2 64 = 18446744073709551616 := rfl
  unfold IsSigned64 signed64 wrapped64
  rw [hperiod]
  have hlow := @Int.le_bmod n 18446744073709551616 (by decide)
  have hhigh := @Int.bmod_lt n 18446744073709551616 (by decide)
  omega

/-! ## Times between instants -/

theorem elapsed_eq (h : IsSigned64 (b - a)) : elapsed a b = b - a := wrapped64_eq_self h

/-- An instant that is too far in the past seems to be later, and one that is too far in the future
seems to be earlier. -/
theorem one_le_elapsed_iff (ha : IsSigned64 a) (hb : IsSigned64 b) :
    1 ≤ elapsed a b ↔ 1 ≤ b - a ∧ b - a < 2 ^ 63 ∨ b - a < -2 ^ 63 := by
  obtain ⟨halow, hahigh⟩ := ha
  obtain ⟨hblow, hbhigh⟩ := hb
  obtain hlt | hlow := Int.lt_or_le (b - a) (-2 ^ 63)
  · rw [elapsed, wrapped64_of_lt (by omega) hlt]
    omega
  obtain hhigh | hle := Int.lt_or_le (b - a) (2 ^ 63)
  · rw [elapsed_eq ⟨hlow, hhigh⟩]
    omega
  · rw [elapsed, wrapped64_of_le hle (by omega)]
    omega

theorem apart_eq (h : IsSigned64 (a - b).natAbs) : apart a b = (a - b).natAbs := by
  have hfits : IsSigned64 (a - b) := by
    unfold IsSigned64 at h ⊢
    omega
  rw [apart, elapsed_eq hfits]
  exact wrapped64_eq_self h

theorem apart_self (a : Int) : apart a a = 0 := by
  rw [apart_eq] <;> simp [IsSigned64]

/-- Instants that are almost all seconds apart seem to be near each other, and so do those that are
just half of all seconds apart. -/
theorem apart_le_iff (ha : IsSigned64 a) (hb : IsSigned64 b) (hn : n < 2 ^ 63) :
    apart a b ≤ n ↔
      (a - b).natAbs ≤ n ∨ (a - b).natAbs = 2 ^ 63 ∨ 2 ^ 64 ≤ (a - b).natAbs + n := by
  obtain ⟨halow, hahigh⟩ := ha
  obtain ⟨hblow, hbhigh⟩ := hb
  obtain hnear | hfar := Nat.lt_or_ge (a - b).natAbs (2 ^ 63)
  · rw [apart_eq ⟨by omega, by omega⟩]
    omega
  -- What is too far in one direction is told as a distance in the other one.
  have helapsed : (elapsed b a).natAbs = 2 ^ 64 - (a - b).natAbs := by
    obtain hlt | hge := Int.lt_or_le (a - b) (-2 ^ 63)
    · rw [elapsed, wrapped64_of_lt (by omega) hlt]
      omega
    obtain heq | hpos : a - b = -2 ^ 63 ∨ 2 ^ 63 ≤ a - b := by omega
    · rw [elapsed_eq ⟨by omega, by omega⟩, heq]
      rfl
    · rw [elapsed, wrapped64_of_le hpos (by omega)]
      omega
  rw [apart, helapsed]
  obtain heq | hgreater := Nat.eq_or_lt_of_le hfar
  · rw [← heq, wrapped64_of_le (by omega) (by omega)]
    omega
  · rw [wrapped64_eq_self ⟨by omega, by omega⟩]
    omega

end Calendar
end PriceOracle
