import Mathlib.Algebra.Order.Floor.Semifield
import Mathlib.Data.Rat.Floor
import PriceOracle.Proofs.Binary64.Unsigned

/-!
# PriceOracle.Proofs.Decimal.Whole

The whole number nearest to a double that is not below zero.
-/

namespace PriceOracle
namespace Decimal

open Binary64

variable {x : Float}

theorem roundedWithin_eq (limit : ℕ) (hx : IsUnsigned x) (hfinite : code x < infinite) :
    roundedWithin limit x = min limit ⌊size x + 1 / 2⌋₊ := by
  have hhalf : ⌊(0 + 1 / 2 : ℚ)⌋₊ = 0 := by norm_num
  obtain ⟨num, hnum⟩ : ∃ num : ℕ, mantissa (code x) * Nat.pow 2 (place (code x)).toNat = num :=
    ⟨_, rfl⟩
  obtain ⟨den, hden⟩ : ∃ den : ℕ, Nat.pow 2 (-place (code x)).toNat = den := ⟨_, rfl⟩
  have hpos : 0 < den := hden ▸ Nat.two_pow_pos _
  have hsize : size x * den = num := by
    rw [size, value, ← hnum, ← hden, mul_assoc, Nat.pow_eq, Nat.pow_eq]
    push_cast
    rw [zpow_split 2 two_ne_zero]
  have hfloor : (2 * num + den) / (2 * den) = ⌊size x + 1 / 2⌋₊ := by
    rw [← Nat.floor_div_eq_div (K := ℚ)]
    congr 1
    have : (den : ℚ) ≠ 0 := by positivity
    push_cast
    rw [← hsize]
    field_simp
  unfold roundedWithin
  rw [kind_of, if_pos hfinite]
  simp only [magnitude, hnum, hden, hfloor]
  split
  · next hneg =>
    have h0 : code x = 0 := hx.zero_or.resolve_right fun hs => by
      rw [hs] at hneg
      cases hneg
    rw [size, h0, value_zero, hhalf, Nat.min_zero]
  · rfl

end Decimal
end PriceOracle
