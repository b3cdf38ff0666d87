import PriceOracle.Proofs.Binary64.Rounding

/-!
# PriceOracle.Proofs.Binary64.Operations

Arithmetic on magnitudes: each operation gives the magnitude nearest to its exact result.
-/

namespace PriceOracle
namespace Binary64

open Float.Model Float.Model.UnpackedFloat

variable {n m a b : ℕ} {e i j : ℤ} {s t : Sign}

theorem mantissa_pos (hn : n ≠ 0) : 0 < mantissa n := by
  have := mul_add_mantissa n
  have := le_mantissa n
  rw [Nat.pos_iff_ne_zero]
  rintro h
  omega

theorem unpacked_of_ne (s : Sign) (hn : n ≠ 0) :
    unpacked s n = .finite s (mantissa n) (place n) (mantissa_pos hn) :=
  dif_neg (mantissa_pos hn).ne'

/-- A magnitude that is a double is zero, or it has a mantissa. -/
theorem unpacked_cases (s : Sign) (n : ℕ) :
    unpacked s n = .zero s ∨ ∃ m e hm, unpacked s n = .finite s m e hm := by
  by_cases hn : n = 0
  · exact .inl (hn ▸ unpacked_zero s)
  · exact .inr ⟨_, _, _, unpacked_of_ne s hn⟩

theorem mul_finite (ha : 0 < a) (hb : 0 < b) (h : Fine (a * b) (i + j)) :
    ∃ n, Rounds (a * 2 ^ i * (b * 2 ^ j)) n ∧
      UnpackedFloat.mul .binary64 (.finite s a i ha) (.finite t b j hb) = unpacked (s * t) n := by
  obtain ⟨n, hn, hmul⟩ := roundWithAccuracy_eq (s := s * t) (represents_exact (a * b)) h
  refine ⟨n, ?_, hmul⟩
  have hvalue : (a : ℚ) * 2 ^ i * (b * 2 ^ j) = (a * b : ℕ) * 2 ^ (i + j) := by
    rw [zpow_add₀ two_ne_zero]
    push_cast
    ring
  rwa [hvalue]

theorem mul_unpacked (s t : Sign) (n m : ℕ) :
    ∃ k, Rounds (value n * value m) k ∧
      UnpackedFloat.mul .binary64 (unpacked s n) (unpacked t m) = unpacked (s * t) k := by
  by_cases hn : n = 0
  · subst hn
    refine ⟨0, by simpa [value_zero] using rounds_zero, ?_⟩
    by_cases hm : m = 0
    · subst hm
      rfl
    · rw [unpacked_of_ne t hm]
      rfl
  by_cases hm : m = 0
  · subst hm
    refine ⟨0, by simpa [value_zero] using rounds_zero, ?_⟩
    rw [unpacked_of_ne s hn]
    rfl
  rw [unpacked_of_ne s hn, unpacked_of_ne t hm]
  refine mul_finite _ _ ?_
  -- a product with a full mantissa has a full mantissa
  have hpos := mantissa_pos hn
  have hpos' := mantissa_pos hm
  obtain h | h := le_mantissa n
  · exact .inl (h.trans (Nat.le_mul_of_pos_right _ hpos'))
  obtain h' | h' := le_mantissa m
  · exact .inl (h'.trans (Nat.le_mul_of_pos_left _ hpos))
  · exact .inr (by rw [place, place, h, h']; norm_num)

theorem div_finite (ha : 0 < a) (hb : 0 < b) :
    ∃ n, Rounds (a * 2 ^ i / (b * 2 ^ j)) n ∧
      UnpackedFloat.div .binary64 (.finite s a i ha) (.finite t b j hb) = unpacked (s / t) n := by
  obtain ⟨e, he⟩ : ∃ e, min (i - j) (Format.binary64.targetExponent
      (totalExponent a i - totalExponent b j)) = e := ⟨_, rfl⟩
  obtain ⟨d, hd⟩ : ∃ d : ℕ, i - j - e = d := ⟨(i - j - e).toNat, by omega⟩
  have hcore : divCore .binary64 a i b j =
      ((a <<< d) / b, e, accuracyOfFraction ((a <<< d) % b) b) := by
    unfold divCore
    simp only [he, show (i - j - e).toNat = d by omega]
  have hfine : Fine ((a <<< d) / b) e := by
    rw [targetExponent_binary64, totalExponent, totalExponent] at he
    by_cases hlow : e ≤ -1074
    · exact .inr hlow
    · left
      rw [Nat.le_div_iff_mul_le hb]
      have hbound : b < 2 ^ (b.log2 + 1) := Nat.lt_log2_self
      calc 2 ^ 52 * b ≤ 2 ^ 52 * 2 ^ (b.log2 + 1) := Nat.mul_le_mul_left _ hbound.le
        _ = 2 ^ (52 + (b.log2 + 1)) := (pow_add ..).symm
        _ ≤ 2 ^ (a.log2 + d) := Nat.pow_le_pow_right two_pos (by omega)
        _ = 2 ^ a.log2 * 2 ^ d := pow_add ..
        _ ≤ a * 2 ^ d := Nat.mul_le_mul_right _ (Nat.log2_self_le ha.ne')
        _ = a <<< d := (Nat.shiftLeft_eq ..).symm
  obtain ⟨n, hn, hround⟩ := roundWithAccuracy_eq (s := s / t) (represents_div (a <<< d) hb) hfine
  refine ⟨n, ?_, ?_⟩
  · have hvalue : (a : ℚ) * 2 ^ i / (b * 2 ^ j) = (a <<< d : ℕ) / b * 2 ^ e := by
      have hb' : (b : ℚ) ≠ 0 := by exact_mod_cast hb.ne'
      rw [← shiftLeft_mul_zpow a d i, show i - (d : ℤ) = e + j by omega, zpow_add₀ two_ne_zero]
      field_simp
    rwa [hvalue]
  · unfold UnpackedFloat.div
    simp only [hcore]
    exact hround

theorem div_unpacked (s t : Sign) (n : ℕ) (hm : m ≠ 0) :
    ∃ k, Rounds (value n / value m) k ∧
      UnpackedFloat.div .binary64 (unpacked s n) (unpacked t m) = unpacked (s / t) k := by
  rw [unpacked_of_ne t hm]
  by_cases hn : n = 0
  · subst hn
    exact ⟨0, by simpa [value_zero] using rounds_zero, rfl⟩
  · rw [unpacked_of_ne s hn]
    exact div_finite _ _

/-- Mantissas of one last place. -/
theorem decreaseExponent_value (h : j ≤ i) :
    ((decreaseExponent m i j).1 : ℚ) * 2 ^ j = m * 2 ^ i := by
  unfold decreaseExponent
  rw [← shiftLeft_mul_zpow m (i - j).toNat i, show i - ((i - j).toNat : ℤ) = j by omega]

theorem add_unpacked (hn : n ≠ 0) (hm : m = 0 ∨ t = .positive) :
    ∃ k, Rounds (value n + value m) k ∧
      UnpackedFloat.add .binary64 (unpacked .positive n) (unpacked t m) = unpacked .positive k := by
  rw [unpacked_of_ne _ hn]
  by_cases h0 : m = 0
  · subst h0
    refine ⟨n, by rw [value_zero, add_zero]; exact rounds_value n, ?_⟩
    rw [unpacked_of_ne _ hn]
    rfl
  · obtain rfl := hm.resolve_left h0
    rw [unpacked_of_ne _ h0]
    have hvalue : value n + value m =
        ((decreaseExponent (mantissa n) (place n) (min (place n) (place m))).1 +
          (decreaseExponent (mantissa m) (place m) (min (place n) (place m))).1 : ℕ) *
          2 ^ min (place n) (place m) := by
      rw [Nat.cast_add, add_mul, decreaseExponent_value (min_le_left _ _),
        decreaseExponent_value (min_le_right _ _), value, value]
    rw [hvalue]
    exact normalize_eq _ _

/-- A zero adds nothing, but for its sign. -/
theorem zero_add_unpacked (s t : Sign) (m : ℕ) : ∃ r, (m = 0 ∨ r = t) ∧
    UnpackedFloat.add .binary64 (unpacked s 0) (unpacked t m) = unpacked r m := by
  by_cases h0 : m = 0
  · subst h0
    cases s <;> cases t <;> exact ⟨_, .inl rfl, rfl⟩
  · refine ⟨t, .inr rfl, ?_⟩
    rw [unpacked_of_ne t h0]
    rfl

theorem sub_unpacked (hn : n ≠ 0) (hm : m = 0 ∨ t = .positive) (hle : m ≤ n) :
    ∃ k, Rounds (value n - value m) k ∧
      UnpackedFloat.sub .binary64 (unpacked .positive n) (unpacked t m) = unpacked .positive k := by
  rw [unpacked_of_ne _ hn]
  by_cases h0 : m = 0
  · subst h0
    refine ⟨n, by rw [value_zero, sub_zero]; exact rounds_value n, ?_⟩
    rw [unpacked_of_ne _ hn]
    rfl
  · obtain rfl := hm.resolve_left h0
    rw [unpacked_of_ne _ h0]
    obtain ⟨x, hx⟩ : ∃ x, (decreaseExponent (mantissa n) (place n)
      (min (place n) (place m))).1 = x := ⟨_, rfl⟩
    obtain ⟨y, hy⟩ : ∃ y, (decreaseExponent (mantissa m) (place m)
      (min (place n) (place m))).1 = y := ⟨_, rfl⟩
    have hxn : (x : ℚ) * 2 ^ min (place n) (place m) = value n :=
      hx ▸ decreaseExponent_value (min_le_left _ _)
    have hym : (y : ℚ) * 2 ^ min (place n) (place m) = value m :=
      hy ▸ decreaseExponent_value (min_le_right _ _)
    have hyx : y ≤ x := by
      have hpos : (0 : ℚ) < 2 ^ min (place n) (place m) := by positivity
      have := strictMono_value.monotone hle
      rw [← hxn, ← hym] at this
      exact_mod_cast le_of_mul_le_mul_right this hpos
    have hvalue : value n - value m = (x - y : ℕ) * 2 ^ min (place n) (place m) := by
      rw [Nat.cast_sub hyx, sub_mul, hxn, hym]
    obtain ⟨k, hk, hnormalize⟩ := normalize_eq (x - y) (min (place n) (place m))
    refine ⟨k, hvalue ▸ hk, ?_⟩
    rw [← hnormalize, Nat.cast_sub hyx]
    unfold UnpackedFloat.sub
    simp only [hx, hy]
    rfl

end Binary64
end PriceOracle
