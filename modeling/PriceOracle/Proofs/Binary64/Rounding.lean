import Mathlib.Tactic.FieldSimp
import PriceOracle.Proofs.Binary64.Code

/-!
# PriceOracle.Proofs.Binary64.Rounding

Results are rounded to doubles by a mantissa that loses its last places one by one, with a bit for
half of the last place and a bit for everything below. Such a mantissa keeps standing for the same
number (`Represents.shiftRight`), so what comes out is the double nearest to the exact result
(`roundWithAccuracy_eq`, `normalize_eq`).
-/

namespace PriceOracle
namespace Binary64

open Float.Model Float.Model.UnpackedFloat

/-- A mantissa and the two bits behind it stand for `r`. -/
structure Represents (em : ExtendedMantissa) (r : ℚ) : Prop where
  le : em.mantissa ≤ r
  lt : r < em.mantissa + 1
  half : em.roundBit = true ↔ em.mantissa + 1 / 2 ≤ r
  rest : em.stickyBit = false ↔ r = em.mantissa ∨ r = em.mantissa + 1 / 2

variable {em : ExtendedMantissa} {r v : ℚ} {n m k : ℕ} {e : ℤ} {acc : Accuracy} {s : Sign}

section Represents

theorem represents_exact (m : ℕ) :
    Represents (ExtendedMantissa.ofMantissaAndAccuracy m .exact) m where
  le := le_rfl
  lt := lt_add_one _
  half := by simp [ExtendedMantissa.ofMantissaAndAccuracy]
  rest := by simp [ExtendedMantissa.ofMantissaAndAccuracy]

/-- The two bits of a fraction of the last place. -/
theorem represents_fraction (m : ℕ) {a b : ℕ} (h : a < b) :
    Represents (ExtendedMantissa.ofMantissaAndAccuracy m (accuracyOfFraction a b))
      (m + a / b) := by
  have hb : (0 : ℚ) < b := by exact_mod_cast Nat.zero_lt_of_lt h
  have hlt : (a / b : ℚ) < 1 := by
    rw [div_lt_one hb]
    exact_mod_cast h
  unfold accuracyOfFraction
  split
  · next ha => simpa [ha] using represents_exact m
  · next ha =>
    have hpos : (0 : ℚ) < a / b := by positivity
    cases hc : compare (2 * a) b with
    | lt =>
      have hhalf : (a / b : ℚ) < 1 / 2 := by
        rw [div_lt_div_iff₀ hb two_pos, one_mul, mul_comm]
        exact_mod_cast Nat.compare_eq_lt.1 hc
      show Represents ⟨m, false, true⟩ _
      refine ⟨?_, ?_, ?_, ?_⟩ <;> simp only [Bool.false_eq_true, Bool.true_eq_false, false_iff]
      · linarith
      · linarith
      · linarith
      · rintro (h | h) <;> linarith
    | eq =>
      have hhalf : (a / b : ℚ) = 1 / 2 := by
        rw [div_eq_div_iff hb.ne' two_ne_zero, one_mul, mul_comm]
        exact_mod_cast Nat.compare_eq_eq.1 hc
      show Represents ⟨m, true, false⟩ _
      rw [hhalf]
      refine ⟨?_, ?_, ?_, ?_⟩ <;> simp only [le_refl, or_true]
      · linarith
      · linarith
    | gt =>
      have hhalf : (1 / 2 : ℚ) < a / b := by
        rw [div_lt_div_iff₀ two_pos hb, one_mul, mul_comm]
        exact_mod_cast Nat.compare_eq_gt.1 hc
      show Represents ⟨m, true, true⟩ _
      refine ⟨?_, ?_, ?_, ?_⟩ <;> simp only [Bool.true_eq_false, false_iff, true_iff]
      · linarith
      · linarith
      · linarith
      · rintro (h | h) <;> linarith

/-- A quotient, from its whole part and its remainder. -/
theorem represents_div (a : ℕ) {b : ℕ} (hb : 0 < b) :
    Represents (ExtendedMantissa.ofMantissaAndAccuracy (a / b) (accuracyOfFraction (a % b) b))
      (a / b : ℚ) := by
  have hpos : (0 : ℚ) < b := by exact_mod_cast hb
  have hdiv : (a / b : ℚ) = (a / b : ℕ) + (a % b : ℕ) / b := by
    have h : (a : ℚ) = b * (a / b : ℕ) + (a % b : ℕ) := by exact_mod_cast (Nat.div_add_mod a b).symm
    field_simp
    linarith
  rw [hdiv]
  exact represents_fraction _ (Nat.mod_lt a hb)

theorem Represents.nearest (h : Represents em r) : Nearest r em.roundedMantissa := by
  obtain ⟨m, half, rest⟩ := em
  obtain ⟨hle, hlt, hhalf, hrest⟩ := h
  simp only at hle hlt hhalf hrest
  cases half with
  | false =>
    have hr : r < m + 1 / 2 := by simpa using hhalf
    have hm : Nearest r m := ⟨.inl hr, .inl (by linarith)⟩
    cases rest <;> exact hm
  | true =>
    have hr : m + 1 / 2 ≤ r := hhalf.1 rfl
    cases rest with
    | true =>
      have hne : r ≠ m + 1 / 2 := fun h => by simp [h] at hrest
      have hgt : m + 1 / 2 < r := lt_of_le_of_ne hr (Ne.symm hne)
      show Nearest r (m + 1)
      exact ⟨.inl (by push_cast; linarith), .inl (by push_cast; linarith)⟩
    | false =>
      -- a half goes to the even neighbour
      have heq : r = m + 1 / 2 := by
        obtain h | h := hrest.1 rfl
        · linarith
        · exact h
      show Nearest r (m + m % 2)
      obtain hm | hm := Nat.mod_two_eq_zero_or_one m
      · rw [hm, Nat.add_zero]
        exact ⟨.inr ⟨heq, hm⟩, .inl (by linarith)⟩
      · rw [hm]
        refine ⟨.inl (by push_cast; linarith), .inr ⟨?_, by omega⟩⟩
        push_cast
        linarith

theorem Represents.shiftRightOne (h : Represents em r) :
    Represents em.shiftRightOne (r / 2) := by
  obtain ⟨m, half, rest⟩ := em
  obtain ⟨hle, hlt, hhalf, hrest⟩ := h
  simp only at hle hlt hhalf hrest
  have hm : (m : ℚ) = 2 * (m / 2 : ℕ) + (m % 2 : ℕ) := by exact_mod_cast (Nat.div_add_mod m 2).symm
  unfold ExtendedMantissa.shiftRightOne
  constructor <;> simp only
  · have : (0 : ℚ) ≤ (m % 2 : ℕ) := Nat.cast_nonneg _
    linarith
  · have : ((m % 2 : ℕ) : ℚ) ≤ 1 := by exact_mod_cast Nat.le_of_lt_succ (Nat.mod_lt m two_pos)
    linarith
  · obtain h2 | h2 := Nat.mod_two_eq_zero_or_one m
    · rw [h2] at hm ⊢
      simp only [Nat.cast_zero, add_zero, bne_self_eq_false, Bool.false_eq_true, false_iff, not_le]
        at hm ⊢
      linarith
    · rw [h2] at hm ⊢
      simp only [Nat.cast_one] at hm
      simp only [ne_eq, one_ne_zero, not_false_eq_true, bne_iff_ne, true_iff]
      linarith
  · -- nothing is lost just when the old bits are both clear
    have hclear : (half || rest) = false ↔ r = m := by
      rw [Bool.or_eq_false_iff, hrest, ← Bool.not_eq_true, hhalf]
      constructor
      · rintro ⟨hr, h | h⟩
        · exact h
        · exact absurd h.ge hr
      · rintro rfl
        exact ⟨by linarith, .inl rfl⟩
    rw [hclear]
    obtain h2 | h2 := Nat.mod_two_eq_zero_or_one m
    · rw [h2, Nat.cast_zero] at hm
      constructor
      · rintro rfl
        exact .inl (by linarith)
      · rintro (h | h) <;> linarith
    · rw [h2, Nat.cast_one] at hm
      constructor
      · rintro rfl
        exact .inr (by linarith)
      · rintro (h | h) <;> linarith

theorem Represents.shiftRight (h : Represents em r) (n : ℕ) :
    Represents (em >>> n) (r / 2 ^ n) := by
  show Represents (n.repeat ExtendedMantissa.shiftRightOne em) (r / 2 ^ n)
  induction n with
  | zero => simpa [Nat.repeat] using h
  | succ n ih =>
    rw [pow_succ, ← div_div]
    exact ih.shiftRightOne

end Represents

/-- The magnitude of code `n` with a sign, as arithmetic takes it. -/
def unpacked (s : Sign) (n : ℕ) : UnpackedFloat :=
  if h : mantissa n = 0 then .zero s else .finite s (mantissa n) (place n) (Nat.pos_of_ne_zero h)

section Round

theorem targetExponent_binary64 (t : ℤ) :
    Format.binary64.targetExponent t = max (t - 53) (-1074) := rfl

/-- Is the last place of a mantissa low enough to round it? -/
def Fine (m : ℕ) (e : ℤ) : Prop := 2 ^ 52 ≤ m ∨ e ≤ -1074

theorem Fine.le (h : Fine m e) : e ≤ Format.binary64.targetExponent (totalExponent m e) := by
  rw [targetExponent_binary64, totalExponent]
  obtain h | h := h
  · have : 52 ≤ m.log2 := (Nat.le_log2 (by omega)).2 h
    omega
  · omega

/-- A mantissa whose last place is low enough fits after the first shift. -/
theorem exists_shift (hr : Represents (ExtendedMantissa.ofMantissaAndAccuracy m acc) r)
    (he : Fine m e) :
    ∃ b d : ℕ, Format.binary64.targetExponent (totalExponent m e) = (b : ℤ) - 1074 ∧
      (b : ℤ) - 1074 = e + d ∧ r / 2 ^ d < 2 ^ 53 ∧ (2 ^ 52 ≤ r / 2 ^ d ∨ b = 0) := by
  have hle := he.le
  obtain ⟨b, hb⟩ : ∃ b : ℕ,
      Format.binary64.targetExponent (totalExponent m e) = (b : ℤ) - 1074 := by
    refine ⟨(Format.binary64.targetExponent (totalExponent m e) + 1074).toNat, ?_⟩
    rw [targetExponent_binary64]
    omega
  obtain ⟨d, hd⟩ : ∃ d : ℕ, (b : ℤ) - 1074 = e + d := ⟨((b : ℤ) - 1074 - e).toNat, by omega⟩
  rw [targetExponent_binary64, totalExponent] at hb
  have hm : (ExtendedMantissa.ofMantissaAndAccuracy m acc).mantissa = m := by
    unfold ExtendedMantissa.ofMantissaAndAccuracy
    split <;> rfl
  have hlow : (m : ℚ) ≤ r := hm ▸ hr.le
  have hhigh : r < m + 1 := hm ▸ hr.lt
  have hpos : (0 : ℚ) < 2 ^ d := by positivity
  refine ⟨b, d, by rw [targetExponent_binary64, totalExponent, hb], hd, ?_, ?_⟩
  · rw [div_lt_iff₀ hpos]
    have hpow : m + 1 ≤ 2 ^ 53 * 2 ^ d := by
      rw [← pow_add]
      exact (Nat.succ_le_of_lt Nat.lt_log2_self).trans (Nat.pow_le_pow_right two_pos (by omega))
    exact hhigh.trans_le (by exact_mod_cast hpow)
  · rw [le_div_iff₀ hpos]
    by_cases hb0 : b = 0
    · exact .inr hb0
    · have hm0 : m ≠ 0 := by
        rintro rfl
        simp only [Nat.log2_zero] at hb
        omega
      have hpow : 2 ^ 52 * 2 ^ d ≤ m := by
        rw [← pow_add]
        exact (Nat.pow_le_pow_right two_pos (by omega)).trans (Nat.log2_self_le hm0)
      exact .inl (le_trans (by exact_mod_cast hpow) hlow)

theorem shiftToTargetExponent_eq {d : ℕ}
    (h : (Format.binary64.targetExponent (totalExponent m e) - e).toNat = d) :
    shiftToTargetExponent .binary64 m e acc =
      (ExtendedMantissa.ofMantissaAndAccuracy m acc >>> d, e + d) := by
  unfold shiftToTargetExponent shiftToExponent
  simp only [h]

/-- A rounded mantissa has the right size, or it is the first one of the next binade. -/
theorem exists_shift_rounded {b : ℕ} (hk : k ≤ 2 ^ 53) (hb : 2 ^ 52 ≤ k ∨ b = 0) :
    ∃ em, shiftToTargetExponent .binary64 k ((b : ℤ) - 1074) .exact =
        (em, place (b * 2 ^ 52 + k)) ∧ em.mantissa = mantissa (b * 2 ^ 52 + k) := by
  obtain hlt | rfl := Nat.lt_or_eq_of_le hk
  · have hlog : k.log2 ≤ 52 := by
      by_cases hk0 : k = 0
      · simp [hk0]
      · exact Nat.lt_succ_iff.1 ((Nat.log2_lt hk0).2 hlt)
    have hshift : (Format.binary64.targetExponent (totalExponent k ((b : ℤ) - 1074)) -
        ((b : ℤ) - 1074)).toNat = 0 := by
      rw [targetExponent_binary64, totalExponent]
      omega
    refine ⟨ExtendedMantissa.ofMantissaAndAccuracy k .exact >>> 0, ?_, ?_⟩
    · rw [shiftToTargetExponent_eq hshift, place_mul_add hlt hb, Nat.cast_zero, add_zero]
    · rw [mantissa_mul_add hlt hb]
      rfl
  · have hlog : (2 ^ 53 : ℕ).log2 = 53 := Nat.log2_two_pow
    have hshift : (Format.binary64.targetExponent (totalExponent (2 ^ 53) ((b : ℤ) - 1074)) -
        ((b : ℤ) - 1074)).toNat = 1 := by
      rw [targetExponent_binary64, totalExponent, hlog]
      omega
    have hcode : b * 2 ^ 52 + 2 ^ 53 = (b + 1) * 2 ^ 52 + 2 ^ 52 := by omega
    refine ⟨ExtendedMantissa.ofMantissaAndAccuracy (2 ^ 53) .exact >>> 1, ?_, ?_⟩
    · rw [shiftToTargetExponent_eq hshift, hcode, place_mul_add (by norm_num) (.inl le_rfl)]
      push_cast
      ring_nf
    · rw [hcode, mantissa_mul_add (by norm_num) (.inl le_rfl)]
      rfl

/-- Rounding gives the magnitude nearest to the exact result. -/
theorem roundWithAccuracy_eq
    (hr : Represents (ExtendedMantissa.ofMantissaAndAccuracy m acc) r) (he : Fine m e) :
    ∃ n, Rounds (r * 2 ^ e) n ∧ roundWithAccuracy .binary64 s m e acc = unpacked s n := by
  obtain ⟨b, d, htarget, hd, hlt, hge⟩ := exists_shift hr he
  have hnearest := (hr.shiftRight d).nearest
  have hvalue : r * 2 ^ e = r / 2 ^ d * 2 ^ ((b : ℤ) - 1074) := by
    rw [hd, zpow_add₀ two_ne_zero, zpow_natCast]
    field_simp
  refine ⟨_, hvalue ▸ rounds_of_nearest hnearest hlt hge, ?_⟩
  have hk := hnearest.le (m := 2 ^ 53) (by exact_mod_cast hlt)
  have hb := hge.imp_left fun h => hnearest.ge (m := 2 ^ 52) (by exact_mod_cast h)
  have hfirst : shiftToTargetExponent .binary64 m e acc =
      (ExtendedMantissa.ofMantissaAndAccuracy m acc >>> d, (b : ℤ) - 1074) := by
    rw [shiftToTargetExponent_eq (d := d) (by omega), hd]
  obtain ⟨em, hsecond, hem⟩ := exists_shift_rounded hk hb
  unfold roundWithAccuracy unpacked
  rw [hfirst]
  dsimp only
  rw [hsecond]
  dsimp only
  rw [hem]

theorem rounds_zero : Rounds 0 0 := value_zero ▸ rounds_value 0

theorem unpacked_zero (s : Sign) : unpacked s 0 = .zero s := rfl

theorem shiftLeft_mul_zpow (m d : ℕ) (e : ℤ) : ((m <<< d : ℕ) : ℚ) * 2 ^ (e - d) = m * 2 ^ e := by
  rw [Nat.shiftLeft_eq, zpow_sub₀ two_ne_zero, zpow_natCast]
  push_cast
  field_simp

theorem round_eq (hm : m ≠ 0) :
    ∃ n, Rounds (m * 2 ^ e) n ∧ round .binary64 s m e = unpacked s n := by
  obtain ⟨d, hd⟩ : ∃ d : ℕ,
      (e - Format.binary64.targetExponent (totalExponent m e)).toNat = d := ⟨_, rfl⟩
  have hfine : Fine (m <<< d) (e - d) := by
    rw [targetExponent_binary64, totalExponent] at hd
    by_cases he : e - d ≤ -1074
    · exact .inr he
    · have hpow : 2 ^ 52 ≤ 2 ^ (m.log2 + d) := Nat.pow_le_pow_right two_pos (by omega)
      refine .inl (hpow.trans ?_)
      rw [Nat.shiftLeft_eq, pow_add]
      exact Nat.mul_le_mul_right _ (Nat.log2_self_le hm)
  have h := roundWithAccuracy_eq (s := s) (represents_exact (m <<< d)) hfine
  rw [shiftLeft_mul_zpow] at h
  unfold UnpackedFloat.round decreaseExponent
  simp only [hd]
  exact h

theorem normalize_eq (m : ℕ) (e : ℤ) :
    ∃ n, Rounds (m * 2 ^ e) n ∧ normalize .binary64 m e .positive = unpacked .positive n := by
  by_cases hm : m = 0
  · subst hm
    exact ⟨0, by simpa using rounds_zero, rfl⟩
  · have hcompare : compare (m : ℤ) 0 = .gt := Int.compare_eq_gt.2 (by omega)
    unfold UnpackedFloat.normalize
    rw [hcompare]
    exact round_eq hm

end Round
end Binary64
end PriceOracle
