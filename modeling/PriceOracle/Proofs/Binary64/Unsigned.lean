import PriceOracle.Proofs.Binary64.Arithmetic

/-!
# PriceOracle.Proofs.Binary64.Unsigned

Doubles that are not below zero, and what keeps them so: sums, quotients, and products with a factor
above zero. Such a factor keeps the order of all doubles that are numbers (`IsFactor.key_mul_le`).
-/

namespace PriceOracle
namespace Binary64

open Float.Model Float.Model.UnpackedFloat

variable {x y f : Float} {n m : ℕ} {s t : Sign} {v : ℚ}

/-- A number that is not below zero: zero of either sign, and infinity, among them. -/
structure IsUnsigned (x : Float) : Prop where
  number : code x ≤ infinite
  nonneg : 0 ≤ key x

/-- A finite number above zero. -/
structure IsFactor (f : Float) : Prop where
  finite : code f < infinite
  nonzero : code f ≠ 0
  positive : sign f = .positive

section Unsigned

theorem key_nonneg_iff (x : Float) : 0 ≤ key x ↔ code x = 0 ∨ sign x = .positive := by
  unfold key keyOf
  cases sign x <;> simp

theorem isUnsigned_of_sign (hx : code x ≤ infinite) (h : code x = 0 ∨ sign x = .positive) :
    IsUnsigned x := ⟨hx, (key_nonneg_iff x).2 h⟩

theorem IsUnsigned.zero_or (h : IsUnsigned x) : code x = 0 ∨ sign x = .positive :=
  (key_nonneg_iff x).1 h.nonneg

theorem IsUnsigned.key_eq (h : IsUnsigned x) : key x = code x := by
  obtain h0 | hs := h.zero_or
  · unfold key keyOf
    cases sign x <;> simp [h0]
  · rw [key, hs, keyOf]

theorem IsFactor.isUnsigned (hf : IsFactor f) : IsUnsigned f :=
  isUnsigned_of_sign hf.finite.le (.inr hf.positive)

theorem IsUnsigned.isFactor (hx : IsUnsigned x) (hfinite : code x < infinite) (h0 : code x ≠ 0) :
    IsFactor x := ⟨hfinite, h0, hx.zero_or.resolve_left h0⟩

theorem Rounded.isUnsigned (h : Rounded s v x) (hs : v = 0 ∨ s = .positive) : IsUnsigned x := by
  refine isUnsigned_of_sign h.le_infinite ?_
  obtain rfl | rfl := hs
  · rw [← value_zero] at h
    exact .inl (h.code_of_value (by norm_num [infinite]))
  · exact .inr h.sign_eq

theorem IsUnsigned.add (hx : IsUnsigned x) (hxf : code x < infinite) (hy : IsUnsigned y)
    (hyf : code y < infinite) : IsUnsigned (x + y) := by
  by_cases h0 : code x = 0
  · obtain ⟨hcode, hsign⟩ := zero_add_finite h0 hyf
    refine isUnsigned_of_sign (hcode.le.trans hyf.le) ?_
    rw [hcode]
    obtain h | h := hsign
    · exact .inl h
    · exact h ▸ hy.zero_or
  · exact (rounded_add hxf h0 (hx.zero_or.resolve_left h0) hyf hy.zero_or).isUnsigned (.inr rfl)

theorem IsUnsigned.div (hx : IsUnsigned x) (hf : IsFactor f) : IsUnsigned (x / f) := by
  by_cases hxf : code x < infinite
  · refine (rounded_div hxf hf.finite hf.nonzero).isUnsigned ?_
    obtain h | h := hx.zero_or
    · exact .inl (by rw [size, h, value_zero, zero_div])
    · exact .inr (by rw [h, hf.positive]; rfl)
  · have heq : code x = infinite := le_antisymm hx.number (not_lt.1 hxf)
    obtain ⟨hcode, hsign⟩ := div_infinite heq hf.finite
    have hpos := hx.zero_or.resolve_left fun h => by norm_num [h, infinite] at heq
    exact isUnsigned_of_sign hcode.le (.inr (by rw [hsign, hpos, hf.positive]; rfl))

end Unsigned

section Number

theorem unpack_of_not_number (hx : ¬ code x ≤ infinite) : x.toModel.unpack = .notANumber := by
  rw [unpack_eq, if_neg (by omega), if_neg (by omega)]

theorem compare_none (h : ¬ (code x ≤ infinite ∧ code y ≤ infinite)) :
    x.toModel.unpack.compare y.toModel.unpack = none := by
  by_cases hx : code x ≤ infinite
  · rw [unpack_of_not_number fun hy => h ⟨hx, hy⟩]
    cases x.toModel.unpack <;> rfl
  · rw [unpack_of_not_number hx]
    rfl

/-- Only numbers compare. -/
theorem number_of_le (h : x ≤ y) : code x ≤ infinite ∧ code y ≤ infinite := by
  by_contra hnot
  have h : decide (x.toModel.unpack.le y.toModel.unpack = true) = true := h
  rw [UnpackedFloat.le, compare_none hnot] at h
  exact absurd h (by decide)

theorem number_of_lt (h : x < y) : code x ≤ infinite ∧ code y ≤ infinite := by
  by_contra hnot
  have h : decide (x.toModel.unpack.lt y.toModel.unpack = true) = true := h
  rw [UnpackedFloat.lt, compare_none hnot] at h
  exact absurd h (by decide)

theorem code_pack_notANumber : infinite < code (.ofModel (.pack .notANumber)) := by
  decide

/-- A product with what is not finite is infinite, or no number. -/
theorem mul_of_not_finite (hy : ¬ code y < infinite) : infinite < code (x * y) ∨
    code y = infinite ∧ code x ≠ 0 ∧ code (x * y) = infinite ∧
      sign (x * y) = sign x * sign y := by
  have hnan (h : UnpackedFloat.mul .binary64 x.toModel.unpack y.toModel.unpack = .notANumber) :
      infinite < code (x * y) := by
    have heq : x * y = .ofModel (.pack .notANumber) :=
      congrArg (fun u => Float.ofModel (.pack u)) h
    exact heq ▸ code_pack_notANumber
  by_cases hnumber : code y = infinite
  · have hy : y.toModel.unpack = .infinity (sign y) := by rw [unpack_eq, if_neg hy, if_pos hnumber]
    by_cases hx : code x ≤ infinite
    · by_cases h0 : code x = 0
      · refine .inl (hnan ?_)
        rw [hy, unpack_eq_extended hx, h0]
        rfl
      · refine .inr ⟨hnumber, h0, ?_⟩
        have hmul : UnpackedFloat.mul .binary64 x.toModel.unpack y.toModel.unpack =
            .infinity (sign x * sign y) := by
          rw [hy, unpack_eq_extended hx]
          obtain ⟨h, -⟩ | ⟨_, _, h⟩ | ⟨_, h⟩ := extended_cases (sign x) hx
          · exact absurd h h0
          · rw [h]
            rfl
          · rw [h]
            rfl
        have heq : x * y = .ofModel (.pack (.infinity (sign x * sign y))) :=
          congrArg (fun u => Float.ofModel (.pack u)) hmul
        rw [heq]
        exact ⟨code_pack_infinity _, sign_pack_infinity _⟩
    · refine .inl (hnan ?_)
      rw [unpack_of_not_number hx]
      rfl
  · refine .inl (hnan ?_)
    rw [unpack_of_not_number (x := y) (by omega)]
    cases x.toModel.unpack <;> rfl

end Number

section Factor

variable (hf : IsFactor f)

include hf

theorem IsFactor.mul_positive (s : Sign) : s * sign f = s := by
  rw [hf.positive]
  cases s <;> rfl

theorem IsFactor.rounded_mul (hx : code x < infinite) :
    Rounded (sign x) (size x * size f) (x * f) := by
  have h := Binary64.rounded_mul hx hf.finite
  rwa [hf.mul_positive] at h

theorem IsFactor.mul_infinite (hx : code x = infinite) :
    code (x * f) = infinite ∧ sign (x * f) = sign x := by
  have h := Binary64.mul_infinite hx hf.finite hf.nonzero
  rwa [hf.mul_positive] at h

theorem IsFactor.sign_mul (hx : code x ≤ infinite) : sign (x * f) = sign x := by
  obtain hlt | heq := hx.lt_or_eq
  · exact (hf.rounded_mul hlt).sign_eq
  · exact (hf.mul_infinite heq).2

theorem IsFactor.number_mul (hx : code x ≤ infinite) : code (x * f) ≤ infinite := by
  obtain hlt | heq := hx.lt_or_eq
  · exact (hf.rounded_mul hlt).le_infinite
  · exact (hf.mul_infinite heq).1.le

theorem IsFactor.code_mul_le (hy : code y ≤ infinite) (h : code x ≤ code y) :
    code (x * f) ≤ code (y * f) := by
  obtain hlt | heq := hy.lt_or_eq
  · have hsize : size x ≤ size y := strictMono_value.monotone h
    exact (hf.rounded_mul (h.trans_lt hlt)).code_le (hf.rounded_mul hlt)
      (mul_le_mul_of_nonneg_right hsize (value_nonneg _))
  · exact (hf.number_mul (h.trans hy)).trans (hf.mul_infinite heq).1.ge

theorem IsFactor.code_mul_zero (hx : code x = 0) : code (x * f) = 0 := by
  have h := hf.rounded_mul (hx.trans_lt (by norm_num [infinite]))
  rw [size, hx, value_zero, zero_mul, ← value_zero] at h
  exact h.code_of_value (by norm_num [infinite])

/-- A factor above zero keeps the order. -/
theorem IsFactor.key_mul_le (hx : code x ≤ infinite) (hy : code y ≤ infinite)
    (h : key x ≤ key y) : key (x * f) ≤ key (y * f) := by
  have hxy := hf.code_mul_le (x := x) hy
  have hyx := hf.code_mul_le (x := y) hx
  have hx0 := hf.code_mul_zero (x := x)
  have hy0 := hf.code_mul_zero (x := y)
  unfold key at h ⊢
  rw [hf.sign_mul hx, hf.sign_mul hy]
  generalize sign x = s at h ⊢
  generalize sign y = t at h ⊢
  cases s <;> cases t <;> simp only [keyOf] at h ⊢ <;> omega

theorem IsUnsigned.mul (hx : IsUnsigned x) : IsUnsigned (x * f) := by
  refine isUnsigned_of_sign (hf.number_mul hx.number) ?_
  rw [hf.sign_mul hx.number]
  exact hx.zero_or.imp_left hf.code_mul_zero

end Factor

end Binary64
end PriceOracle
