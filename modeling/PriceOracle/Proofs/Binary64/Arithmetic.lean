import PriceOracle.Proofs.Binary64.Order
import PriceOracle.Proofs.Decimal.Shortest

/-!
# PriceOracle.Proofs.Binary64.Arithmetic

Arithmetic on doubles. `Rounded s v x` says that `x` is the double nearest to the magnitude `v` with
the sign `s`, which is infinite when `v` is beyond all doubles; it is what products, quotients,
sums, differences and decimal numerals are.
-/

namespace PriceOracle
namespace Binary64

open Float.Model Float.Model.UnpackedFloat

variable {x y : Float} {n m : ℕ} {s t : Sign} {v w : ℚ} {e : ℤ}

structure Rounded (s : Sign) (v : ℚ) (x : Float) : Prop where
  sign_eq : sign x = s
  code_eq : ∃ n, Rounds v n ∧ code x = min n infinite

/-- The magnitude of a double. -/
def size (x : Float) : ℚ := value (code x)

section Rounded

theorem rounded_pack (s : Sign) (h : Rounds v n) :
    Rounded s v (.ofModel (.pack (unpacked s n))) :=
  ⟨sign_pack s n, n, h, code_pack s n⟩

theorem Rounded.le_infinite (h : Rounded s v x) : code x ≤ infinite := by
  obtain ⟨n, -, hcode⟩ := h.code_eq
  omega

/-- Rounding keeps the order. -/
theorem Rounded.code_le (hx : Rounded s v x) (hy : Rounded t w y) (h : v ≤ w) :
    code x ≤ code y := by
  obtain ⟨n, hn, hxn⟩ := hx.code_eq
  obtain ⟨m, hm, hym⟩ := hy.code_eq
  have := hn.le hm h
  omega

theorem Rounded.le_code (hx : Rounded s v x) (hn : n ≤ infinite) (h : value n ≤ v) :
    n ≤ code x := by
  obtain ⟨m, hm, hxm⟩ := hx.code_eq
  have := (rounds_value n).le hm h
  omega

theorem Rounded.code_le_of_value (hx : Rounded s v x) (h : v ≤ value n) : code x ≤ n := by
  obtain ⟨m, hm, hxm⟩ := hx.code_eq
  have := hm.le (rounds_value n) h
  omega

/-- A magnitude that is a double is not rounded. -/
theorem Rounded.code_of_value (hx : Rounded s (value n) x) (hn : n < infinite) : code x = n :=
  le_antisymm (hx.code_le_of_value le_rfl) (hx.le_code hn.le le_rfl)

end Rounded

section Operations

theorem unpack_finite (hx : code x < infinite) :
    x.toModel.unpack = unpacked (sign x) (code x) := by
  rw [unpack_eq, if_pos hx]

theorem rounded_mul (hx : code x < infinite) (hy : code y < infinite) :
    Rounded (sign x * sign y) (size x * size y) (x * y) := by
  obtain ⟨n, hn, hmul⟩ := mul_unpacked (sign x) (sign y) (code x) (code y)
  have h := rounded_pack (sign x * sign y) hn
  rw [← hmul, ← unpack_finite hx, ← unpack_finite hy] at h
  exact h

/-- An infinite double stays so. -/
theorem mul_infinite (hx : code x = infinite) (hy : code y < infinite) (hy0 : code y ≠ 0) :
    code (x * y) = infinite ∧ sign (x * y) = sign x * sign y := by
  have hmul : UnpackedFloat.mul .binary64 x.toModel.unpack y.toModel.unpack =
      .infinity (sign x * sign y) := by
    rw [unpack_eq, if_neg (by omega), if_pos hx, unpack_finite hy, unpacked_of_ne _ hy0]
    rfl
  have heq : x * y = .ofModel (.pack (.infinity (sign x * sign y))) :=
    congrArg (fun u => Float.ofModel (.pack u)) hmul
  rw [heq]
  exact ⟨code_pack_infinity _, sign_pack_infinity _⟩

theorem rounded_div (hx : code x < infinite) (hy : code y < infinite) (hy0 : code y ≠ 0) :
    Rounded (sign x / sign y) (size x / size y) (x / y) := by
  obtain ⟨n, hn, hdiv⟩ := div_unpacked (sign x) (sign y) (code x) hy0
  have h := rounded_pack (sign x / sign y) hn
  rw [← hdiv, ← unpack_finite hx, ← unpack_finite hy] at h
  exact h

theorem div_infinite (hx : code x = infinite) (hy : code y < infinite) :
    code (x / y) = infinite ∧ sign (x / y) = sign x / sign y := by
  have hdiv : UnpackedFloat.div .binary64 x.toModel.unpack y.toModel.unpack =
      .infinity (sign x / sign y) := by
    rw [unpack_eq, if_neg (by omega), if_pos hx, unpack_finite hy]
    obtain h | ⟨m, e, hm, h⟩ := unpacked_cases (sign y) (code y) <;> rw [h] <;> rfl
  have heq : x / y = .ofModel (.pack (.infinity (sign x / sign y))) :=
    congrArg (fun u => Float.ofModel (.pack u)) hdiv
  rw [heq]
  exact ⟨code_pack_infinity _, sign_pack_infinity _⟩

theorem rounded_add (hx : code x < infinite) (hx0 : code x ≠ 0) (hs : sign x = .positive)
    (hy : code y < infinite) (ht : code y = 0 ∨ sign y = .positive) :
    Rounded .positive (size x + size y) (x + y) := by
  obtain ⟨n, hn, hadd⟩ := add_unpacked hx0 ht
  have h := rounded_pack .positive hn
  rw [← hadd, ← hs, ← unpack_finite hx, ← unpack_finite hy, hs] at h
  exact h

theorem zero_add_finite (hx : code x = 0) (hy : code y < infinite) :
    code (x + y) = code y ∧ (code y = 0 ∨ sign (x + y) = sign y) := by
  have hx' : code x < infinite := by norm_num [hx, infinite]
  obtain ⟨r, hr, hadd⟩ := zero_add_unpacked (sign x) (sign y) (code y)
  rw [← hx, ← unpack_finite hx', ← unpack_finite hy] at hadd
  have heq : x + y = .ofModel (.pack (unpacked r (code y))) :=
    congrArg (fun u => Float.ofModel (.pack u)) hadd
  rw [heq, sign_pack, code_pack, Nat.min_eq_left hy.le]
  exact ⟨rfl, hr⟩

theorem rounded_sub (hx : code x < infinite) (hx0 : code x ≠ 0) (hs : sign x = .positive)
    (hy : code y ≤ code x) (ht : code y = 0 ∨ sign y = .positive) :
    Rounded .positive (size x - size y) (x - y) := by
  obtain ⟨n, hn, hsub⟩ := sub_unpacked hx0 ht hy
  have h := rounded_pack .positive hn
  rw [← hsub, ← hs, ← unpack_finite hx, ← unpack_finite (hy.trans_lt hx), hs] at h
  exact h

theorem neg_finite (hx : code x < infinite) : sign (-x) = -sign x ∧ code (-x) = code x := by
  have hneg : x.toModel.unpack.neg = unpacked (-sign x) (code x) := by
    rw [unpack_finite hx]
    by_cases hx0 : code x = 0
    · rw [hx0]
      rfl
    · rw [unpacked_of_ne _ hx0, unpacked_of_ne _ hx0]
      rfl
  have heq : -x = .ofModel (.pack (unpacked (-sign x) (code x))) :=
    congrArg (fun u => Float.ofModel (.pack u)) hneg
  rw [heq, sign_pack, code_pack, Nat.min_eq_left hx.le]
  exact ⟨rfl, rfl⟩

end Operations

section Numerals

/-- A short mantissa is a double at every exponent of a double. -/
theorem exists_value (hm : m < 2 ^ 53) (he : -1074 ≤ e) : ∃ n, value n = m * 2 ^ e := by
  by_cases hm0 : m = 0
  · subst hm0
    exact ⟨0, by simp [value_zero]⟩
  have hlog : m.log2 < 53 := (Nat.log2_lt hm0).2 hm
  obtain ⟨d, hd⟩ : ∃ d : ℕ, min (52 - m.log2) (e + 1074).toNat = d := ⟨_, rfl⟩
  obtain ⟨b, hb⟩ : ∃ b : ℕ, e - d + 1074 = b := ⟨(e - d + 1074).toNat, by omega⟩
  have hlt : m * 2 ^ d < 2 ^ 53 := by
    calc m * 2 ^ d < 2 ^ (m.log2 + 1) * 2 ^ d :=
          Nat.mul_lt_mul_of_pos_right Nat.lt_log2_self (by positivity)
      _ = 2 ^ (m.log2 + 1 + d) := (pow_add ..).symm
      _ ≤ 2 ^ 53 := Nat.pow_le_pow_right two_pos (by omega)
  have hge : 2 ^ 52 ≤ m * 2 ^ d ∨ b = 0 := by
    by_cases hb0 : b = 0
    · exact .inr hb0
    · left
      calc 2 ^ 52 ≤ 2 ^ (m.log2 + d) := Nat.pow_le_pow_right two_pos (by omega)
        _ = 2 ^ m.log2 * 2 ^ d := pow_add ..
        _ ≤ m * 2 ^ d := Nat.mul_le_mul_right _ (Nat.log2_self_le hm0)
  refine ⟨b * 2 ^ 52 + m * 2 ^ d, ?_⟩
  rw [value_mul_add hlt.le hge, show (b : ℤ) - 1074 = e - d by omega, zpow_sub₀ two_ne_zero]
  push_cast
  field_simp
  simp

theorem value_infinite : value infinite = 2 ^ 1024 := value_binade 2046

theorem lt_infinite_of_value (h : value n < 2 ^ 1024) : n < infinite :=
  strictMono_value.lt_iff_lt.1 (value_infinite ▸ h)

/-- A double that was not rounded. -/
theorem Rounded.exact (h : Rounded s v x) (hv : ∃ n, value n = v) (hlt : v < 2 ^ 1024) :
    code x < infinite ∧ size x = v := by
  obtain ⟨n, rfl⟩ := hv
  have hn := lt_infinite_of_value hlt
  rw [size, h.code_of_value hn]
  exact ⟨hn, rfl⟩

theorem rounded_ofUInt64 (hm : m < 2 ^ 64) : Rounded .positive m m.toUInt64.toFloat := by
  obtain ⟨n, hn, hnormalize⟩ := normalize_eq m 0
  rw [zpow_zero, mul_one] at hn
  have hround : m.toUInt64.toNat = m := by
    rw [Nat.toUInt64_eq, UInt64.toNat_ofNat', Nat.mod_eq_of_lt hm]
  show Rounded .positive m
    (.ofModel (.pack (UnpackedFloat.normalize .binary64 (m.toUInt64.toNat : ℤ) 0 .positive)))
  rw [hround, hnormalize]
  exact rounded_pack .positive hn

theorem bits_powerOfTen (k : Fin 23) :
    Float.exactlyRepresentablePowersOfTen[k].toBits.toNat < infinite ∧
      mantissa Float.exactlyRepresentablePowersOfTen[k].toBits.toNat *
          2 ^ (place Float.exactlyRepresentablePowersOfTen[k].toBits.toNat).toNat =
        10 ^ k.val * 2 ^ (-place Float.exactlyRepresentablePowersOfTen[k].toBits.toNat).toNat := by
  revert k
  decide

/-- The first powers of ten are doubles. -/
theorem powerOfTen (k : Fin 23) :
    code Float.exactlyRepresentablePowersOfTen[k] < infinite ∧
      sign Float.exactlyRepresentablePowersOfTen[k] = .positive ∧
      size Float.exactlyRepresentablePowersOfTen[k] = 10 ^ k.val := by
  have hinfinite : infinite = 2047 * 2 ^ 52 := rfl
  obtain ⟨hlt, heq⟩ := bits_powerOfTen k
  generalize Float.exactlyRepresentablePowersOfTen[k] = p at *
  have hcode : code p = p.toBits.toNat := Nat.mod_eq_of_lt (by omega)
  refine ⟨hcode ▸ hlt, if_pos (by omega), ?_⟩
  rw [← hcode] at heq
  have hpos : (2 : ℚ) ^ (-place (code p)).toNat ≠ 0 := by positivity
  rw [← mul_left_inj' hpos, size, value, mul_assoc, Decimal.zpow_split 2 two_ne_zero]
  exact_mod_cast heq

theorem rounded_short (hm : m < 2 ^ 53) (negative : Bool) (k : Fin 23) :
    Rounded .positive (m * 10 ^ (if negative then -(k.val : ℤ) else k.val))
      (if negative then m.toUInt64.toFloat / Float.exactlyRepresentablePowersOfTen[k]
      else m.toUInt64.toFloat * Float.exactlyRepresentablePowersOfTen[k]) := by
  have hrounded := rounded_ofUInt64 (m := m) (hm.trans (by norm_num))
  have hlt : (m : ℚ) < 2 ^ 1024 := by
    calc (m : ℚ) < 2 ^ 53 := by exact_mod_cast hm
      _ ≤ 2 ^ 1024 := pow_le_pow_right₀ one_le_two (by norm_num)
  have hvalue : ∃ n, value n = m := by simpa using exists_value (e := 0) hm (by norm_num)
  obtain ⟨hfinite, hsize⟩ := hrounded.exact hvalue hlt
  obtain ⟨hpower, hsign, hten⟩ := powerOfTen k
  split
  · have hne : code Float.exactlyRepresentablePowersOfTen[k] ≠ 0 := by
      intro h0
      rw [size, h0, value_zero] at hten
      exact absurd hten (by positivity)
    have h := rounded_div hfinite hpower hne
    rw [hrounded.sign_eq, hsign, hsize, hten] at h
    rw [zpow_neg, zpow_natCast, ← div_eq_mul_inv]
    exact h
  · have h := rounded_mul hfinite hpower
    rw [hrounded.sign_eq, hsign, hsize, hten] at h
    rw [zpow_natCast]
    exact h

theorem rounded_long (hhigh : e ≤ 2 ^ 11) (hlow : -(2 ^ 11 + m.log2 : ℤ) ≤ e) :
    Rounded .positive (m * 10 ^ e) (.ofModel (Float.Model.ofScientific m e)) := by
  suffices h : ∃ n, Rounds (m * 10 ^ e) n ∧
      UnpackedFloat.ofScientific .binary64 m e = unpacked .positive n by
    obtain ⟨n, hn, heq⟩ := h
    show Rounded .positive (m * 10 ^ e)
      (.ofModel (.pack (UnpackedFloat.ofScientific .binary64 m e)))
    rw [heq]
    exact rounded_pack .positive hn
  unfold UnpackedFloat.ofScientific
  by_cases hm : m = 0
  · rw [dif_pos hm]
    exact ⟨0, by simpa [hm] using rounds_zero, rfl⟩
  rw [dif_neg hm, if_neg (not_lt.2 hhigh), if_neg (not_lt.2 hlow)]
  by_cases he : 0 ≤ e
  · rw [if_pos he]
    obtain ⟨k, rfl⟩ := Int.eq_ofNat_of_zero_le he
    have hvalue : (m * 10 ^ (k : ℤ) : ℚ) =
        (m <<< 53 : ℕ) * 2 ^ (-53 : ℤ) * ((10 ^ k : ℕ) * 2 ^ (0 : ℤ)) := by
      have h := shiftLeft_mul_zpow m 53 0
      rw [zpow_zero, mul_one] at h
      rw [zpow_natCast, zpow_zero, mul_one, show (-53 : ℤ) = 0 - (53 : ℕ) by norm_num, h]
      push_cast
      rfl
    rw [hvalue]
    refine mul_finite _ _ (.inl ?_)
    rw [Nat.shiftLeft_eq]
    have : 1 ≤ m * 10 ^ k := Nat.one_le_iff_ne_zero.2 (by positivity)
    nlinarith
  · rw [if_neg he]
    have hvalue : (m * 10 ^ e : ℚ) =
        m * 2 ^ (0 : ℤ) / ((10 ^ (-e).toNat : ℕ) * 2 ^ (0 : ℤ)) := by
      have hexp : e = -((-e).toNat : ℤ) := by omega
      rw [hexp, zpow_neg, zpow_natCast, zpow_zero, mul_one, mul_one, div_eq_mul_inv, ← hexp]
      push_cast
      rfl
    rw [hvalue]
    exact div_finite _ _

/-- Decimal numerals are read as the nearest double. -/
theorem rounded_ofScientific (negative : Bool) (k : ℕ)
    (hhigh : (if negative then -(k : ℤ) else k) ≤ 2 ^ 11)
    (hlow : -(2 ^ 11 + m.log2 : ℤ) ≤ if negative then -(k : ℤ) else k) :
    Rounded .positive (m * 10 ^ (if negative then -(k : ℤ) else k))
      (Float.ofScientific m negative k) := by
  unfold Float.ofScientific
  by_cases h : m < 2 ^ 53 ∧ k ≤ 22
  · rw [dif_pos h]
    exact rounded_short h.1 negative ⟨k, by omega⟩
  · rw [dif_neg h]
    have hexp : (if negative = true then Int.negOfNat k else Int.ofNat k) =
        if negative then -(k : ℤ) else k := by
      cases negative
      · rfl
      · exact Int.negOfNat_eq
    simp only [hexp]
    exact rounded_long hhigh hlow

theorem rounded_ofNat (n : ℕ) : Rounded .positive n (Float.ofNat n) := by
  have h := rounded_ofScientific (m := n) false 0 (by norm_num) (by norm_num)
  simp only [Bool.false_eq_true, if_false, Nat.cast_zero, zpow_zero, mul_one] at h
  exact h

end Numerals
end Binary64
end PriceOracle
