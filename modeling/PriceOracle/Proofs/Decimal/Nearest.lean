import PriceOracle.Decimal.Reading
import PriceOracle.Proofs.Binary64.Arithmetic

/-!
# PriceOracle.Proofs.Decimal.Nearest

Decimals are read as the nearest double. The interval of the reals that `Around` gives to a double
is the one that rounds to it (`rounds_of_around`), so a decimal from that interval names the double
(`nearest_eq`), however long its digits and its exponent are.
-/

namespace PriceOracle
namespace Decimal

open Binary64
open Float.Model.UnpackedFloat (Sign)

variable {n digits : ℕ} {exp : ℤ} {v : ℚ} {x : Float} {negative : Bool}

section Around

theorem halfway_eq_upper (n : ℕ) : halfway n = (magnitude n).upper := by
  rw [halfway, value, magnitude, Binary.upper, zpow_sub₀ two_ne_zero]
  push_cast
  ring

/-- Halfway to the magnitude below, which is nearer at the start of a binade. -/
theorem halfway_eq_lower (n : ℕ) : halfway n = (magnitude (n + 1)).lower := by
  rw [Binary.lower, magnitude, zpow_sub₀ two_ne_zero]
  have hcode := mul_add_mantissa n
  have hcode' := mul_add_mantissa (n + 1)
  have hb := binade.eq_def n
  have hb' := binade.eq_def (n + 1)
  simp only [decide_eq_true_eq]
  split
  · next h =>
    have hm : mantissa n = 2 ^ 53 - 1 := by omega
    have hplace : place (n + 1) = place n + 1 := by
      unfold place
      omega
    rw [halfway, value, hm, h.1, hplace, two_zpow_succ]
    norm_num
    ring
  · next h =>
    have hm : mantissa (n + 1) = mantissa n + 1 := by omega
    have hplace : place (n + 1) = place n := by
      unfold place
      omega
    rw [halfway, value, hm, hplace, show 4 * (mantissa n + 1) - 2 = 4 * mantissa n + 2 by omega]
    push_cast
    ring

/-- The interval around a double is what rounds to it. -/
theorem rounds_of_around (h : (magnitude n).Around v) : Rounds v n := by
  have heven : mantissa n % 2 = n % 2 := by
    have := mul_add_mantissa n
    omega
  obtain ⟨hlower, hupper⟩ := h
  rw [show (magnitude n).m = mantissa n from rfl, heven] at hlower hupper
  rw [← halfway_eq_upper] at hupper
  refine ⟨hupper.imp_right And.symm, ?_⟩
  rintro k rfl
  rw [← halfway_eq_lower] at hlower
  exact hlower.imp_right And.symm

end Around

section Size

theorem lt_ten_pow (n : ℕ) : n < 10 ^ (Nat.toDigits 10 n).length :=
  (Nat.length_toDigits_le_iff (by norm_num) Nat.length_toDigits_pos).1 le_rfl

theorem ten_pow_le (hn : n ≠ 0) : 10 ^ ((Nat.toDigits 10 n).length - 1) ≤ n := by
  by_cases hlen : (Nat.toDigits 10 n).length - 1 = 0
  · rw [hlen]
    omega
  · by_contra hlt
    have := (Nat.length_toDigits_le_iff (b := 10) (by norm_num) (Nat.pos_of_ne_zero hlen)).2
      (not_le.1 hlt)
    omega

theorem length_le_log2 (hn : n ≠ 0) : (Nat.toDigits 10 n).length ≤ n.log2 + 1 := by
  have hpow : 2 ^ ((Nat.toDigits 10 n).length - 1) ≤ n :=
    (Nat.pow_le_pow_left (by norm_num) _).trans (ten_pow_le hn)
  have := (Nat.le_log2 hn).2 hpow
  omega

/-- Far below the doubles is zero. -/
theorem rounds_small (hsize : ((Nat.toDigits 10 digits).length : ℤ) + exp < -400) :
    Rounds (digits * 10 ^ exp) 0 := by
  have hten : (0 : ℚ) < 10 ^ exp := by positivity
  have hlt : (digits : ℚ) * 10 ^ exp < halfway 0 := by
    calc (digits : ℚ) * 10 ^ exp < 10 ^ (Nat.toDigits 10 digits).length * 10 ^ exp :=
          mul_lt_mul_of_pos_right (by exact_mod_cast lt_ten_pow digits) hten
      _ = 10 ^ (((Nat.toDigits 10 digits).length : ℤ) + exp) := by
          rw [zpow_add₀ (by norm_num), zpow_natCast]
      _ ≤ 10 ^ (-400 : ℤ) := zpow_le_zpow_right₀ (by norm_num) hsize.le
      _ < halfway 0 := by
          have hpow : (2 : ℚ) ^ 1075 < 10 ^ 400 := by
            rw [show 1075 = 43 * 25 by norm_num, show 400 = 16 * 25 by norm_num, pow_mul, pow_mul]
            exact pow_lt_pow_left₀ (by norm_num) (by norm_num) (by norm_num)
          have hlast : halfway 0 = (2 ^ 1075)⁻¹ := by
            rw [halfway, value_zero, zero_add, place, show binade 0 = 0 from rfl,
              show ((0 : ℕ) : ℤ) - 1074 = -((1074 : ℕ) : ℤ) by norm_num, zpow_neg, zpow_natCast,
              div_eq_mul_inv, ← mul_inv, ← pow_succ]
          rw [hlast, show (-400 : ℤ) = -((400 : ℕ) : ℤ) by norm_num, zpow_neg, zpow_natCast]
          exact inv_strictAnti₀ (by positivity) hpow
  exact ⟨.inl hlt, fun k hk => absurd hk (by omega)⟩

/-- Far above the doubles is no finite one. -/
theorem not_rounds_large (hd : digits ≠ 0)
    (hsize : 400 < ((Nat.toDigits 10 digits).length : ℤ) + exp) (hn : n < infinite) :
    ¬ Rounds (digits * 10 ^ exp) n := by
  intro h
  have hten : (0 : ℚ) < 10 ^ exp := by positivity
  have hpos : 0 < (Nat.toDigits 10 digits).length := Nat.length_toDigits_pos
  have hle : (10 : ℚ) ^ (400 : ℤ) ≤ digits * 10 ^ exp := by
    calc (10 : ℚ) ^ (400 : ℤ)
        ≤ 10 ^ ((((Nat.toDigits 10 digits).length - 1 : ℕ) : ℤ) + exp) :=
          zpow_le_zpow_right₀ (by norm_num) (by omega)
      _ = 10 ^ ((Nat.toDigits 10 digits).length - 1) * 10 ^ exp := by
          rw [zpow_add₀ (by norm_num), zpow_natCast]
      _ ≤ digits * 10 ^ exp :=
          mul_le_mul_of_nonneg_right (by exact_mod_cast ten_pow_le hd) hten.le
  have hlt : digits * 10 ^ exp < (2 : ℚ) ^ 1024 := by
    calc digits * 10 ^ exp ≤ halfway n := by
          obtain h | h := h.above
          · exact h.le
          · exact h.1.le
      _ < value (n + 1) := halfway_lt_value n
      _ ≤ value infinite := strictMono_value.monotone hn
      _ = 2 ^ 1024 := value_infinite
  have hpow : (2 : ℚ) ^ 1024 < 10 ^ (400 : ℤ) := by
    rw [show (400 : ℤ) = (25 * 16 : ℕ) by norm_num, zpow_natCast,
      show 1024 = 64 * 16 by norm_num, pow_mul, pow_mul]
    exact pow_lt_pow_left₀ (by norm_num) (by norm_num) (by norm_num)
  exact absurd (hle.trans_lt (hlt.trans hpow)) (lt_irrefl _)

end Size

section Nearest

theorem code_zero : code 0.0 = 0 ∧ sign 0.0 = .positive := by
  have hbits : (0.0 : Float).toBits = 0 := by decide
  rw [code, sign, hbits]
  exact ⟨rfl, rfl⟩

theorem nearest_false (h : Rounds (digits * 10 ^ exp) n) (hn : n < infinite) :
    code (nearest false digits exp) = n ∧ sign (nearest false digits exp) = .positive := by
  unfold nearest
  simp only [Bool.false_eq_true, if_false]
  split
  · next hd =>
    subst hd
    rw [Nat.cast_zero, zero_mul] at h
    obtain rfl := h.unique rounds_zero
    exact code_zero
  · next hd =>
    split
    · next hsize =>
      obtain rfl := h.unique (rounds_small hsize)
      exact code_zero
    · next hsize =>
      split
      · next hsize' => exact absurd h (not_rounds_large hd hsize' hn)
      · next hsize' =>
        have hlen := length_le_log2 hd
        have hexp : (if decide (exp < 0) = true then -(exp.natAbs : ℤ) else exp.natAbs) = exp := by
          split
          · next h =>
            rw [decide_eq_true_eq] at h
            omega
          · next h =>
            rw [decide_eq_true_eq] at h
            omega
        have hrounded := rounded_ofScientific (m := digits) (decide (exp < 0)) exp.natAbs
          (by rw [hexp]; omega) (by rw [hexp]; omega)
        rw [hexp] at hrounded
        obtain ⟨m, hm, hcode⟩ := hrounded.code_eq
        obtain rfl := hm.unique h
        exact ⟨hcode.trans (Nat.min_eq_left hn.le), hrounded.sign_eq⟩

/-- A decimal around a double is read as this double. -/
theorem nearest_eq (hx : code x < infinite)
    (h : (magnitude (code x)).Around (digits * 10 ^ exp)) :
    nearest (sign x == .negative) digits exp = x := by
  obtain ⟨hcode, hsign⟩ := nearest_false (rounds_of_around h) hx
  cases hs : sign x with
  | positive => exact eq_of_code (hsign.trans hs.symm) hcode
  | negative =>
    obtain ⟨hsign', hcode'⟩ := neg_finite (x := nearest false digits exp) (hcode ▸ hx)
    rw [hsign] at hsign'
    exact eq_of_code (hsign'.trans hs.symm) (hcode'.trans hcode)

end Nearest
end Decimal
end PriceOracle
