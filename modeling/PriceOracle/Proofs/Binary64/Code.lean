import Mathlib.Algebra.Order.Field.Power
import Mathlib.Algebra.Order.Field.Rat
import Mathlib.Tactic.Linarith
import Mathlib.Tactic.NormNum
import Mathlib.Tactic.Positivity
import Mathlib.Tactic.Ring

/-!
# PriceOracle.Proofs.Binary64.Code

The magnitudes of doubles as natural numbers. The code of a magnitude is the number that its lower
63 bits spell; codes count the magnitudes from zero up, through the subnormal numbers and one binade
after another, and go on beyond `infinite` as if the exponents had no end. `Rounds v n` says that
`n` is the code of the magnitude nearest to `v`, a half going to the even code.

* `value_mul_add`: the magnitude that is coded by a binade and a mantissa.
* `Rounds.le`: rounding is monotone, so there is one result (`Rounds.unique`).
* `rounds_of_nearest`: the nearest mantissa makes the nearest magnitude.
-/

namespace PriceOracle
namespace Binary64

def infinite : ℕ := 2047 * 2 ^ 52

/-- How many times the last place has been doubled. -/
def binade (n : ℕ) : ℕ := n / 2 ^ 52 - 1

def mantissa (n : ℕ) : ℕ := n - binade n * 2 ^ 52

/-- The exponent of the last place. -/
def place (n : ℕ) : ℤ := (binade n : ℤ) - 1074

def value (n : ℕ) : ℚ := mantissa n * 2 ^ place n

/-- Halfway to the next magnitude. -/
def halfway (n : ℕ) : ℚ := value n + 2 ^ place n / 2

variable {n m k b : ℕ} {v w r : ℚ}

section Code

theorem binade_mul_add (hm : m < 2 ^ 53) (hb : 2 ^ 52 ≤ m ∨ b = 0) :
    binade (b * 2 ^ 52 + m) = b := by
  unfold binade
  omega

theorem mantissa_mul_add (hm : m < 2 ^ 53) (hb : 2 ^ 52 ≤ m ∨ b = 0) :
    mantissa (b * 2 ^ 52 + m) = m := by
  rw [mantissa, binade_mul_add hm hb, Nat.add_sub_cancel_left]

theorem place_mul_add (hm : m < 2 ^ 53) (hb : 2 ^ 52 ≤ m ∨ b = 0) :
    place (b * 2 ^ 52 + m) = (b : ℤ) - 1074 := by
  rw [place, binade_mul_add hm hb]

theorem mul_add_mantissa (n : ℕ) : binade n * 2 ^ 52 + mantissa n = n := by
  unfold mantissa binade
  omega

theorem mantissa_lt (n : ℕ) : mantissa n < 2 ^ 53 := by
  unfold mantissa binade
  omega

theorem le_mantissa (n : ℕ) : 2 ^ 52 ≤ mantissa n ∨ binade n = 0 := by
  unfold mantissa binade
  omega

theorem two_zpow_succ (e : ℤ) : (2 : ℚ) ^ (e + 1) = 2 * 2 ^ e := by
  rw [zpow_add_one₀ two_ne_zero, mul_comm]

theorem value_mul_add (hm : m ≤ 2 ^ 53) (hb : 2 ^ 52 ≤ m ∨ b = 0) :
    value (b * 2 ^ 52 + m) = m * 2 ^ ((b : ℤ) - 1074) := by
  obtain hlt | rfl := Nat.lt_or_eq_of_le hm
  · rw [value, mantissa_mul_add hlt hb, place_mul_add hlt hb]
  · -- the mantissa of the next binade
    have hcode : b * 2 ^ 52 + 2 ^ 53 = (b + 1) * 2 ^ 52 + 2 ^ 52 := by omega
    have hexp : ((b + 1 : ℕ) : ℤ) - 1074 = (b - 1074 : ℤ) + 1 := by push_cast; ring
    rw [hcode, value, mantissa_mul_add (by norm_num) (.inl le_rfl),
      place_mul_add (by norm_num) (.inl le_rfl), hexp, two_zpow_succ]
    norm_num
    ring

theorem value_succ (n : ℕ) : value (n + 1) = value n + 2 ^ place n := by
  have hcode : n + 1 = binade n * 2 ^ 52 + (mantissa n + 1) := by
    rw [← Nat.add_assoc, mul_add_mantissa]
  have hb : 2 ^ 52 ≤ mantissa n + 1 ∨ binade n = 0 := by
    have := le_mantissa n
    omega
  rw [hcode, value_mul_add (mantissa_lt n) hb, value, place]
  push_cast
  ring

theorem value_zero : value 0 = 0 := by
  rw [value, mantissa]
  simp

theorem strictMono_value : StrictMono value :=
  strictMono_nat_of_lt_succ fun n => by
    rw [value_succ]
    exact lt_add_of_pos_right _ (by positivity)

theorem value_nonneg (n : ℕ) : 0 ≤ value n := by
  unfold value
  positivity

/-- The least magnitude of a binade. -/
theorem value_binade (b : ℕ) : value (b * 2 ^ 52 + 2 ^ 52) = 2 ^ ((b : ℤ) - 1022) := by
  have hexp : (52 : ℤ) + ((b : ℤ) - 1074) = b - 1022 := by ring
  rw [value_mul_add (by norm_num) (.inl le_rfl),
    show ((2 ^ 52 : ℕ) : ℚ) = 2 ^ (52 : ℤ) by norm_cast, ← zpow_add₀ two_ne_zero, hexp]

/-- Two magnitudes are no closer than zero and the least magnitude above it. -/
theorem value_one_le_sub (h : n < m) : value 1 ≤ value m - value n := by
  have hplace (k : ℕ) : -1074 ≤ place k := by
    unfold place
    omega
  have hone : value 1 = 2 ^ (-1074 : ℤ) := by
    rw [value_succ, value_zero, zero_add]
    rfl
  have hgap : (2 : ℚ) ^ (-1074 : ℤ) ≤ 2 ^ place n := zpow_le_zpow_right₀ one_le_two (hplace n)
  have hsucc : value (n + 1) ≤ value m := strictMono_value.monotone h
  rw [value_succ] at hsucc
  rw [hone]
  linarith

theorem value_lt_halfway (n : ℕ) : value n < halfway n :=
  lt_add_of_pos_right _ (by positivity)

theorem halfway_lt_value (n : ℕ) : halfway n < value (n + 1) := by
  have hpos : (0 : ℚ) < 2 ^ place n := by positivity
  rw [halfway, value_succ]
  linarith

theorem strictMono_halfway : StrictMono halfway :=
  strictMono_nat_of_lt_succ fun n => (halfway_lt_value n).trans (value_lt_halfway (n + 1))

end Code

/-- The magnitude of code `n` is the nearest to `v`. -/
structure Rounds (v : ℚ) (n : ℕ) : Prop where
  above : v < halfway n ∨ v = halfway n ∧ n % 2 = 0
  below : ∀ k, n = k + 1 → halfway k < v ∨ halfway k = v ∧ n % 2 = 0

section Rounds

theorem rounds_value (n : ℕ) : Rounds (value n) n where
  above := .inl (value_lt_halfway n)
  below := by
    rintro k rfl
    exact .inl (halfway_lt_value k)

/-- Rounding is monotone. -/
theorem Rounds.le (hn : Rounds v n) (hm : Rounds w m) (h : v ≤ w) : n ≤ m := by
  by_contra hlt
  obtain ⟨k, rfl⟩ : ∃ k, n = k + 1 := ⟨n - 1, by omega⟩
  have hmid : halfway m ≤ halfway k := strictMono_halfway.monotone (by omega)
  obtain hbelow | ⟨hbelow, hk⟩ := hn.below k rfl
  · obtain habove | ⟨habove, -⟩ := hm.above <;> linarith
  · obtain habove | ⟨habove, hm⟩ := hm.above
    · linarith
    · -- both ends of the gap would be even
      have hkm : halfway k = halfway m := by linarith
      have := strictMono_halfway.injective hkm
      omega

theorem Rounds.unique (hn : Rounds v n) (hm : Rounds v m) : n = m :=
  le_antisymm (hn.le hm le_rfl) (hm.le hn le_rfl)

end Rounds

/-- The natural number `k` is the nearest to `r`. -/
structure Nearest (r : ℚ) (k : ℕ) : Prop where
  above : r < k + 1 / 2 ∨ r = k + 1 / 2 ∧ k % 2 = 0
  below : k - 1 / 2 < r ∨ k - 1 / 2 = r ∧ k % 2 = 0

section Nearest

theorem halfway_mul_add (hm : m < 2 ^ 53) (hb : 2 ^ 52 ≤ m ∨ b = 0) :
    halfway (b * 2 ^ 52 + m) = (m + 1 / 2) * 2 ^ ((b : ℤ) - 1074) := by
  rw [halfway, value_mul_add hm.le hb, place_mul_add hm hb]
  ring

theorem Nearest.le (h : Nearest r k) (hr : r < m) : k ≤ m := by
  have hk : (k : ℚ) - 1 / 2 ≤ r := by
    obtain h | h := h.below
    · exact h.le
    · exact h.1.le
  have : (k : ℚ) < m + 1 := by linarith
  exact Nat.lt_succ_iff.1 (by exact_mod_cast this)

theorem Nearest.ge (h : Nearest r k) (hr : m ≤ r) : m ≤ k := by
  have hk : r ≤ k + 1 / 2 := by
    obtain h | h := h.above
    · exact h.le
    · exact h.1.le
  have : (m : ℚ) < k + 1 := by linarith
  exact Nat.lt_succ_iff.1 (by exact_mod_cast this)

/-- The nearest mantissa makes the nearest magnitude, also when it belongs to the next binade. -/
theorem rounds_of_nearest (h : Nearest r k) (hr : r < 2 ^ 53) (hb : 2 ^ 52 ≤ r ∨ b = 0) :
    Rounds (r * 2 ^ ((b : ℤ) - 1074)) (b * 2 ^ 52 + k) := by
  have hpos : (0 : ℚ) < 2 ^ ((b : ℤ) - 1074) := by positivity
  have hk : k ≤ 2 ^ 53 := h.le (by exact_mod_cast hr)
  have hbk : 2 ^ 52 ≤ k ∨ b = 0 := hb.imp_left fun h' => h.ge (by exact_mod_cast h')
  have heven : (b * 2 ^ 52 + k) % 2 = k % 2 := by omega
  constructor
  · rw [heven]
    obtain hlt | rfl := Nat.lt_or_eq_of_le hk
    · rw [halfway_mul_add hlt hbk]
      obtain h' | ⟨h', hk⟩ := h.above
      · exact .inl (mul_lt_mul_of_pos_right h' hpos)
      · exact .inr ⟨by rw [h'], hk⟩
    · left
      refine lt_trans ?_ (value_lt_halfway _)
      rw [value_mul_add hk hbk]
      exact mul_lt_mul_of_pos_right (by exact_mod_cast hr) hpos
  · rw [heven]
    intro j hj
    by_cases hedge : k = 2 ^ 52 ∧ b ≠ 0
    · -- the magnitude below belongs to the binade below
      obtain ⟨rfl, hb0⟩ := hedge
      left
      refine lt_of_lt_of_le (halfway_lt_value j) ?_
      rw [← hj, value_mul_add hk hbk]
      have hr' : 2 ^ 52 ≤ r := hb.resolve_right hb0
      exact mul_le_mul_of_nonneg_right (by exact_mod_cast hr') hpos.le
    · obtain ⟨i, rfl⟩ : ∃ i, k = i + 1 := ⟨k - 1, by omega⟩
      have hi : i < 2 ^ 53 := by omega
      have hbi : 2 ^ 52 ≤ i ∨ b = 0 := by omega
      obtain rfl : j = b * 2 ^ 52 + i := by omega
      have hmid : halfway (b * 2 ^ 52 + i) = ((i + 1 : ℕ) - 1 / 2) * 2 ^ ((b : ℤ) - 1074) := by
        rw [halfway_mul_add hi hbi]
        push_cast
        ring
      rw [hmid]
      obtain h' | ⟨h', hk⟩ := h.below
      · exact .inl (mul_lt_mul_of_pos_right h' hpos)
      · exact .inr ⟨by rw [h'], hk⟩

end Nearest
end Binary64
end PriceOracle
