import PriceOracle.Proofs.Binary64.Word

/-!
# PriceOracle.Proofs.Binary64.Order

The order of the doubles that are numbers, the infinities among them: it is the order of their codes
with their signs (`le_iff_key`, `lt_iff_key`).
-/

namespace PriceOracle
namespace Binary64

open Float.Model Float.Model.UnpackedFloat

/-- A code with a sign. Both zeros have the key zero. -/
def keyOf : Sign → ℕ → ℤ
  | .negative, n => -n
  | .positive, n => n

def key (x : Float) : ℤ := keyOf (sign x) (code x)

variable {x y : Float} {n m : ℕ} {s t : Sign}

/-- A magnitude or infinity, as arithmetic takes it. -/
def extended (s : Sign) (n : ℕ) : UnpackedFloat :=
  if n < infinite then unpacked s n else .infinity s

theorem unpack_eq_extended (hx : code x ≤ infinite) :
    x.toModel.unpack = extended (sign x) (code x) := by
  rw [unpack_eq, extended]
  split
  · rfl
  · rw [if_pos (by omega)]

theorem extended_cases (s : Sign) (hn : n ≤ infinite) :
    n = 0 ∧ extended s n = .zero s ∨
    (∃ h : n ≠ 0, n < infinite ∧
      extended s n = .finite s (mantissa n) (place n) (mantissa_pos h)) ∨
    n = infinite ∧ extended s n = .infinity s := by
  unfold extended
  by_cases h0 : n = 0
  · subst h0
    exact .inl ⟨rfl, rfl⟩
  · by_cases hlt : n < infinite
    · rw [if_pos hlt]
      exact .inr (.inl ⟨h0, hlt, unpacked_of_ne s h0⟩)
    · rw [if_neg hlt]
      exact .inr (.inr ⟨by omega, rfl⟩)

/-- Magnitudes compare by their exponents first. -/
theorem compare_code (n m : ℕ) :
    (compare (place n) (place m)).then (compare (mantissa n) (mantissa m)) =
      compare (n : ℤ) m := by
  have hn := mul_add_mantissa n
  have hm := mul_add_mantissa m
  have := mantissa_lt n
  have := mantissa_lt m
  have := le_mantissa n
  have := le_mantissa m
  have hplace := place.eq_def n
  have hplace' := place.eq_def m
  cases hc : compare (n : ℤ) m with
  | lt =>
    rw [Int.compare_eq_lt] at hc
    rw [Ordering.then_eq_lt, Int.compare_eq_lt, Int.compare_eq_eq, Nat.compare_eq_lt]
    omega
  | eq =>
    rw [Int.compare_eq_eq] at hc
    rw [Ordering.then_eq_eq, Int.compare_eq_eq, Nat.compare_eq_eq]
    omega
  | gt =>
    rw [Int.compare_eq_gt] at hc
    rw [Ordering.then_eq_gt, Int.compare_eq_gt, Int.compare_eq_eq, Nat.compare_eq_gt]
    omega

theorem compare_neg (a b : ℤ) : compare (-a) (-b) = (compare a b).swap := by
  rw [Int.compare_swap]
  cases hc : compare b a with
  | lt =>
    rw [Int.compare_eq_lt] at hc ⊢
    omega
  | eq =>
    rw [Int.compare_eq_eq] at hc ⊢
    omega
  | gt =>
    rw [Int.compare_eq_gt] at hc ⊢
    omega

theorem compare_sign (s t : Sign) : compare s t = compare (keyOf s 1) (keyOf t 1) := by
  cases s <;> cases t <;> rfl

/-- Equal magnitudes compare by their signs. -/
theorem compare_keyOf (s t : Sign) (hn : n ≠ 0) :
    compare (keyOf s 1) (keyOf t 1) = compare (keyOf s n) (keyOf t n) := by
  cases s <;> cases t <;> simp only [keyOf]
  · rw [Int.compare_eq_eq.2 rfl, Int.compare_eq_eq.2 rfl]
  · rw [Int.compare_eq_lt.2 (by omega), Int.compare_eq_lt.2 (by omega)]
  · rw [Int.compare_eq_gt.2 (by omega), Int.compare_eq_gt.2 (by omega)]
  · rw [Int.compare_eq_eq.2 rfl, Int.compare_eq_eq.2 rfl]

theorem compare_extended (s t : Sign) (hn : n ≤ infinite) (hm : m ≤ infinite) :
    (extended s n).compare (extended t m) = some (compare (keyOf s n) (keyOf t m)) := by
  have hpos : infinite ≠ 0 := by norm_num [infinite]
  have lt {a b : ℤ} (h : a < b) : some Ordering.lt = some (compare a b) := by
    rw [Int.compare_eq_lt.2 h]
  have gt {a b : ℤ} (h : b < a) : some Ordering.gt = some (compare a b) := by
    rw [Int.compare_eq_gt.2 h]
  have eq {a b : ℤ} (h : a = b) : some Ordering.eq = some (compare a b) := by
    rw [Int.compare_eq_eq.2 h]
  have pos : some ((compare (place n) (place m)).then (compare (mantissa n) (mantissa m))) =
      some (compare (n : ℤ) m) := by
    rw [compare_code]
  have neg : some ((compare (place n) (place m)).then (compare (mantissa n) (mantissa m))).swap =
      some (compare (-n : ℤ) (-m)) := by
    rw [compare_code, compare_neg]
  obtain ⟨rfl, hx⟩ | ⟨hn0, hn', hx⟩ | ⟨rfl, hx⟩ := extended_cases s hn <;>
  obtain ⟨rfl, hy⟩ | ⟨hm0, hm', hy⟩ | ⟨hm', hy⟩ := extended_cases t hm <;>
  rw [hx, hy]
  case inr.inr.inr.inr =>
    show some (compare s t) = _
    rw [compare_sign, hm', compare_keyOf s t hpos]
  all_goals
    cases s <;> cases t <;> dsimp only [keyOf] <;>
    first
      | exact lt (by omega)
      | exact gt (by omega)
      | exact eq (by omega)
      | exact pos
      | exact neg

/-- Doubles that are numbers compare as their keys. -/
theorem compare_toModel (hx : code x ≤ infinite) (hy : code y ≤ infinite) :
    x.toModel.unpack.compare y.toModel.unpack = some (compare (key x) (key y)) := by
  rw [unpack_eq_extended hx, unpack_eq_extended hy, compare_extended _ _ hx hy, key, key]

theorem le_iff_key (hx : code x ≤ infinite) (hy : code y ≤ infinite) :
    x ≤ y ↔ key x ≤ key y := by
  show decide (x.toModel.unpack.le y.toModel.unpack = true) = true ↔ _
  rw [decide_eq_true_iff, UnpackedFloat.le, compare_toModel hx hy, Option.any_some,
    Int.isLE_compare]

theorem lt_iff_key (hx : code x ≤ infinite) (hy : code y ≤ infinite) :
    x < y ↔ key x < key y := by
  show decide (x.toModel.unpack.lt y.toModel.unpack = true) = true ↔ _
  rw [decide_eq_true_iff, UnpackedFloat.lt, compare_toModel hx hy, beq_iff_eq, Option.some_inj,
    Int.compare_eq_lt]

end Binary64
end PriceOracle
