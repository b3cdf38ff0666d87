import PriceOracle.Feed.History
import PriceOracle.Proofs.Binary64.Unsigned
import PriceOracle.Proofs.Calendar

/-!
# PriceOracle.Proofs.Feed.Check

Judging a value by samples. Whatever else is among the samples, the bounds reach as far as those of
each single price (`within_of_mem`), and with one sample only they are those (`judge_one`).
-/

namespace PriceOracle
namespace History

open Binary64

variable {x y low high value price threshold granularity : Float} {prices : List Float}

section Extremes

/-- Each step of a search for an extreme keeps a number, and goes on to a better one only. -/
structure Prefers (pick : Float → Float → Float) (better : Int → Int → Prop) : Prop where
  trans : ∀ a b c, better a b → better b c → better a c
  refl : ∀ a, better a a
  number : ∀ x y, code x ≤ infinite → code (pick x y) ≤ infinite
  left : ∀ x y, code x ≤ infinite → better (key (pick x y)) (key x)
  right : ∀ x y, code x ≤ infinite → code y ≤ infinite → better (key (pick x y)) (key y)

theorem not_isNaN (hx : code x ≤ infinite) : x.isNaN = false := by
  rw [Bool.eq_false_iff, Ne, isNaN_iff, not_lt]
  exact hx

theorem smaller_eq (hx : code x ≤ infinite) (y : Float) :
    smaller x y = if y < x then y else x := by
  simp only [smaller, not_isNaN hx, Bool.false_or, decide_eq_true_eq]

theorem larger_eq (hx : code x ≤ infinite) (y : Float) :
    larger x y = if x < y then y else x := by
  simp only [larger, not_isNaN hx, Bool.false_or, decide_eq_true_eq]

theorem prefers_smaller : Prefers smaller fun a b => a ≤ b where
  trans _ _ _ := le_trans
  refl := le_refl
  number x y hx := by
    rw [smaller_eq hx]
    split
    · next h => exact (number_of_lt h).1
    · exact hx
  left x y hx := by
    rw [smaller_eq hx]
    split
    · next h => exact ((lt_iff_key (number_of_lt h).1 hx).1 h).le
    · exact le_rfl
  right x y hx hy := by
    rw [smaller_eq hx]
    split
    · exact le_rfl
    · next h => exact not_lt.1 (mt (lt_iff_key hy hx).2 h)

theorem prefers_larger : Prefers larger fun a b => b ≤ a where
  trans _ _ _ h h' := le_trans h' h
  refl := le_refl
  number x y hx := by
    rw [larger_eq hx]
    split
    · next h => exact (number_of_lt h).2
    · exact hx
  left x y hx := by
    rw [larger_eq hx]
    split
    · next h => exact ((lt_iff_key hx (number_of_lt h).2).1 h).le
    · exact le_rfl
  right x y hx hy := by
    rw [larger_eq hx]
    split
    · exact le_rfl
    · next h => exact not_lt.1 (mt (lt_iff_key hx hy).2 h)

/-- The extreme of a list is a number, and no number of the list is better. -/
theorem Prefers.foldl {pick : Float → Float → Float} {better : Int → Int → Prop}
    (h : Prefers pick better) (hx : code x ≤ infinite) (prices : List Float) :
    code (prices.foldl pick x) ≤ infinite ∧ better (key (prices.foldl pick x)) (key x) ∧
      ∀ p ∈ prices, code p ≤ infinite → better (key (prices.foldl pick x)) (key p) := by
  induction prices generalizing x with
  | nil => exact ⟨hx, h.refl _, fun p hp => absurd hp List.not_mem_nil⟩
  | cons y rest ih =>
    obtain ⟨hnumber, hpick, hall⟩ := ih (h.number x y hx)
    refine ⟨hnumber, h.trans _ _ _ hpick (h.left x y hx), fun p hp hpn => ?_⟩
    obtain rfl | hp := List.mem_cons.1 hp
    · exact h.trans _ _ _ hpick (h.right x p hx hpn)
    · exact hall p hp hpn

theorem number_infinity : code infinity ≤ infinite ∧ code (-infinity) ≤ infinite :=
  ⟨by decide, by decide⟩

theorem least_le (hprice : price ∈ prices) (hnumber : code price ≤ infinite) :
    code (least prices) ≤ infinite ∧ key (least prices) ≤ key price := by
  obtain ⟨hleast, -, hall⟩ := prefers_smaller.foldl number_infinity.1 prices
  exact ⟨hleast, hall price hprice hnumber⟩

theorem le_greatest (hprice : price ∈ prices) (hnumber : code price ≤ infinite) :
    code (greatest prices) ≤ infinite ∧ key price ≤ key (greatest prices) := by
  obtain ⟨hgreatest, -, hall⟩ := prefers_larger.foldl number_infinity.2 prices
  exact ⟨hgreatest, hall price hprice hnumber⟩

end Extremes

section Judge

theorem between_iff : between low value high = true ↔ low ≤ value ∧ value ≤ high := by
  rw [between, Bool.and_eq_true, decide_eq_true_iff, decide_eq_true_iff]

theorem between_iff_key (hlow : code low ≤ infinite) (hvalue : code value ≤ infinite)
    (hhigh : code high ≤ infinite) :
    between low value high = true ↔ key low ≤ key value ∧ key value ≤ key high := by
  rw [between_iff, le_iff_key hlow hvalue, le_iff_key hvalue hhigh]

/-- The factors by which samples are widened and scaled are above zero. -/
structure IsScale (threshold granularity : Float) : Prop where
  below : IsFactor (1.0 - threshold)
  above : IsFactor (1.0 + threshold)
  unit : IsFactor granularity

/-- A value within the bounds of one of the prices is within the bounds of all of them. -/
theorem within_of_mem {window : List Sample} {s : Sample} (hscale : IsScale threshold granularity)
    (hs : s ∈ window) (hprice : code s.price ≤ infinite)
    (h : between (s.price * (1.0 - threshold) * granularity) value
      (s.price * (1.0 + threshold) * granularity) = true) :
    (judge window value threshold granularity).within = true := by
  obtain ⟨hbelow, habove, hunit⟩ := hscale
  have hmem : s.price ∈ window.map (·.price) := List.mem_map_of_mem hs
  obtain ⟨hleast, hlow⟩ := least_le hmem hprice
  obtain ⟨hgreatest, hhigh⟩ := le_greatest hmem hprice
  have hlow := hunit.key_mul_le (hbelow.number_mul hleast) (hbelow.number_mul hprice)
    (hbelow.key_mul_le hleast hprice hlow)
  have hhigh := hunit.key_mul_le (habove.number_mul hprice) (habove.number_mul hgreatest)
    (habove.key_mul_le hprice hgreatest hhigh)
  obtain ⟨hle, hge⟩ := between_iff.1 h
  obtain ⟨hl, hvalue⟩ := number_of_le hle
  obtain ⟨-, hg⟩ := number_of_le hge
  rw [le_iff_key hl hvalue] at hle
  rw [le_iff_key hvalue hg] at hge
  refine (between_iff_key (hunit.number_mul (hbelow.number_mul hleast)) hvalue
    (hunit.number_mul (habove.number_mul hgreatest))).2 ⟨hlow.trans hle, hge.trans hhigh⟩

theorem least_one (hprice : code price < infinite) : least [price] = price := by
  have hlt : price < infinity := by
    have hkey : key infinity = infinite := rfl
    rw [lt_iff_key hprice.le number_infinity.1, hkey]
    unfold key keyOf
    split <;> omega
  rw [least, List.foldl_cons, List.foldl_nil, smaller_eq number_infinity.1, if_pos hlt]

theorem greatest_one (hprice : code price < infinite) : greatest [price] = price := by
  have hlt : -infinity < price := by
    have hkey : key (-infinity) = -infinite := rfl
    rw [lt_iff_key number_infinity.2 hprice.le, hkey]
    unfold key keyOf
    split <;> omega
  rw [greatest, List.foldl_cons, List.foldl_nil, larger_eq number_infinity.2, if_pos hlt]

theorem judge_one {s : Sample} (hprice : code s.price < infinite) :
    (judge [s] value threshold granularity).within =
      between (s.price * (1.0 - threshold) * granularity) value
        (s.price * (1.0 + threshold) * granularity) := by
  simp only [judge, List.map_cons, List.map_nil, least_one hprice, greatest_one hprice]

theorem mem_around {h : History} {s : Sample} {delta : Int} (hs : s ∈ h.samples)
    (hdelta : 0 ≤ delta) : s ∈ h.around s.timestamp delta := by
  rw [around, List.mem_filter, decide_eq_true_iff, Calendar.apart_self]
  exact ⟨hs, hdelta⟩

/-- The only sample is around its own instant. -/
theorem around_own (s : Sample) (delta : Int) :
    (History.mk [s]).around s.timestamp delta = if 0 ≤ delta then [s] else [] := by
  rw [around, List.filter_cons, List.filter_nil, Calendar.apart_self]
  simp only [decide_eq_true_eq]

theorem check_of_mem {h : History} {s : Sample} {delta : Int} (hs : s ∈ h.samples)
    (hdelta : 0 ≤ delta) (value threshold granularity : Float) :
    h.check value s.timestamp delta threshold granularity =
      some (judge (h.around s.timestamp delta) value threshold granularity) := by
  have hmem := mem_around hs hdelta
  unfold check
  split
  · next hnil => exact absurd hmem (hnil ▸ List.not_mem_nil)
  · rfl

end Judge

end History
end PriceOracle
