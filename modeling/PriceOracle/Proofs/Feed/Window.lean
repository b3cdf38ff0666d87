import Mathlib.Algebra.BigOperators.Intervals
import Mathlib.Order.Interval.Finset.Nat
import PriceOracle.Feed.Window
import PriceOracle.Proofs.Calendar

/-!
# PriceOracle.Proofs.Feed.Window

The window of neighbouring times that is closest to an instant. Seen along the times, the distance
from the instant falls and then rises. So picked positions can be moved towards each other, one
after another, until there is no gap between them, and they come no farther from the instant by
that.

* `distance_eq`: the distance that is reckoned in 64 bits is the true one if that fits.
* `Valley.exists_exchange`: how one of the positions is moved.
* `closest_least`: the closest window is no farther than any choice of as many times, and the first
  one of those windows.
-/

namespace PriceOracle
namespace Window

open Finset

/-! ## Positions that are moved together -/

/-- No position measures more than both a position before it and one after it. -/
def Valley (f : Nat → Nat) (n : Nat) : Prop :=
  ∀ i j k, i ≤ j → j ≤ k → k < n → f j ≤ f i ∨ f j ≤ f k

section Valley

variable {f : Nat → Nat} {n first size : Nat} {picked : Finset Nat}

/-- A position is given up for another one that measures no more. -/
theorem exchange_le {i j : Nat} (hi : i ∈ picked) (hj : j ∉ picked) (h : f j ≤ f i) :
    (insert j (picked.erase i)).card = picked.card ∧
      ∑ k ∈ insert j (picked.erase i), f k ≤ ∑ k ∈ picked, f k := by
  have hj : j ∉ picked.erase i := fun hmem => hj (mem_of_mem_erase hmem)
  constructor
  · rw [card_insert_of_notMem hj, card_erase_add_one hi]
  · rw [sum_insert hj, ← add_sum_erase picked f hi]
    exact Nat.add_le_add_right h _

theorem exchange_subset {range : Finset Nat} {i j : Nat} (hp : picked ⊆ range) (hj : j ∈ range) :
    insert j (picked.erase i) ⊆ range :=
  insert_subset hj ((erase_subset i picked).trans hp)

theorem notMem_exchange {i j : Nat} (hi : i ∈ picked) (hj : j ∉ picked) :
    i ∉ insert j (picked.erase i) := by
  intro hmem
  obtain rfl | hmem := mem_insert.1 hmem
  · exact hj hi
  · exact ne_of_mem_erase hmem rfl

theorem exists_narrower (hn : first + (size + 1) ≤ n)
    (hp : picked ⊆ Ico first (first + (size + 1)))
    (hend : first ∉ picked ∨ first + size ∉ picked) :
    ∃ first', first' + size ≤ n ∧ picked ⊆ Ico first' (first' + size) := by
  simp only [subset_iff, mem_Ico] at hp ⊢
  obtain hend | hend := hend
  · refine ⟨first + 1, by omega, fun i hi => ?_⟩
    have hne : i ≠ first := fun heq => hend (heq ▸ hi)
    have := hp hi
    omega
  · refine ⟨first, by omega, fun i hi => ?_⟩
    have hne : i ≠ first + size := fun heq => hend (heq ▸ hi)
    have := hp hi
    omega

/-- When there is a gap between both ends of a range, one of the ends is given up for it. -/
theorem Valley.exists_exchange (hf : Valley f n) (hn : first + (size + 1) ≤ n)
    (hp : picked ⊆ Ico first (first + (size + 1))) {gap : Nat}
    (hgap : gap ∈ Ico first (first + (size + 1))) (hfree : gap ∉ picked) :
    ∃ picked' ⊆ Ico first (first + (size + 1)), picked'.card = picked.card ∧
      ∑ i ∈ picked', f i ≤ ∑ i ∈ picked, f i ∧ (first ∉ picked' ∨ first + size ∉ picked') := by
  by_cases hfirst : first ∈ picked
  · by_cases hlast : first + size ∈ picked
    · obtain ⟨hle, hlt⟩ := mem_Ico.1 hgap
      obtain h | h := hf first gap (first + size) hle (by omega) (by omega)
      · obtain ⟨hcard, hsum⟩ := exchange_le hfirst hfree h
        exact ⟨_, exchange_subset hp hgap, hcard, hsum, .inl (notMem_exchange hfirst hfree)⟩
      · obtain ⟨hcard, hsum⟩ := exchange_le hlast hfree h
        exact ⟨_, exchange_subset hp hgap, hcard, hsum, .inr (notMem_exchange hlast hfree)⟩
    · exact ⟨picked, hp, rfl, le_rfl, .inr hlast⟩
  · exact ⟨picked, hp, rfl, le_rfl, .inl hfirst⟩

/-- Some block of neighbouring positions measures no more than the positions that were picked. -/
theorem Valley.exists_block (hf : Valley f n) (hn : first + size ≤ n)
    (hp : picked ⊆ Ico first (first + size)) :
    ∃ start, start + picked.card ≤ n ∧
      ∑ i ∈ Ico start (start + picked.card), f i ≤ ∑ i ∈ picked, f i := by
  induction size generalizing first picked with
  | zero =>
    have hempty : picked = ∅ := by simpa using hp
    refine ⟨first, ?_, ?_⟩
    · simpa [hempty] using hn
    · simp [hempty]
  | succ size ih =>
    by_cases hfull : Ico first (first + (size + 1)) ⊆ picked
    · obtain rfl := Subset.antisymm hp hfull
      rw [Nat.card_Ico, Nat.add_sub_cancel_left]
      exact ⟨first, hn, le_rfl⟩
    · obtain ⟨gap, hgap, hfree⟩ := not_subset.1 hfull
      obtain ⟨picked', hp', hcard, hsum, hend⟩ := hf.exists_exchange hn hp hgap hfree
      obtain ⟨first', hn', hp'⟩ := exists_narrower hn hp' hend
      obtain ⟨start, hstart, hblock⟩ := ih hn' hp'
      rw [hcard] at hstart hblock
      exact ⟨start, hstart, hblock.trans hsum⟩

end Valley

/-! ## Distances -/

/-- How far the time at a position is from an instant. -/
def away (times : List Int) (instant : Int) (i : Nat) : Nat := (times.getD i 0 - instant).natAbs

section Distance

variable {times : List Int} {instant : Int}

theorem away_eq {i : Nat} (hi : i < times.length) :
    away times instant i = (times[i] - instant).natAbs := by
  simp [away, hi]

theorem valley_away (ordered : times.Pairwise (· ≤ ·)) (instant : Int) :
    Valley (away times instant) times.length := by
  intro i j k hij hjk hk
  have hj := Nat.lt_of_le_of_lt hjk hk
  have hi := Nat.lt_of_le_of_lt hij hj
  have : times[i] ≤ times[j] := ordered.rel_get_of_le (a := ⟨i, hi⟩) (b := ⟨j, hj⟩) hij
  have : times[j] ≤ times[k] := ordered.rel_get_of_le (a := ⟨j, hj⟩) (b := ⟨k, hk⟩) hjk
  rw [away_eq hi, away_eq hj, away_eq hk]
  omega

theorem slice_succ {start count : Nat} (h : start + count < times.length) :
    slice times start (count + 1) = slice times start count ++ [times[start + count]] := by
  rw [slice, List.take_add_one, List.getElem?_drop, List.getElem?_eq_getElem h]
  rfl

theorem total_snoc (instant : Int) (front : List Int) (t : Int) :
    total instant (front ++ [t]) = total instant front + (t - instant).natAbs := by
  induction front with
  | nil => exact Nat.add_comm _ 0
  | cons first front ih => rw [List.cons_append, total, total, ih, Nat.add_assoc]

/-- What has been summed up so far goes along. -/
theorem foldl_wrapped64 {sum : Int} (hsum : 0 ≤ sum) (hfits : sum + total instant times < 2 ^ 63) :
    times.foldl (fun sum t => Calendar.wrapped64 (sum + Calendar.apart t instant)) sum =
      sum + total instant times := by
  induction times generalizing sum with
  | nil => simp [total]
  | cons t times ih =>
    rw [total] at hfits ⊢
    have hapart : Calendar.apart t instant = (t - instant).natAbs :=
      Calendar.apart_eq ⟨by omega, by omega⟩
    rw [List.foldl_cons, hapart, Calendar.wrapped64_eq_self ⟨by omega, by omega⟩,
      ih (by omega) (by omega)]
    omega

theorem distance_eq (hfits : total instant times < 2 ^ 63) :
    distance instant times = total instant times := by
  rw [distance, foldl_wrapped64 le_rfl (by omega), Int.zero_add]

theorem total_slice (instant : Int) {start count : Nat} (h : start + count ≤ times.length) :
    total instant (slice times start count) =
      ∑ i ∈ Ico start (start + count), away times instant i := by
  induction count with
  | zero => simp [slice, total]
  | succ count ih =>
    have hlt : start + count < times.length := h
    rw [slice_succ hlt, total_snoc, ih hlt.le, ← Nat.add_assoc,
      sum_Ico_succ_top (Nat.le_add_right start count), away_eq hlt]

theorem sum_picked (picked : Finset (Fin times.length)) :
    ∑ i ∈ picked, (times[i] - instant).natAbs =
      ∑ i ∈ picked.map Fin.valEmbedding, away times instant i := by
  rw [sum_map]
  exact sum_congr rfl fun i _ => (away_eq i.isLt).symm

end Distance

/-! ## The first of the least -/

section FirstLeast

variable {measure : Nat → Int} {best : Nat} {rest : List Nat}

theorem firstLeast_mem : firstLeast measure best rest ∈ best :: rest := by
  induction rest generalizing best with
  | nil => exact List.mem_singleton_self best
  | cons n rest ih =>
    rw [firstLeast]
    split
    · exact List.mem_cons_of_mem best ih
    · have hmem : firstLeast measure best rest ∈ best :: rest := ih
      obtain h | h := List.mem_cons.1 hmem
      · rw [h]
        exact List.mem_cons_self
      · exact List.mem_cons_of_mem _ (List.mem_cons_of_mem _ h)

/-- Nothing measures less, and what measures as little does not come before. -/
theorem firstLeast_least (ascending : (best :: rest).Pairwise (· ≤ ·)) {n : Nat}
    (hn : n ∈ best :: rest) :
    measure (firstLeast measure best rest) ≤ measure n ∧
      (measure n = measure (firstLeast measure best rest) → firstLeast measure best rest ≤ n) := by
  induction rest generalizing best n with
  | nil =>
    rw [List.mem_singleton.1 hn]
    exact ⟨le_rfl, fun _ => le_rfl⟩
  | cons m rest ih =>
    obtain ⟨hbest, hrest⟩ := List.pairwise_cons.1 ascending
    have hm : best ≤ m := hbest m List.mem_cons_self
    rw [firstLeast]
    split
    · next hless =>
      obtain rfl | hn := List.mem_cons.1 hn
      · have hres := ih hrest List.mem_cons_self
        omega
      · exact ih hrest hn
    · next hless =>
      have ascending : (best :: rest).Pairwise (· ≤ ·) := ascending.sublist (by simp)
      have hres := ih ascending List.mem_cons_self
      obtain rfl | hn := List.mem_cons.1 hn
      · exact hres
      · obtain rfl | hn := List.mem_cons.1 hn
        · omega
        · exact ih ascending (List.mem_cons_of_mem best hn)

end FirstLeast

section Closest

variable {times : List Int} {instant : Int} {count : Nat}

theorem closest_add_le (instant : Int) (hcount : count ≤ times.length) :
    closest times instant count + count ≤ times.length := by
  unfold closest
  split
  · omega
  · let measure := fun start => distance instant (slice times start count)
    let starts := List.range (times.length - count + 1)
    have hfound : firstLeast measure 0 starts ∈ 0 :: starts := firstLeast_mem
    show firstLeast measure 0 starts + count ≤ times.length
    obtain hzero | hmem := List.mem_cons.1 hfound
    · omega
    · have := List.mem_range.1 hmem
      omega

/-- The closest window is the first of the windows at the least distance. -/
theorem closest_first (hmeasures : Measures times instant count) {start : Nat}
    (hstart : start + count ≤ times.length) :
    total instant (slice times (closest times instant count) count) ≤
        total instant (slice times start count) ∧
      (total instant (slice times start count) =
        total instant (slice times (closest times instant count) count) →
          closest times instant count ≤ start) := by
  have hcount : count ≤ times.length := by omega
  have hin := closest_add_le instant hcount
  by_cases hall : count = 0 ∨ times.length ≤ count
  · -- There is but one window, or each of them is empty.
    have hzero : closest times instant count = 0 := if_pos hall
    have hsame : slice times start count = slice times 0 count := by
      obtain rfl | hlength := hall
      · simp [slice]
      · rw [show start = 0 by omega]
    rw [hzero, hsame]
    exact ⟨le_rfl, fun _ => Nat.zero_le start⟩
  · have htotal : ∀ n, n + count ≤ times.length →
        distance instant (slice times n count) = total instant (slice times n count) :=
      fun n hn => distance_eq (hmeasures (by omega) n (by omega))
    let measure := fun start => distance instant (slice times start count)
    let starts := List.range (times.length - count + 1)
    have ascending : (0 :: starts).Pairwise (· ≤ ·) :=
      List.pairwise_cons.2 ⟨fun _ _ => Nat.zero_le _, List.pairwise_le_range⟩
    have hmem : start ∈ 0 :: starts :=
      List.mem_cons_of_mem 0 (List.mem_range.2 (by omega))
    have hfound : closest times instant count = firstLeast measure 0 starts := if_neg hall
    have hleast := @firstLeast_least measure 0 starts ascending start hmem
    rw [← hfound] at hleast
    simp only [measure] at hleast
    rw [htotal _ hin, htotal _ hstart] at hleast
    exact ⟨by exact_mod_cast hleast.1, fun heq => hleast.2 (by exact_mod_cast heq)⟩

/-- The closest window lies within the times. As many chosen times are no closer, however they are
chosen, and no window before it is as close. -/
theorem closest_least (ordered : times.Pairwise (· ≤ ·)) (hcount : count ≤ times.length)
    (hmeasures : Measures times instant count) :
    closest times instant count + count ≤ times.length ∧
    (∀ picked : Finset (Fin times.length), picked.card = count →
      total instant (slice times (closest times instant count) count) ≤
        ∑ i ∈ picked, (times[i] - instant).natAbs) ∧
    ∀ start, start + count ≤ times.length →
      total instant (slice times start count) =
        total instant (slice times (closest times instant count) count) →
      closest times instant count ≤ start := by
  refine ⟨closest_add_le instant hcount, fun picked hcard => ?_,
    fun start hstart => (closest_first hmeasures hstart).2⟩
  have hwithin : picked.map Fin.valEmbedding ⊆ Ico 0 (0 + times.length) := by
    intro i hi
    obtain ⟨j, -, rfl⟩ := mem_map.1 hi
    simp
  obtain ⟨start, hstart, hblock⟩ :=
    (valley_away ordered instant).exists_block (by omega) hwithin
  rw [card_map, hcard] at hstart hblock
  calc total instant (slice times (closest times instant count) count)
      ≤ total instant (slice times start count) := (closest_first hmeasures hstart).1
    _ = ∑ i ∈ Ico start (start + count), away times instant i := total_slice instant hstart
    _ ≤ ∑ i ∈ picked.map Fin.valEmbedding, away times instant i := hblock
    _ = ∑ i ∈ picked, (times[i] - instant).natAbs := (sum_picked picked).symm

/-- Whichever three of these times are chosen, they are no closer than the third to the fifth. -/
theorem closest_least_three :
    [100, 200, 300, 400, 500, 600].Pairwise (· ≤ · : Int → Int → Prop) ∧
      Measures [100, 200, 300, 400, 500, 600] 410 3 ∧
      closest [100, 200, 300, 400, 500, 600] 410 3 = 2 ∧
      ∀ picked : Finset (Fin 6), picked.card = 3 →
        210 ≤ ∑ i ∈ picked, ([100, 200, 300, 400, 500, 600][i] - 410 : Int).natAbs := by
  have ordered : [100, 200, 300, 400, 500, 600].Pairwise (· ≤ · : Int → Int → Prop) := by decide
  have hmeasures : Measures [100, 200, 300, 400, 500, 600] 410 3 := by decide
  have hclosest : closest [100, 200, 300, 400, 500, 600] 410 3 = 2 := by decide
  refine ⟨ordered, hmeasures, hclosest, fun picked hcard => ?_⟩
  have hleast := (closest_least ordered (by decide) hmeasures).2.1 picked hcard
  rwa [hclosest] at hleast

end Closest

end Window
end PriceOracle
