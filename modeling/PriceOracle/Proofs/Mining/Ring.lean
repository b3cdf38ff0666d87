import Mathlib.Algebra.Ring.Nat
import Mathlib.Data.List.Nodup
import Mathlib.Data.List.Perm.Subperm
import PriceOracle.Mining.Worker
import PriceOracle.Proofs.Store.Quantity

/-!
# PriceOracle.Proofs.Mining.Ring

The slots for costs, filled around. Each crew begins with the first slot, whatever is in the slots
already. `inSlot` is what one crew leaves in a slot, and `origin` tells how many submissions ago the
one was whose cost is there, when several crews have worked one after another.

* `inSlot_eq`: one crew fills the slots as a ring.
* `covers_iff`: the slots hold the latest submissions just when no crew has begun in the midst of
  them.
* `remembers_of_unbroken`, `unbroken_of_remembers`: the same for the costs themselves.
-/

namespace PriceOracle
namespace Mining

/-- The record in a slot after some costs, the latest first, when a crew found `before` there. -/
def inSlot (before : Option Bytes) (slot : Nat) : List Word → Option Bytes
  | [] => before
  | cost :: earlier =>
    if earlier.length % Key.gasCostSlots = slot then some (Quantity.encode cost)
    else inSlot before slot earlier

theorem inSlot_eq {slot : Nat} (hslot : slot < Key.gasCostSlots) (before : Option Bytes)
    (costs : List Word) :
    inSlot before slot costs
      = if slot < costs.length then
          costs[(costs.length - 1 - slot) % Key.gasCostSlots]?.map Quantity.encode
        else before := by
  induction costs with
  | nil => rfl
  | cons cost earlier ih =>
    rw [inSlot, List.length_cons]
    by_cases hturn : earlier.length % Key.gasCostSlots = slot
    · have hlatest : (earlier.length + 1 - 1 - slot) % Key.gasCostSlots = 0 := by
        simp only [Key.gasCostSlots] at hturn ⊢
        omega
      have hle := Nat.mod_le earlier.length Key.gasCostSlots
      rw [if_pos hturn, if_pos (by omega), hlatest]
      rfl
    · rw [if_neg hturn, ih]
      simp only [Key.gasCostSlots] at hslot hturn ⊢
      by_cases hlt : slot < earlier.length
      · have hnext : (earlier.length + 1 - 1 - slot) % 6 = (earlier.length - 1 - slot) % 6 + 1 := by
          omega
        rw [if_pos hlt, if_pos (by omega), hnext, List.getElem?_cons_succ]
      · rw [if_neg hlt, if_neg (by omega)]

/-- How many submissions ago the one was whose cost is in a slot. `counts` are the numbers of
submissions of the crews, the latest first. -/
def origin (slot : Nat) : List Nat → Option Nat
  | [] => none
  | count :: earlier =>
    if slot < count then some ((count - 1 - slot) % Key.gasCostSlots)
    else (origin slot earlier).map (count + ·)

/-- Of the crews with any submission, the latest one has filled all slots, or it is the only one, or
the one before it ended with the last slot. -/
def Unbroken (counts : List Nat) : Prop :=
  match counts.filter (0 < ·) with
  | count :: before :: _ => Key.gasCostSlots ≤ count ∨ before % Key.gasCostSlots = 0
  | _ => True

section Origin

variable {slot age : Nat} {counts : List Nat}

theorem origin_filter (slot : Nat) (counts : List Nat) :
    origin slot (counts.filter (0 < ·)) = origin slot counts := by
  induction counts with
  | nil => rfl
  | cons count earlier ih =>
    by_cases hpos : 0 < count
    · rw [List.filter_cons_of_pos (by simpa using hpos), origin, origin, ih]
    · obtain rfl : count = 0 := by omega
      rw [List.filter_cons_of_neg (by simp), origin, if_neg (Nat.not_lt_zero _), ih]
      simp

theorem sum_filter_pos (counts : List Nat) : (counts.filter (0 < ·)).sum = counts.sum := by
  induction counts with
  | nil => rfl
  | cons count earlier ih =>
    by_cases hpos : 0 < count
    · rw [List.filter_cons_of_pos (by simpa using hpos), List.sum_cons, ih, List.sum_cons]
    · rw [List.filter_cons_of_neg (by simpa using hpos), ih, List.sum_cons]
      omega

theorem origin_lt (h : origin slot counts = some age) : age < counts.sum := by
  induction counts generalizing age with
  | nil => cases h
  | cons count earlier ih =>
    rw [List.sum_cons]
    rw [origin] at h
    split at h
    · cases h
      have hle := Nat.mod_le (count - 1 - slot) Key.gasCostSlots
      omega
    · obtain ⟨age', hage, rfl⟩ := Option.map_eq_some_iff.1 h
      have hlt := ih hage
      omega

/-- Different slots hold different submissions. -/
theorem origin_inj {slot' : Nat} (hslot : slot < Key.gasCostSlots)
    (hslot' : slot' < Key.gasCostSlots) (h : origin slot counts = some age)
    (h' : origin slot' counts = some age) : slot = slot' := by
  induction counts generalizing age with
  | nil => cases h
  | cons count earlier ih =>
    rw [origin] at h h'
    simp only [Key.gasCostSlots] at hslot hslot' h h'
    split at h <;> split at h'
    · cases h
      have heq := Option.some.inj h'
      omega
    · cases h
      obtain ⟨age', -, heq⟩ := Option.map_eq_some_iff.1 h'
      omega
    · cases h'
      obtain ⟨age', -, heq⟩ := Option.map_eq_some_iff.1 h
      omega
    · obtain ⟨a, ha, rfl⟩ := Option.map_eq_some_iff.1 h
      obtain ⟨b, hb, heq⟩ := Option.map_eq_some_iff.1 h'
      obtain rfl : b = a := by omega
      exact ih ha hb

/-- Each of the latest submissions is in a slot. -/
def Covers (counts : List Nat) : Prop :=
  ∀ age < min Key.gasCostSlots counts.sum, ∃ slot < Key.gasCostSlots,
    origin slot counts = some age

theorem covers_single {count : Nat} (earlier : List Nat) {age : Nat} (hage : age < Key.gasCostSlots)
    (hlt : age < count) :
    ∃ slot < Key.gasCostSlots, origin slot (count :: earlier) = some age := by
  simp only [Key.gasCostSlots] at hage ⊢
  refine ⟨(count - 1 - age) % 6, by omega, ?_⟩
  rw [origin, if_pos (by omega)]
  simp only [Key.gasCostSlots, Option.some.injEq]
  omega

theorem covers_of_round {count before : Nat} (earlier : List Nat)
    (hcount : count < Key.gasCostSlots) (hpos : 0 < before)
    (hround : before % Key.gasCostSlots = 0) :
    Covers (count :: before :: earlier) := by
  intro age hage
  simp only [Key.gasCostSlots] at hcount hround hage
  by_cases hlt : age < count
  · exact covers_single _ (by simp only [Key.gasCostSlots]; omega) hlt
  · refine ⟨5 - (age - count), by simp only [Key.gasCostSlots]; omega, ?_⟩
    rw [origin, if_neg (by omega), origin, if_pos (by omega)]
    simp only [Key.gasCostSlots, Option.map_some, Option.some.injEq]
    omega

/-- A crew that begins in the midst of the ring writes over one of the latest submissions. -/
theorem not_covers {count before : Nat} (earlier : List Nat) (hpos : 0 < count)
    (hcount : count < Key.gasCostSlots) (hround : before % Key.gasCostSlots ≠ 0) :
    ¬Covers (count :: before :: earlier) := by
  intro hcovers
  simp only [Key.gasCostSlots] at hcount hround
  -- the submission that was lost
  obtain ⟨slot, hslot, horigin⟩ := hcovers (count + min (before % 6 - 1) (5 - count)) (by
    simp only [Key.gasCostSlots, List.sum_cons]
    omega)
  simp only [Key.gasCostSlots] at hslot
  rw [origin] at horigin
  split at horigin
  · have heq := Option.some.inj horigin
    simp only [Key.gasCostSlots] at heq
    omega
  · obtain ⟨age, hage, heq⟩ := Option.map_eq_some_iff.1 horigin
    rw [origin] at hage
    split at hage
    · have hbefore := Option.some.inj hage
      simp only [Key.gasCostSlots] at hbefore
      omega
    · obtain ⟨age', -, hold⟩ := Option.map_eq_some_iff.1 hage
      omega

theorem covers_iff (counts : List Nat) : Covers counts ↔ Unbroken counts := by
  have hfilter : Covers counts ↔ Covers (counts.filter (0 < ·)) := by
    simp only [Covers, sum_filter_pos, origin_filter]
  have hall : ∀ count ∈ counts.filter (0 < ·), 0 < count := fun count hc => by
    simpa using (List.mem_filter.1 hc).2
  rw [hfilter, Unbroken]
  generalize counts.filter (0 < ·) = worked at hall
  match worked, hall with
  | [], _ => exact iff_of_true (fun age hage => by simp at hage) trivial
  | [count], _ =>
    refine iff_of_true (fun age hage => ?_) trivial
    rw [List.sum_singleton] at hage
    exact covers_single [] (by omega) (by omega)
  | count :: before :: earlier, hall =>
    have hpos := hall count List.mem_cons_self
    have hbefore := hall before (List.mem_cons_of_mem _ List.mem_cons_self)
    constructor
    · intro hcovers
      by_cases hcount : count < Key.gasCostSlots
      · refine .inr (Decidable.byContradiction fun hround => ?_)
        exact not_covers earlier hpos hcount hround hcovers
      · exact .inl (Nat.not_lt.1 hcount)
    · intro hunbroken
      by_cases hcount : count < Key.gasCostSlots
      · refine covers_of_round earlier hcount hbefore ?_
        exact hunbroken.resolve_left (Nat.not_le.2 hcount)
      · exact fun age hage => covers_single _ (by omega) (by omega)

/-- The submissions whose costs are in the slots are the latest ones, each once. -/
theorem origins_perm (h : Unbroken counts) :
    ((List.range Key.gasCostSlots).filterMap (origin · counts)).Perm
      (List.range (min Key.gasCostSlots counts.sum)) := by
  have hcovers := (covers_iff counts).2 h
  have nodup : ((List.range Key.gasCostSlots).filterMap (origin · counts)).Nodup := by
    rw [List.Nodup, List.pairwise_filterMap]
    refine List.nodup_range.imp_of_mem fun ha hb hne age hage age' hage' heq => hne ?_
    exact origin_inj (List.mem_range.1 ha) (List.mem_range.1 hb) hage (heq ▸ hage')
  have hall : List.range (min Key.gasCostSlots counts.sum)
      ⊆ (List.range Key.gasCostSlots).filterMap (origin · counts) := by
    intro age hage
    obtain ⟨slot, hslot, horigin⟩ := hcovers age (List.mem_range.1 hage)
    exact List.mem_filterMap.2 ⟨slot, List.mem_range.2 hslot, horigin⟩
  have hold : (List.range Key.gasCostSlots).filterMap (origin · counts)
      ⊆ List.range counts.sum := by
    intro age hage
    obtain ⟨slot, -, horigin⟩ := List.mem_filterMap.1 hage
    exact List.mem_range.2 (origin_lt horigin)
  have hlength := (List.subperm_of_subset nodup hold).length_le
  have hslots := List.length_filterMap_le (origin · counts) (List.range Key.gasCostSlots)
  rw [List.length_range] at hlength hslots
  refine ((List.subperm_of_subset List.nodup_range hall).perm_of_length_le ?_).symm
  rw [List.length_range]
  exact Nat.le_min.2 ⟨hslots, hlength⟩

end Origin

/-- The slots hold the costs of the latest submissions, each once, and nothing else. -/
def Remembers (slots : Nat → Option Bytes) (costs : List Word) : Prop :=
  ((List.range Key.gasCostSlots).filterMap slots).Perm
    ((costs.take Key.gasCostSlots).map Quantity.encode)

section Remembers

variable {slots : Nat → Option Bytes} {counts : List Nat} {costs : List Word}

theorem filterMap_range_getElem? (costs : List Word) (n : Nat) :
    (List.range n).filterMap (fun age => costs[age]?) = costs.take n := by
  induction n with
  | zero => rfl
  | succ n ih =>
    rw [List.range_succ, List.filterMap_append, ih, List.take_add_one, List.filterMap_cons,
      List.filterMap_nil]
    cases costs[n]? <;> rfl

theorem remembers_of_unbroken (hsum : counts.sum = costs.length)
    (hslots : ∀ slot < Key.gasCostSlots,
      slots slot = (origin slot counts).bind fun age => costs[age]?.map Quantity.encode)
    (h : Unbroken counts) : Remembers slots costs := by
  have hread : (List.range Key.gasCostSlots).filterMap slots
      = ((List.range Key.gasCostSlots).filterMap (origin · counts)).filterMap
          fun age => costs[age]?.map Quantity.encode := by
    rw [List.filterMap_filterMap]
    exact List.filterMap_congr fun slot hslot => hslots slot (List.mem_range.1 hslot)
  have hlatest : (List.range (min Key.gasCostSlots counts.sum)).filterMap
        (fun age => costs[age]?.map Quantity.encode)
      = (costs.take Key.gasCostSlots).map Quantity.encode := by
    rw [← List.map_filterMap, filterMap_range_getElem?, hsum, ← List.take_eq_take_min]
  rw [Remembers, hread, ← hlatest]
  exact (origins_perm h).filterMap _

/-- Costs that are told apart show which submissions the slots hold. -/
theorem unbroken_of_remembers (hsum : counts.sum = costs.length)
    (hslots : ∀ slot < Key.gasCostSlots,
      slots slot = (origin slot counts).bind fun age => costs[age]?.map Quantity.encode)
    (hnodup : costs.Nodup) (h : Remembers slots costs) : Unbroken counts := by
  refine (covers_iff counts).1 fun age hage => ?_
  have hlt : age < costs.length := by omega
  have hmem : Quantity.encode costs[age] ∈ (costs.take Key.gasCostSlots).map Quantity.encode :=
    List.mem_map_of_mem (List.mem_take_iff_getElem.2 ⟨age, by omega, rfl⟩)
  obtain ⟨slot, hslot, hfound⟩ := List.mem_filterMap.1 (h.mem_iff.2 hmem)
  rw [List.mem_range] at hslot
  rw [hslots slot hslot] at hfound
  obtain ⟨age', horigin, hcost⟩ := Option.bind_eq_some_iff.1 hfound
  obtain ⟨cost, hat, hencode⟩ := Option.map_eq_some_iff.1 hcost
  obtain ⟨hlt', rfl⟩ := List.getElem?_eq_some_iff.1 hat
  obtain rfl : age' = age := 
    hnodup.getElem_inj_iff.1 (Quantity.encode_injective hencode)
  exact ⟨slot, hslot, horigin⟩

end Remembers

end Mining
end PriceOracle
