import PriceOracle.Dispute.Evidence

/-!
# PriceOracle.Proofs.Dispute.Slot

What a pass over logs makes of the slots of a round. Each log counts for the first open slot of its
miner, so the slots of a miner get the miner's logs in their order.

* `pass_cons_of_open`: a slot takes the first log of its miner, and the rest is for the others.
* `getElem?_pass`: a slot that is preceded by `n` slots of its miner takes the miner's log number
  `n`, counted from zero, if there is one.
* `missing_pass_eq_zero_iff`: all slots are filled when every miner has as many logs as slots.
-/

namespace PriceOracle
namespace Dispute

open Chain

/-- Is the log about a solution of the miner? -/
def isBy (miner : Address) (log : Log) : Bool :=
  match solverOf log with
  | .ok solver => solver = miner
  | .error _ => false

def timeOf (times : Nat → Nat) (log : Log) : Int := Calendar.signed64 (times log.block)

/-- Let a log count. -/
def settle (times : Nat → Nat) (slots : List Slot) (log : Log) : List Slot :=
  match solverOf log with
  | .ok miner => Slot.fill miner (timeOf times log) slots
  | .error _ => slots

/-- Let logs count one after another. -/
def pass (times : Nat → Nat) (logs : List Log) (slots : List Slot) : List Slot :=
  logs.foldl (settle times) slots

variable {times : Nat → Nat} {log : Log} {logs : List Log} {s : Slot} {slots : List Slot}
  {m m' : Address}

theorem pass_append (newer older : List Log) (slots : List Slot) :
    pass times (newer ++ older) slots = pass times older (pass times newer slots) :=
  List.foldl_append

theorem settle_nil (log : Log) : settle times [] log = [] := by
  unfold settle
  split <;> rfl

theorem settle_cons_of_isBy (hs : s.time = none) (hlog : isBy s.miner log = true) :
    settle times (s :: slots) log = { s with time := some (timeOf times log) } :: slots := by
  unfold isBy at hlog
  split at hlog
  · next solver hsolver =>
    rw [decide_eq_true_iff] at hlog
    subst hlog
    simp [settle, hsolver, Slot.fill, Slot.awaits, hs]
  · cases hlog

/-- A log of another miner, or one for a slot that is not open any more, is for a later slot. -/
theorem settle_cons_of_not (h : s.time ≠ none ∨ isBy s.miner log = false) :
    settle times (s :: slots) log = s :: settle times slots log := by
  unfold isBy at h
  unfold settle
  split
  · next solver hsolver =>
    have hawaits : s.awaits solver = false := by
      simp only [hsolver, decide_eq_false_iff_not] at h
      simp only [Slot.awaits, Bool.and_eq_false_iff, decide_eq_false_iff_not]
      obtain htime | hminer := h
      · cases ht : s.time with
        | none => exact absurd ht htime
        | some _ => exact .inr rfl
      · exact .inl fun heq => hminer heq.symm
    simp [Slot.fill, hawaits]
  · rfl

@[simp] theorem pass_nil (slots : List Slot) : pass times [] slots = slots := rfl

theorem pass_cons (log : Log) (logs : List Log) (slots : List Slot) :
    pass times (log :: logs) slots = pass times logs (settle times slots log) := rfl

theorem pass_of_no_slots (logs : List Log) : pass times logs [] = [] := by
  induction logs with
  | nil => rfl
  | cons log logs ih => rw [pass_cons, settle_nil, ih]

theorem pass_cons_of_filled (hs : s.time ≠ none) :
    pass times logs (s :: slots) = s :: pass times logs slots := by
  induction logs generalizing slots with
  | nil => rfl
  | cons log logs ih => rw [pass_cons, settle_cons_of_not (.inl hs), ih, pass_cons]

/-- An open slot takes the first log of its miner, and leaves the others to the other slots. -/
theorem pass_cons_of_open (hs : s.time = none) :
    pass times logs (s :: slots)
      = { s with time := (logs.find? (isBy s.miner)).map (timeOf times) } ::
        pass times (logs.eraseP (isBy s.miner)) slots := by
  induction logs generalizing slots with
  | nil =>
    rw [List.find?_nil, Option.map_none, ← hs]
    rfl
  | cons log logs ih =>
    rw [pass_cons, List.find?_cons, List.eraseP_cons]
    cases hlog : isBy s.miner log with
    | true =>
      rw [settle_cons_of_isBy hs hlog, pass_cons_of_filled (Option.some_ne_none _)]
      rfl
    | false =>
      rw [settle_cons_of_not (.inr hlog), ih]
      rfl

/-- Two miners have no log in common. -/
theorem isBy_unique (h : isBy m log = true) (hne : m ≠ m') : isBy m' log = false := by
  unfold isBy at h ⊢
  split at h
  · next solver hsolver =>
    rw [decide_eq_true_iff] at h
    subst h
    simpa using hne
  · cases h

theorem filter_eraseP_self (m : Address) (logs : List Log) :
    (logs.eraseP (isBy m)).filter (isBy m) = (logs.filter (isBy m)).tail := by
  induction logs with
  | nil => rfl
  | cons log logs ih =>
    cases hlog : isBy m log with
    | true => simp [hlog]
    | false => simp [hlog, ih]

theorem filter_eraseP_of_ne (hne : m ≠ m') (logs : List Log) :
    (logs.eraseP (isBy m)).filter (isBy m') = logs.filter (isBy m') := by
  induction logs with
  | nil => rfl
  | cons log logs ih =>
    cases hlog : isBy m log with
    | true => simp [hlog, isBy_unique hlog hne]
    | false => simp [hlog, List.filter_cons, ih]

/-- How many of the first slots are the miner's. -/
def rank (slots : List Slot) (p : Nat) (miner : Address) : Nat :=
  (slots.take p).countP (·.miner = miner)

/-- Each slot takes the log of its miner that comes when it is its turn. -/
theorem getElem?_pass (times : Nat → Nat) (logs : List Log) (hopen : ∀ s ∈ slots, s.time = none)
    {p : Nat} (hp : slots[p]? = some s) :
    (pass times logs slots)[p]? = some { s with
      time := (logs.filter (isBy s.miner))[rank slots p s.miner]?.map (timeOf times) } := by
  induction slots generalizing logs p with
  | nil => cases hp
  | cons t slots ih =>
    rw [pass_cons_of_open (hopen t List.mem_cons_self)]
    cases p with
    | zero =>
      cases hp
      rw [List.getElem?_cons_zero, ← List.head?_filter, List.head?_eq_getElem?]
      rfl
    | succ p =>
      rw [List.getElem?_cons_succ, ih _ (fun s hs => hopen s (List.mem_cons_of_mem t hs)) hp]
      have hrank : rank (t :: slots) (p + 1) s.miner
          = rank slots p s.miner + if t.miner = s.miner then 1 else 0 := by
        simp [rank, List.countP_cons]
      rw [hrank]
      by_cases hm : t.miner = s.miner
      · rw [hm, filter_eraseP_self, if_pos rfl, List.getElem?_tail]
      · rw [filter_eraseP_of_ne hm, if_neg hm, Nat.add_zero]

theorem length_pass (logs : List Log) (slots : List Slot) :
    (pass times logs slots).length = slots.length := by
  induction slots generalizing logs with
  | nil => rw [pass_of_no_slots]
  | cons s slots ih =>
    cases hs : s.time with
    | none => rw [pass_cons_of_open hs, List.length_cons, ih, List.length_cons]
    | some _ =>
      rw [pass_cons_of_filled (hs ▸ Option.some_ne_none _), List.length_cons, ih, List.length_cons]

theorem missing_eq_zero : Slot.missing slots = 0 ↔ ∀ s ∈ slots, s.time ≠ none := by
  simp [Slot.missing, List.countP_eq_zero, Option.isNone_iff_eq_none]

theorem pass_of_missing_eq_zero (h : Slot.missing slots = 0) (logs : List Log) :
    pass times logs slots = slots := by
  rw [missing_eq_zero] at h
  induction slots with
  | nil => exact pass_of_no_slots logs
  | cons s slots ih =>
    rw [pass_cons_of_filled (h s List.mem_cons_self),
      ih fun t ht => h t (List.mem_cons_of_mem s ht)]

theorem rank_lt_countP {p : Nat} (hp : slots[p]? = some s) :
    rank slots p s.miner < slots.countP (·.miner = s.miner) := by
  obtain ⟨hlt, rfl⟩ := List.getElem?_eq_some_iff.1 hp
  have hsplit : slots.countP (fun t => decide (t.miner = slots[p].miner))
      = rank slots p slots[p].miner
        + (slots.drop p).countP (fun t => decide (t.miner = slots[p].miner)) := by
    rw [rank, ← List.countP_append, List.take_append_drop]
  rw [hsplit, List.drop_eq_getElem_cons hlt, List.countP_cons_of_pos (by simp)]
  omega

/-- The last slot of a miner has all the others of the miner before it. -/
theorem exists_last_rank {miner : Address} (h : 0 < slots.countP (·.miner = miner)) :
    ∃ p s, slots[p]? = some s ∧ s.miner = miner ∧
      rank slots p miner + 1 = slots.countP (·.miner = miner) := by
  induction slots with
  | nil => cases h
  | cons t slots ih =>
    by_cases hrest : 0 < slots.countP (·.miner = miner)
    · obtain ⟨p, s, hp, hs, hrank⟩ := ih hrest
      refine ⟨p + 1, s, hp, hs, ?_⟩
      simp only [rank, List.take_succ_cons, List.countP_cons] at hrank ⊢
      omega
    · have ht : t.miner = miner := by
        simp only [List.countP_cons] at h
        split at h
        · next hd => simpa using hd
        · omega
      refine ⟨0, t, rfl, ht, ?_⟩
      simp only [rank, List.take_zero, List.countP_nil, List.countP_cons, ht, decide_true, if_true]
      omega

/-- All slots are filled when every miner has as many logs as slots, and then only. -/
theorem missing_pass_eq_zero_iff (times : Nat → Nat) (logs : List Log)
    (hopen : ∀ s ∈ slots, s.time = none) :
    Slot.missing (pass times logs slots) = 0 ↔
      ∀ miner, slots.countP (·.miner = miner) ≤ (logs.filter (isBy miner)).length := by
  rw [missing_eq_zero]
  constructor
  · intro hfilled miner
    by_cases hpos : 0 < slots.countP (·.miner = miner)
    · obtain ⟨p, s, hp, rfl, hrank⟩ := exists_last_rank hpos
      have hset := getElem?_pass times logs hopen hp
      have htime := hfilled _ (List.mem_of_getElem? hset)
      simp only [ne_eq, Option.map_eq_none_iff, List.getElem?_eq_none_iff, Nat.not_le] at htime
      omega
    · omega
  · intro henough s' hs'
    obtain ⟨p, hp'⟩ := List.getElem?_of_mem hs'
    have hlt : p < slots.length := by
      have := (List.getElem?_eq_some_iff.1 hp').1
      rwa [length_pass] at this
    have hp := List.getElem?_eq_getElem hlt
    have hset := getElem?_pass times logs hopen hp
    rw [hp'] at hset
    cases hset
    have := rank_lt_countP hp
    have := henough slots[p].miner
    simp only [ne_eq, Option.map_eq_none_iff, List.getElem?_eq_none_iff, Nat.not_le]
    omega

end Dispute
end PriceOracle
