import PriceOracle.Chain.Ledger

/-!
# PriceOracle.Proofs.Chain.Ledger

The logs of the chain in memory come by block, and a range of blocks has the same logs in the same
order as all blocks together (`logsIn_eq_filter`), because the sort is stable (`mergeSort_filter`).
-/

namespace PriceOracle
namespace Chain
namespace Ledger

section Sorting

variable {α : Type}

theorem split_unique {q : α → Bool} {xs ys xs' ys' : List α} (h : xs ++ ys = xs' ++ ys')
    (hx : ∀ x ∈ xs, q x = true) (hy : ∀ y ∈ ys, q y = false) (hx' : ∀ x ∈ xs', q x = true)
    (hy' : ∀ y ∈ ys', q y = false) : xs = xs' ∧ ys = ys' := by
  have first : ∀ {xs ys : List α}, (∀ x ∈ xs, q x = true) → (∀ y ∈ ys, q y = false) →
      (xs ++ ys).filter q = xs := by
    intro xs ys hx hy
    have hnone : ys.filter q = [] := List.filter_eq_nil_iff.2 fun y h => by simp [hy y h]
    rw [List.filter_append, List.filter_eq_self.2 hx, hnone, List.append_nil]
  have heq : xs = xs' := by rw [← first hx hy, h, first hx' hy']
  subst heq
  exact ⟨rfl, List.append_cancel_left h⟩

variable {le : α → α → Bool}

/-- Elements that are left out do not change the order of the others. -/
theorem mergeSort_filter (trans : ∀ a b c, le a b → le b c → le a c)
    (total : ∀ a b, le a b || le b a) (p : α → Bool) (xs : List α) :
    (xs.filter p).mergeSort le = (xs.mergeSort le).filter p := by
  -- What comes after an element in a sorted list is not smaller.
  have after : ∀ (a : α) {l l₁ l₂ : List α}, l.mergeSort le = l₁ ++ a :: l₂ →
      ∀ b ∈ l₂, (!le a b) = false := by
    intro a l l₁ l₂ hl b hb
    have hsorted := List.pairwise_mergeSort trans total l
    rw [hl] at hsorted
    have hab := (List.pairwise_cons.1 (List.pairwise_append.1 hsorted).2.1).1 b hb
    simpa using hab
  induction xs with
  | nil => rw [List.filter_nil, List.mergeSort_nil, List.filter_nil]
  | cons a xs ih =>
    obtain ⟨l₁, l₂, hl, hxs, hsmall⟩ := List.mergeSort_cons trans total a xs
    rw [hxs, List.filter_append] at ih
    cases hp : p a with
    | false =>
      have hp' : ¬p a = true := Bool.eq_false_iff.1 hp
      rw [List.filter_cons_of_neg hp', hl, ih, List.filter_append, List.filter_cons_of_neg hp']
    | true =>
      obtain ⟨r₁, r₂, hr, hfilter, hsmall'⟩ := List.mergeSort_cons trans total a (xs.filter p)
      obtain ⟨rfl, rfl⟩ := split_unique (hfilter.symm.trans ih) hsmall' (after a hr)
        (fun b hb => hsmall b (List.mem_filter.1 hb).1)
        (fun b hb => after a hl b (List.mem_filter.1 hb).1)
      rw [List.filter_cons_of_pos hp, hr, hl, List.filter_append, List.filter_cons_of_pos hp]

end Sorting

variable (l : Ledger) (event : Event)

theorem blocks_trans (a b c : Log) (hab : decide (a.block ≤ b.block) = true)
    (hbc : decide (b.block ≤ c.block) = true) : decide (a.block ≤ c.block) = true :=
  decide_eq_true (Nat.le_trans (of_decide_eq_true hab) (of_decide_eq_true hbc))

theorem blocks_total (a b : Log) : (decide (a.block ≤ b.block) || decide (b.block ≤ a.block)) := by
  simpa using Nat.le_total a.block b.block

/-- The logs of an event come by block. -/
theorem logsIn_ascending (first : Nat) (last : Option Nat) :
    (l.logsIn event first last).Pairwise (·.block ≤ ·.block) := by
  have hsorted := List.pairwise_mergeSort blocks_trans blocks_total
  exact (hsorted _).imp of_decide_eq_true

theorem mem_logsIn {log : Log} :
    log ∈ l.logsIn event 0 none ↔ (event, log) ∈ l.logs := by
  simp [logsIn, List.mem_mergeSort]

/-- A range of blocks has the logs of all blocks that are in the range. -/
theorem logsIn_eq_filter (low high : Nat) :
    l.logsIn event low (some high)
      = (l.logsIn event 0 none).filter fun log => low ≤ log.block ∧ log.block ≤ high := by
  rw [logsIn, logsIn, ← mergeSort_filter blocks_trans blocks_total, List.filter_filterMap]
  refine congrArg (List.mergeSort · _) (congrArg (List.filterMap · _) (funext fun (e, log) => ?_))
  by_cases he : e = event <;> simp [he, Option.filter]

end Ledger
end Chain
end PriceOracle
