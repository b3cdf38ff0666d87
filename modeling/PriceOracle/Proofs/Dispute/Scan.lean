import PriceOracle.Proofs.Dispute.Slot
import PriceOracle.Proofs.Node

/-!
# PriceOracle.Proofs.Dispute.Scan

The search for the solutions of a round, window by window. `Serves` says what a chain has to know
for it, whatever the chain is.

* `newest_split`: the logs up to a block are those of the last window and those before it.
* `fillFrom_yields`: in a window, logs count as in a pass.
* `scan_yields`: the search makes the same of the slots as one pass over all logs, the newest first,
  and looks into windows that `Descends` describes.
-/

namespace PriceOracle
namespace Dispute

open Node Node.Action Chain
open Program (Exchange Answerer)

variable {σ : Type} {answer : Answerer Reply σ}

/-! ## Windows -/

/-- The window in which logs of solutions are looked for. -/
def window? (x : Exchange Reply) : Option (Nat × Nat) :=
  match x.op with
  | .chain (.query (.logs .nonceSubmitted low (some high))) => some (low, high)
  | _ => none

/-- An action ends with a result, after it has looked into some windows. -/
structure Yields {α : Type} (answer : Answerer Reply σ) (a : Action α) (s : σ)
    (result : Except Failure α) (s' : σ) (windows : List (Nat × Nat)) : Prop where
  run : a.outcome.run answer s = (result, s')
  windows : (a.outcome.transcript answer s).filterMap window? = windows

section Yields

variable {α β : Type} {s s' s'' : σ}

theorem yields_pure (x : α) : Yields answer (pure x) s (.ok x) s [] := ⟨rfl, rfl⟩

theorem yields_throw (e : Failure) : Yields answer (throw e : Action α) s (.error e) s [] :=
  ⟨rfl, rfl⟩

theorem Yields.bind {a : Action α} {f : α → Action β} {x : α} {r : Except Failure β}
    {u v : List (Nat × Nat)} (ha : Yields answer a s (.ok x) s' u)
    (hf : Yields answer (f x) s' r s'' v) : Yields answer (a >>= f) s r s'' (u ++ v) := by
  constructor
  · rw [run_andThen, ha.run]
    exact hf.run
  · rw [transcript_andThen, ha.run, List.filterMap_append, ha.windows]
    exact congrArg (u ++ ·) hf.windows

theorem Yields.map {a : Action α} (g : α → β) {r : Except Failure α} {u : List (Nat × Nat)}
    (ha : Yields answer a s r s' u) :
    Yields answer (a >>= fun x => pure (g x)) s (r.map g) s' u := by
  constructor
  · rw [run_andThen, ha.run]
    cases r <;> rfl
  · rw [transcript_andThen, ha.run, List.filterMap_append, ha.windows]
    cases r <;> exact List.append_nil u

end Yields

/-- A query is answered so whenever the chain is good, which it stays. -/
def Answers (answer : Answerer Reply σ) (good : σ → Prop) (q : Query) (x : q.Answer) : Prop :=
  ∀ s, good s → (answer (.chain (.query q)) s).1 = .ok x ∧ good (answer (.chain (.query q)) s).2

theorem Answers.yields {good : σ → Prop} {q : Query} {x : q.Answer}
    (h : Answers answer good q x) {s : σ} (hs : good s) :
    ∃ s', good s' ∧
      Yields answer (query q) s (.ok x) s' (window? ⟨.chain (.query q), .ok x⟩).toList := by
  obtain ⟨hx, hgood⟩ := h s hs
  refine ⟨_, hgood, ?_, ?_⟩
  · rw [outcome_query, Program.run_ask, Program.run_done, hx]
    rfl
  · rw [outcome_query, Program.transcript, Program.transcript, hx]
    cases h : window? ⟨.chain (.query q), .ok x⟩ with
    | none => exact List.filterMap_cons_none h
    | some w => exact List.filterMap_cons_some h

def within (logs : List Log) (low high : Nat) : List Log :=
  logs.filter fun log => low ≤ log.block ∧ log.block ≤ high

/-- What a chain knows about the solutions of a round. -/
structure Known where
  /-- The logs of all solutions, by block. -/
  logs : List Log
  times : Nat → Nat
  values : Vector Word reporters
  miners : Vector Address reporters

/-- The chain tells what it knows, and its logs make sense. -/
structure Serves (answer : Answerer Reply σ) (good : σ → Prop) (requestId timestamp : Word)
    (known : Known) : Prop where
  ascending : known.logs.Pairwise (·.block ≤ ·.block)
  solver : ∀ log ∈ known.logs, ∃ miner, solverOf log = .ok miner
  window : ∀ low high, Answers answer good (.logs .nonceSubmitted low (some high))
    (within known.logs low high)
  time : ∀ log ∈ known.logs, Answers answer good (.blockTime log.block) (known.times log.block)
  values : Answers answer good (.values requestId timestamp) known.values
  miners : Answers answer good (.miners requestId timestamp) known.miners

/-- The logs up to a block, the newest first. -/
def newest (logs : List Log) (high : Nat) : List Log :=
  (logs.filter fun log => log.block ≤ high).reverse

def before (logs : List Log) (low : Nat) : List Log :=
  (logs.filter fun log => log.block < low).reverse

theorem before_zero (logs : List Log) : before logs 0 = [] := by
  simp [before]

theorem before_of_pos (logs : List Log) {low : Nat} (h : 0 < low) :
    before logs low = newest logs (low - 1) := by
  refine congrArg List.reverse (List.filter_congr fun log _ => decide_eq_decide.2 ?_)
  omega

/-- The logs up to a block are those of the last window, and those before it. -/
theorem newest_split {logs : List Log} (ascending : logs.Pairwise (·.block ≤ ·.block))
    {low high : Nat} (hle : low ≤ high) :
    newest logs high = (within logs low high).reverse ++ before logs low := by
  rw [newest, before, ← List.reverse_append]
  refine congrArg List.reverse ?_
  induction logs with
  | nil => rfl
  | cons log logs ih =>
    obtain ⟨hlog, hlogs⟩ := List.pairwise_cons.1 ascending
    by_cases hold : log.block < low
    · have hhigh : log.block ≤ high := by omega
      have hnot : ¬(low ≤ log.block ∧ log.block ≤ high) := by omega
      simp only [within, List.filter_cons, decide_eq_true_eq]
      rw [if_pos hhigh, if_pos hold, if_neg hnot, List.cons_append]
      exact congrArg (log :: ·) (ih hlogs)
    · have hge : ∀ other ∈ log :: logs, low ≤ other.block := by
        intro other hother
        obtain rfl | hother := List.mem_cons.1 hother
        · omega
        · have := hlog other hother
          omega
      have hnone : (log :: logs).filter (fun log => log.block < low) = [] := by
        refine List.filter_eq_nil_iff.2 fun other hother => ?_
        have := hge other hother
        rw [decide_eq_true_eq]
        omega
      rw [hnone, List.nil_append]
      refine List.filter_congr fun other hother => decide_eq_decide.2 ?_
      exact ⟨fun h => ⟨hge other hother, h⟩, And.right⟩

/-! ## The search -/

theorem fill_of_none {miner : Address} {slots : List Slot} (time : Int)
    (h : slots.any (·.awaits miner) = false) : Slot.fill miner time slots = slots := by
  induction slots with
  | nil => rfl
  | cons s slots ih =>
    obtain ⟨hs, hslots⟩ := Bool.or_eq_false_iff.1 h
    rw [Slot.fill, if_neg (Bool.eq_false_iff.1 hs), ih hslots]

section Search

variable {good : σ → Prop} {requestId timestamp : Word} {known : Known}

theorem blockTime_yields (serves : Serves answer good requestId timestamp known) {log : Log}
    (hlog : log ∈ known.logs) {s : σ} (hs : good s) :
    ∃ s', good s' ∧
      Yields answer (blockTime log.block) s (.ok (timeOf known.times log)) s' [] := by
  obtain ⟨s', hs', htime⟩ := (serves.time log hlog).yields hs
  exact ⟨s', hs', htime.bind (yields_pure _)⟩

/-- Logs count as in a pass, and no window is looked into for them. -/
theorem fillFrom_yields (serves : Serves answer good requestId timestamp known) {logs : List Log}
    (hlogs : ∀ log ∈ logs, log ∈ known.logs) (slots : List Slot) {s : σ} (hs : good s) :
    ∃ s', good s' ∧
      Yields answer (fillFrom logs slots) s (.ok (pass known.times logs slots)) s' [] := by
  induction logs generalizing slots s with
  | nil => exact ⟨s, hs, yields_pure slots⟩
  | cons log logs ih =>
    have hlog := hlogs log List.mem_cons_self
    have hrest : ∀ log ∈ logs, log ∈ known.logs := fun l hl => hlogs l (List.mem_cons_of_mem _ hl)
    obtain ⟨miner, hminer⟩ := serves.solver log hlog
    have hsettle : settle known.times slots log
        = Slot.fill miner (timeOf known.times log) slots := by
      rw [settle, hminer]
    rw [pass_cons, hsettle, fillFrom, hminer]
    by_cases hany : slots.any (·.awaits miner) = true
    · obtain ⟨s₁, hs₁, htime⟩ := blockTime_yields serves hlog hs
      obtain ⟨s₂, hs₂, hfill⟩ := ih hrest (Slot.fill miner (timeOf known.times log) slots) hs₁
      refine ⟨s₂, hs₂, (yields_pure miner).bind ?_⟩
      rw [if_pos hany]
      exact htime.bind hfill
    · obtain ⟨s₁, hs₁, hfill⟩ := ih hrest slots hs
      refine ⟨s₁, hs₁, (yields_pure miner).bind ?_⟩
      rw [if_neg hany, fill_of_none _ (Bool.eq_false_iff.2 hany)]
      exact hfill

/-- What comes of the slots when all logs have been looked through. -/
def verdict (slots : List Slot) : Except Failure (List Slot) :=
  if Slot.missing slots = 0 then .ok slots
  else .error (.nonsense (.unresolved (Slot.missing slots)))

theorem map_verdict_eq_ok {α : Type} {slots : List Slot} {f : List Slot → α} {x : α} :
    (verdict slots).map f = .ok x ↔ Slot.missing slots = 0 ∧ f slots = x := by
  unfold verdict
  split
  · next h => simp [h, Except.map]
  · next h => simp [h, Except.map]

/-- Windows that go down from a block, each as wide as it can be. -/
inductive Descends : Nat → List (Nat × Nat) → Prop where
  | last (high : Nat) : Descends high [(high - (windowWidth - 1), high)]
  | more {high : Nat} {windows : List (Nat × Nat)} :
      0 < high - (windowWidth - 1) → Descends (high - (windowWidth - 1) - 1) windows →
      Descends high ((high - (windowWidth - 1), high) :: windows)

/-- The search makes the same of the slots as one pass over all logs, the newest first. When that
leaves a slot open, the last window has started at the first block. -/
theorem scan_yields (serves : Serves answer good requestId timestamp known) (high : Nat)
    (slots : List Slot) {s : σ} (hs : good s) :
    ∃ s' windows, Descends high windows ∧
      Yields answer (scan high slots) s
        (verdict (pass known.times (newest known.logs high) slots)) s' windows ∧
      (Slot.missing (pass known.times (newest known.logs high) slots) ≠ 0 →
        ∃ top, windows.getLast? = some (0, top)) := by
  induction high using Nat.strongRecOn generalizing slots s with
  | ind high ih =>
    have hle : high - (windowWidth - 1) ≤ high := Nat.sub_le _ _
    rw [newest_split serves.ascending hle, pass_append]
    generalize hlow : high - (windowWidth - 1) = low at hle
    obtain ⟨s₁, hs₁, hlogs⟩ := (serves.window low high).yields hs
    have hmem : ∀ log ∈ (within known.logs low high).reverse, log ∈ known.logs :=
      fun log hlog => (List.mem_filter.1 (List.mem_reverse.1 hlog)).1
    obtain ⟨s₂, hs₂, hfill⟩ := fillFrom_yields serves hmem slots hs₁
    generalize pass known.times (within known.logs low high).reverse slots = filled at hfill ⊢
    rw [scan, hlow]
    by_cases hmissing : Slot.missing filled = 0
    · refine ⟨s₂, [(low, high)], hlow ▸ .last high, ?_, ?_⟩
      · rw [pass_of_missing_eq_zero hmissing, verdict, if_pos hmissing]
        refine hlogs.bind (hfill.bind (v := []) ?_)
        rw [if_pos hmissing]
        exact yields_pure filled
      · rw [pass_of_missing_eq_zero hmissing]
        exact fun h => absurd hmissing h
    · by_cases hzero : low = 0
      · subst hzero
        refine ⟨s₂, [(0, high)], hlow ▸ .last high, ?_, fun _ => ⟨high, rfl⟩⟩
        rw [before_zero, pass_nil, verdict, if_neg hmissing]
        refine hlogs.bind (hfill.bind (v := []) ?_)
        rw [if_neg hmissing, if_pos rfl]
        exact yields_throw _
      · have hpos : 0 < low := Nat.pos_of_ne_zero hzero
        rw [before_of_pos known.logs hpos]
        obtain ⟨s₃, windows, hdescends, hscan, hlast⟩ := ih (low - 1) (by omega) filled hs₂
        refine ⟨s₃, (low, high) :: windows, ?_, ?_, ?_⟩
        · subst hlow
          exact .more hpos hdescends
        · refine hlogs.bind (hfill.bind ?_)
          rw [if_neg hmissing, if_neg hzero]
          exact hscan
        · intro hopen
          obtain ⟨top, htop⟩ := hlast hopen
          refine ⟨top, ?_⟩
          rw [List.getLast?_cons, htop]
          rfl

end Search

end Dispute
end PriceOracle
