import PriceOracle.Proofs.Mining.Attempt
import PriceOracle.Proofs.Mining.Ring
import PriceOracle.Proofs.Store.Key
import PriceOracle.Proofs.World

/-!
# PriceOracle.Proofs.Mining.Cost

The costs that a crew of one worker writes down, in a store that stays in place and into which
nobody else puts costs. `Booked` says for each phase of the worker how far it has come.

* `Filled.record`: one more cost is written, into the slot whose turn it is.
* `books_step`, `books_run`: the count and the slots agree with the history, throughout a run.
* `filled_of_run`: a worker at rest has written down every cost.
-/

namespace PriceOracle
namespace Mining

open Node Node.Action Chain
open Program (Exchange Reaches)
open Proxy (Local)

/-- The cost of a submission that was taken. -/
def Event.cost? : Event → Option Word
  | .acted _ (.submitting _ _ (.done (.ok cost))) _ => some cost
  | _ => none

/-- The costs of the submissions that were taken, the latest first. -/
def costs {σ : Type} (h : List (Moment σ)) : List Word := h.filterMap (·.event.cost?)

/-- A world in which the store stays in place and nobody but the crew writes costs. -/
def sparing {χ : Type} (answerChain : Program.Answerer Call.Answer χ) :
    Surroundings (World χ) where
  answer := World.answer answerChain
  change w w' :=
    w'.store.cell = w.store.cell ∧ ∀ slot < Key.gasCostSlots,
      w'.store.get (Key.gasCost slot) = w.store.get (Key.gasCost slot)

/-- Is the worker about to write a cost? -/
def Phase.isDue : Phase → Bool
  | .recording (.ask _ _) => true
  | _ => false

/-- Is the worker neither submitting nor writing a cost? -/
def Phase.isAtRest : Phase → Bool
  | .submitting _ _ _ | .recording _ => false
  | _ => true

/-- These costs are in the slots, on top of what was there before. -/
def Filled (before : Nat → Option Bytes) (cs : List Word) (l : Local) : Prop :=
  ∀ slot < Key.gasCostSlots, l.get (Key.gasCost slot) = .ok (inSlot (before slot) slot cs)

variable {χ : Type} {answerChain : Program.Answerer Call.Answer χ} {account : Address}
  {settings : Settings} {before : Nat → Option Bytes} {h : List (Moment (World χ))}

theorem Filled.record {cs : List Word} {l : Local} (filled : Filled before cs l)
    (cost : Word) :
    Filled before (cost :: cs)
      (l.put (Key.gasCost (cs.length % Key.gasCostSlots)) (Quantity.encode cost)).2 := by
  intro slot hslot
  obtain ⟨-, -, hget⟩ := Local.put_of_get (filled slot hslot)
    (Key.gasCost (cs.length % Key.gasCostSlots)) (Quantity.encode cost)
  simp only [hget, inSlot, Key.gasCost_eq_iff]

/-- All costs are written down, or all but the latest one, which is about to be. -/
inductive Booked (before : Nat → Option Bytes) (l : Local) : List Word → Phase → Prop where
  | paid {cs : List Word} {phase : Phase} : Filled before cs l → phase.isDue = false →
      Booked before l cs phase
  | due {cost : Word} {earlier : List Word} : Filled before earlier l →
      Booked before l (cost :: earlier) (.recording (recordCost earlier.length cost).outcome)

/-- A crew of one worker has counted its submissions and written down their costs. -/
structure Books (before : Nat → Option Bytes) (cs : List Word) (sc : Scene (World χ)) :
    Prop where
  counted : sc.crew.submissions = cs.length
  booked : ∃ phase, sc.phases = [phase] ∧ Booked before sc.world.store cs phase

/-- Before it has a cost to write, a worker only reads and talks to the chain. -/
theorem Fits.asks {log : List (Exchange Reply)} {phase : Phase} {question : Pending}
    (fits : Fits account settings log phase) (hq : phase.pending? = some question)
    (hdue : phase.isDue = false) :
    (IsReading question.op ∨ ∃ call, question.op = .chain call) ∧
      ∀ r, (question.next r).isDue = false := by
  obtain ⟨op, next, rfl, rfl⟩ | ⟨round, left, op, next, rfl, rfl⟩ |
    ⟨round, nonce, op, next, rfl, rfl⟩ | ⟨op, next, rfl, rfl⟩ := Phase.pending_cases hq
  · exact ⟨.inl (asks_look _ _ _ fits).isReading, fun _ => rfl⟩
  · obtain ⟨search, poll, -, -, hp⟩ := fits
    exact ⟨.inl (asks_readRound _ _ _ hp).isReading, fun _ => rfl⟩
  · obtain ⟨search, asks, -, -, -, ha⟩ := fits
    refine ⟨?_, fun _ => rfl⟩
    obtain hread | ⟨value, cost, -, rfl⟩ := submit_asks ha
    · exact .inl hread
    · exact .inr ⟨_, rfl⟩
  · cases hdue

theorem isDue_tryDraws (c : Crew) (round : Round) (left : Nat) (nonces : List Nonce) :
    (Worker.tryDraws c round left nonces).isDue = false := by
  unfold Worker.tryDraws
  simp only
  split
  · rfl
  · split <;> rfl

/-- What a worker does by itself adds no cost, unless its submission was taken. -/
theorem turn_cost (i : Nat) (signal : Signal) {phase : Phase} (c : Crew)
    (hq : phase.pending? = none)
    (htaken : ∀ round nonce cost, phase ≠ .submitting round nonce (.done (.ok cost))) :
    (Event.acted i phase (Worker.turn signal phase c).1).cost? = none ∧
      (Worker.turn signal phase c).2.submissions = c.submissions ∧
      (Worker.turn signal phase c).1.isDue = false := by
  match phase, hq with
  | .ready, _ =>
    refine ⟨rfl, rfl, ?_⟩
    simp only [Worker.turn]
    split <;> rfl
  | .looking (.done (.ok (some round))), _ | .looking (.done (.ok none)), _
  | .looking (.done (.error _)), _ => exact ⟨rfl, rfl, rfl⟩
  | .weighing round, _ =>
    refine ⟨rfl, rfl, ?_⟩
    simp only [Worker.turn, Worker.beginSearch]
    split
    · rfl
    · split <;> rfl
  | .searching round left, _ =>
    simp only [Worker.turn]
    split
    · exact ⟨rfl, rfl, rfl⟩
    · cases signal with
      | draws nonces => exact ⟨rfl, rfl, isDue_tryDraws c round left nonces⟩
      | go | time => exact ⟨rfl, rfl, rfl⟩
  | .polling round left (.done result), _ =>
    refine ⟨rfl, rfl, ?_⟩
    simp only [Worker.turn]
    split <;> rfl
  | .claiming round nonce, _ =>
    simp only [Worker.turn, Worker.claim]
    split <;> exact ⟨rfl, rfl, rfl⟩
  | .submitting round nonce (.done (.ok cost)), _ => exact absurd rfl (htaken round nonce cost)
  | .submitting _ _ (.done (.error _)), _ => exact ⟨rfl, rfl, rfl⟩
  | .recording (.done (.ok ())), _ | .recording (.done (.error _)), _ => exact ⟨rfl, rfl, rfl⟩
  | .resting, _ =>
    simp only [Worker.turn]
    split
    · exact ⟨rfl, rfl, rfl⟩
    · cases signal <;> exact ⟨rfl, rfl, rfl⟩
  | .gone, _ => exact ⟨rfl, rfl, rfl⟩

theorem Booked.answer {cs : List Word} {w : World χ} {log : List (Exchange Reply)}
    {phase : Phase} {question : Pending} (booked : Booked before w.store cs phase)
    (fits : Fits account settings log phase) (hq : phase.pending? = some question) :
    Booked before (World.answer answerChain question.op w).2.store cs
      (question.next (World.answer answerChain question.op w).1) := by
  cases booked with
  | paid filled hdue =>
    obtain ⟨hop, hnext⟩ := fits.asks hq hdue
    refine .paid ?_ (hnext _)
    rw [World.store_answer_of_isReading w hop]
    exact filled
  | @due cost earlier filled =>
    rw [recordCost, putWord, outcome_put] at hq
    cases hq
    exact .paid (filled.record cost) rfl

theorem Booked.filled {cs : List Word} {l : Local} {phase : Phase}
    (booked : Booked before l cs phase) (hq : phase.pending? = none) : Filled before cs l := by
  cases booked with
  | paid filled _ => exact filled
  | due _ => cases hq

theorem Booked.congr {cs : List Word} {l l' : Local} {phase : Phase}
    (booked : Booked before l cs phase)
    (h : ∀ slot < Key.gasCostSlots, l'.get (Key.gasCost slot) = l.get (Key.gasCost slot)) :
    Booked before l' cs phase := by
  have same : ∀ {cs}, Filled before cs l → Filled before cs l' :=
    fun filled slot hslot => (h slot hslot).trans (filled slot hslot)
  cases booked with
  | paid filled hdue => exact .paid (same filled) hdue
  | due filled => exact .due (same filled)

theorem costs_cons_of_none {m : Moment (World χ)} (he : m.event.cost? = none) :
    costs (m :: h) = costs h := List.filterMap_cons_none he

theorem costs_cons_of_some {m : Moment (World χ)} {cost : Word} (he : m.event.cost? = some cost) :
    costs (m :: h) = cost :: costs h := List.filterMap_cons_some he

theorem books_begin {w : World χ} (hworkers : settings.workers = 1)
    (filled : Filled before [] w.store) : Books before [] (begin account settings w) where
  counted := rfl
  booked := by
    refine ⟨.ready, ?_, .paid filled rfl⟩
    simp only [begin, Manager.new, Manager.newGroup, hworkers]
    rfl

theorem books_step {sc sc' : Scene (World χ)} {e : Event} (books : Books before (costs h) sc)
    (fit : AllFit account settings h sc) (step : Step (sparing answerChain) sc e sc') :
    Books before (costs (⟨sc.world, e⟩ :: h)) sc' := by
  obtain ⟨counted, worker, hworker, booked⟩ := books
  have alone : ∀ {i phase}, sc.phases[i]? = some phase → i = 0 ∧ phase = worker := by
    intro i phase hp
    rw [hworker, List.getElem?_singleton] at hp
    split at hp
    · next hi => exact ⟨hi, (Option.some.inj hp).symm⟩
    · cases hp
  obtain ⟨i, phase, question, hp, hq, rfl, rfl⟩ | ⟨i, phase, signal, hp, hq, rfl, rfl⟩ |
    ⟨w, ⟨-, hsame⟩, rfl, rfl⟩ | ⟨rfl, rfl⟩ := step.cases
  · obtain ⟨rfl, rfl⟩ := alone hp
    rw [costs_cons_of_none rfl]
    exact ⟨counted, question.next _, by rw [hworker]; rfl, booked.answer (fit.2 0 _ hp) hq⟩
  · obtain ⟨rfl, rfl⟩ := alone hp
    have filled := booked.filled hq
    by_cases htaken : ∃ round nonce cost, phase = .submitting round nonce (.done (.ok cost))
    · obtain ⟨round, nonce, cost, rfl⟩ := htaken
      rw [costs_cons_of_some rfl]
      refine ⟨congrArg (· + 1) counted, _, by rw [hworker]; rfl, ?_⟩
      have due : Booked before sc.world.store (cost :: costs h)
          (.recording (recordCost (costs h).length cost).outcome) := .due filled
      rw [← counted] at due
      exact due
    · simp only [not_exists] at htaken
      obtain ⟨hcost, hcount, hdue⟩ := turn_cost 0 signal sc.crew hq htaken
      rw [costs_cons_of_none hcost]
      exact ⟨hcount.trans counted, _, by rw [hworker]; rfl, .paid filled hdue⟩
  · rw [costs_cons_of_none rfl]
    exact ⟨counted, worker, hworker, booked.congr hsame⟩
  · rw [costs_cons_of_none rfl]
    exact ⟨counted, worker, hworker, booked⟩

theorem books_run {w : World χ} {sc : Scene (World χ)} (hworkers : settings.workers = 1)
    (filled : Filled before [] w.store)
    (run : Run (sparing answerChain) (begin account settings w) h sc) :
    Books before (costs h) sc := by
  induction run with
  | refl => exact books_begin hworkers filled
  | snoc run step ih => exact books_step ih (fits_run run) step

/-- A worker at rest has written down every cost. -/
theorem filled_of_run {w : World χ} {sc : Scene (World χ)} (hworkers : settings.workers = 1)
    (filled : Filled before [] w.store)
    (run : Run (sparing answerChain) (begin account settings w) h sc)
    (hrest : sc.phases.all Phase.isAtRest = true) : Filled before (costs h) sc.world.store := by
  obtain ⟨-, phase, hphase, booked⟩ := books_run hworkers filled run
  rw [hphase] at hrest
  generalize costs h = cs at booked
  cases booked with
  | paid filled _ => exact filled
  | due _ => cases hrest

/-- The store stays in place. -/
theorem cell_run {start sc : Scene (World χ)} (run : Run (sparing answerChain) start h sc) :
    sc.world.store.cell = start.world.store.cell := by
  induction run with
  | refl => rfl
  | snoc _ step ih =>
    rw [← ih]
    obtain ⟨_, _, question, _, _, rfl, rfl⟩ | ⟨_, _, _, _, _, rfl, rfl⟩ |
      ⟨_, ⟨hcell, -⟩, rfl, rfl⟩ | ⟨rfl, rfl⟩ := step.cases
    · exact World.cell_answer _ question.op
    · rfl
    · exact hcell
    · rfl

end Mining
end PriceOracle
