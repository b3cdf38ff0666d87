import PriceOracle.Proofs.Node
import PriceOracle.Service.Basic
import PriceOracle.World

/-!
# PriceOracle.Proofs.Service.Run

The data service at work. It takes its steps one by one; between any two of them somebody may start
it or tell it to stop, others may have an access to its store, and the world may change. A `Run`
keeps the history of the events, the latest first.

* `Launched`, `completed`, `dialogue`: what a history tells of starts, cycles and trackers.
* `exists_run_start`, `exists_run_windDown`: a whole start and a whole stop are runs.
-/

namespace PriceOracle
namespace Service

open Node
open Program (Exchange)

variable {χ : Type}

/-- A service and the world around it. -/
structure Scene (χ : Type) where
  service : Service
  world : World χ

inductive Event where
  /-- Somebody who starts the service is let in. -/
  | entered
  | refused
  /-- The service takes its next step from a phase. -/
  | advanced (phase : Phase)
  | began
  /-- A tracker gets an answer in a cycle. -/
  | answered (cycle tracker : Nat) (exchange : Exchange Reply)
  | ended
  | dismissed
  /-- Somebody else has an access to the store. -/
  | accessed (op : Ask)
  | changed

/-- The store that the service has opened is left as it is. -/
def Untouched (s : Service) (w w' : World χ) : Prop :=
  w'.store.cell = w.store.cell ∧
    ∀ h, w.store.cell = some h ∨ s.phase = .installing h →
      w'.store.disk.entry? h.place = w.store.disk.entry? h.place

inductive Step (answerChain : Program.Answerer Chain.Call.Answer χ) :
    Scene χ → Event → Scene χ → Prop where
  | enter {s s' : Service} {w : World χ} : s.enter = (.ok (), s') →
      Step answerChain ⟨s, w⟩ .entered ⟨s', w⟩
  | refuse {s s' : Service} {w : World χ} {f : Failure} : s.enter = (.error f, s') →
      Step answerChain ⟨s, w⟩ .refused ⟨s', w⟩
  | advance {s s' : Service} {w : World χ} {result : Except Failure Unit} {store : Proxy.Local} :
      s.advance w.store = (result, s', store) →
      Step answerChain ⟨s, w⟩ (.advanced s.phase) ⟨s', { w with store }⟩
  | begin {s : Service} {w : World χ} {n : Nat} : s.phase = .waiting n →
      Step answerChain ⟨s, w⟩ .began ⟨s.beginCycle, w⟩
  | answer {s : Service} {w : World χ} {n i : Nat}
      {running : List (Program Reply (Except Failure Unit))} {op : Ask}
      {next : Reply op → Program Reply (Except Failure Unit)} :
      s.phase = .collecting n running → running[i]? = some (.ask op next) →
      Step answerChain ⟨s, w⟩ (.answered s.cycles i ⟨op, (World.answer answerChain op w).1⟩)
        ⟨(s.stepTracker (World.answer answerChain) i w).1,
          (s.stepTracker (World.answer answerChain) i w).2⟩
  | finish {s : Service} {w : World χ} {n : Nat}
      {running : List (Program Reply (Except Failure Unit))} :
      s.phase = .collecting n running → (∀ p ∈ running, p.result?.isSome = true) →
      Step answerChain ⟨s, w⟩ .ended ⟨s.endCycle, w⟩
  | dismiss {s : Service} {w : World χ} : Step answerChain ⟨s, w⟩ .dismissed ⟨s.dismiss, w⟩
  | access {s : Service} {w : World χ} {op : Ask} : op.isAccess = true →
      Step answerChain ⟨s, w⟩ (.accessed op) ⟨s, (World.answer answerChain op w).2⟩
  | change {s : Service} {w w' : World χ} : Untouched s w w' →
      Step answerChain ⟨s, w⟩ .changed ⟨s, w'⟩

/-- What has happened between two scenes, the latest first. -/
inductive Run (answerChain : Program.Answerer Chain.Call.Answer χ) :
    Scene χ → List Event → Scene χ → Prop where
  | refl (sc : Scene χ) : Run answerChain sc [] sc
  | snoc {start sc sc' : Scene χ} {h : List Event} {e : Event} :
      Run answerChain start h sc → Step answerChain sc e sc' → Run answerChain start (e :: h) sc'

variable {answerChain : Program.Answerer Chain.Call.Answer χ}

theorem Run.trans {sc₁ sc₂ sc₃ : Scene χ} {earlier later : List Event}
    (h₁ : Run answerChain sc₁ earlier sc₂) (h₂ : Run answerChain sc₂ later sc₃) :
    Run answerChain sc₁ (later ++ earlier) sc₃ := by
  induction h₂ with
  | refl => exact h₁
  | snoc _ step ih => exact .snoc ih step

/-- Some start has succeeded. -/
def Launched : List Event → Prop
  | [] => False
  | .advanced .launching :: _ => True
  | _ :: h => Launched h

/-- How many cycles have come to their ends since the latest start. -/
def completed : List Event → Nat
  | [] => 0
  | .entered :: _ => 0
  | .ended :: h => completed h + 1
  | _ :: h => completed h

/-- How many cycles have begun. -/
def begun : List Event → Nat
  | [] => 0
  | .began :: h => begun h + 1
  | _ :: h => begun h

/-- What a tracker has asked and heard in a cycle, the first first. -/
def dialogue (n i : Nat) : List Event → List (Exchange Reply)
  | [] => []
  | .answered m j x :: h => if m = n ∧ j = i then dialogue n i h ++ [x] else dialogue n i h
  | _ :: h => dialogue n i h

/-- No tracker has a part in the event. -/
def Event.IsSilent : Event → Prop
  | .began | .answered _ _ _ => False
  | _ => True

theorem Event.IsSilent.cons {e : Event} (he : e.IsSilent) (h : List Event) :
    begun (e :: h) = begun h ∧ (∀ n i, dialogue n i (e :: h) = dialogue n i h) ∧
      ∀ n i x, .answered n i x ∈ e :: h → .answered n i x ∈ h := by
  cases e with
  | began => cases he
  | answered => cases he
  | _ =>
    refine ⟨rfl, fun _ _ => rfl, fun n i x hx => ?_⟩
    obtain hx | hx := List.mem_cons.1 hx
    · cases hx
    · exact hx

theorem answered_of_mem_dialogue {n i : Nat} {x : Exchange Reply} {h : List Event}
    (hx : x ∈ dialogue n i h) : .answered n i x ∈ h := by
  induction h with
  | nil => cases hx
  | cons e h ih =>
    cases e with
    | answered m j y =>
      rw [dialogue] at hx
      split at hx
      · next heq =>
        obtain ⟨rfl, rfl⟩ := heq
        obtain hx | hx := List.mem_append.1 hx
        · exact List.mem_cons_of_mem _ (ih hx)
        · rw [List.mem_singleton.1 hx]
          exact List.mem_cons_self
      · exact List.mem_cons_of_mem _ (ih hx)
    | _ => exact List.mem_cons_of_mem _ (ih hx)

section Whole

variable {s : Service} {w : World χ}

theorem exists_run_advanceBy (steps : Nat) (s : Service) (w : World χ) :
    ∃ h, Run answerChain ⟨s, w⟩ h
      ⟨(s.advanceBy steps w.store).2.1, { w with store := (s.advanceBy steps w.store).2.2 }⟩ := by
  induction steps generalizing s w with
  | zero => exact ⟨[], .refl _⟩
  | succ steps ih =>
    rw [advanceBy]
    rcases hstep : s.advance w.store with ⟨_ | _, s', store⟩
    · exact ⟨_, .snoc (.refl _) (.advance hstep)⟩
    · obtain ⟨h, run⟩ := ih s' { w with store }
      exact ⟨_, (Run.snoc (.refl _) (.advance hstep)).trans run⟩

theorem exists_run_start (s : Service) (w : World χ) :
    ∃ h, Run answerChain ⟨s, w⟩ h
      ⟨(s.start w.store).2.1, { w with store := (s.start w.store).2.2 }⟩ := by
  rw [start]
  rcases hstep : s.enter with ⟨_ | _, s'⟩
  · exact ⟨_, .snoc (.refl _) (.refuse hstep)⟩
  · have entered : Run answerChain ⟨s, w⟩ _ ⟨s', w⟩ := .snoc (.refl _) (.enter hstep)
    obtain ⟨h, run⟩ := exists_run_advanceBy stages s' w
    exact ⟨_, entered.trans run⟩

theorem exists_run_windDown (s : Service) (w : World χ) :
    ∃ h, Run answerChain ⟨s, w⟩ h
      ⟨(s.windDown w.store).1, { w with store := (s.windDown w.store).2 }⟩ :=
  exists_run_advanceBy stages s w

end Whole

end Service
end PriceOracle
