import PriceOracle.Mining.Manager
import PriceOracle.Proofs.Node

/-!
# PriceOracle.Proofs.Mining.Run

Crews at work. The workers of a crew take their steps in any order, their surroundings change in
between, and the crew may be dismissed. A `Run` keeps the history of what happened, the latest
first, each moment with the world it happened in.

* `Step.cases`: what a step can be.
* `Run.trans`, `Run.of_suffix`: runs are put together and cut.
* `attempt`: what a worker has asked and heard since it began its attempt.
* `calls`, `claims`, `stored`: the challenges that solutions were sent for, that were claimed, and
  that were stored. `Settled` says that a challenge that was replaced has not come back.
-/

namespace PriceOracle
namespace Mining

open Node Chain
open Program (Exchange)

variable {σ : Type}

/-- What a crew works in: it answers questions, and it may change by itself. -/
structure Surroundings (σ : Type) where
  answer : Program.Answerer Reply σ
  change : σ → σ → Prop

inductive Event where
  /-- A worker gets an answer. -/
  | answered (worker : Nat) (phase : Phase) (exchange : Exchange Reply)
  /-- A worker does something by itself. -/
  | acted (worker : Nat) (phase next : Phase)
  | changed
  | dismissed

/-- An event and the world in which it happened. -/
structure Moment (σ : Type) where
  world : σ
  event : Event

/-- A crew, what each of its workers is up to, and the world around. -/
structure Scene (σ : Type) where
  crew : Crew
  phases : List Phase
  world : σ

def begin (account : Address) (settings : Settings) (s : σ) : Scene σ :=
  let group := (Manager.new account settings).newGroup
  ⟨group.crew, group.phases, s⟩

namespace Scene

/-- The scene after a step of a worker. -/
def after (sc : Scene σ) (i : Nat) (result : Phase × Crew × σ) : Scene σ :=
  ⟨result.2.1, sc.phases.set i result.1, result.2.2⟩

/-- What a step of a worker is seen as. -/
def event (sc : Scene σ) (answer : Program.Answerer Reply σ) (signal : Signal) (i : Nat)
    (phase : Phase) : Event :=
  match phase.pending? with
  | some question => .answered i phase ⟨question.op, (answer question.op sc.world).1⟩
  | none => .acted i phase (Worker.turn signal phase sc.crew).1

end Scene

inductive Step (U : Surroundings σ) : Scene σ → Event → Scene σ → Prop where
  | work {sc : Scene σ} {i : Nat} {phase : Phase} (signal : Signal)
      (at_phase : sc.phases[i]? = some phase) :
      Step U sc (sc.event U.answer signal i phase)
        (sc.after i (Worker.step U.answer signal phase sc.crew sc.world))
  | change {sc : Scene σ} {s : σ} : U.change sc.world s → Step U sc .changed { sc with world := s }
  | dismiss {sc : Scene σ} :
      Step U sc .dismissed { sc with crew := { sc.crew with dismissed := true } }

/-- What has happened between two scenes, the latest first. -/
inductive Run (U : Surroundings σ) : Scene σ → List (Moment σ) → Scene σ → Prop where
  | refl (sc : Scene σ) : Run U sc [] sc
  | snoc {start sc sc' : Scene σ} {h : List (Moment σ)} {e : Event} :
      Run U start h sc → Step U sc e sc' → Run U start (⟨sc.world, e⟩ :: h) sc'

variable {U : Surroundings σ} {start sc sc' : Scene σ} {h : List (Moment σ)} {e : Event}

theorem Step.answer {i : Nat} {phase : Phase} {question : Pending}
    (hp : sc.phases[i]? = some phase) (hq : phase.pending? = some question) :
    Step U sc (.answered i phase ⟨question.op, (U.answer question.op sc.world).1⟩)
      ⟨sc.crew, sc.phases.set i (question.next (U.answer question.op sc.world).1),
        (U.answer question.op sc.world).2⟩ := by
  have step := Step.work (U := U) .go hp
  simpa only [Scene.event, Scene.after, Worker.step, hq] using step

theorem Step.act {i : Nat} {phase : Phase} (signal : Signal)
    (hp : sc.phases[i]? = some phase) (hq : phase.pending? = none) :
    Step U sc (.acted i phase (Worker.turn signal phase sc.crew).1)
      ⟨(Worker.turn signal phase sc.crew).2,
        sc.phases.set i (Worker.turn signal phase sc.crew).1, sc.world⟩ := by
  have step := Step.work (U := U) signal hp
  simpa only [Scene.event, Scene.after, Worker.step, hq] using step

/-- What a step can be. -/
theorem Step.cases (step : Step U sc e sc') :
    (∃ i phase question, sc.phases[i]? = some phase ∧ phase.pending? = some question ∧
      e = .answered i phase ⟨question.op, (U.answer question.op sc.world).1⟩ ∧
      sc' = ⟨sc.crew, sc.phases.set i (question.next (U.answer question.op sc.world).1),
        (U.answer question.op sc.world).2⟩) ∨
    (∃ i phase signal, sc.phases[i]? = some phase ∧ phase.pending? = none ∧
      e = .acted i phase (Worker.turn signal phase sc.crew).1 ∧
      sc' = ⟨(Worker.turn signal phase sc.crew).2,
        sc.phases.set i (Worker.turn signal phase sc.crew).1, sc.world⟩) ∨
    (∃ s, U.change sc.world s ∧ e = .changed ∧ sc' = { sc with world := s }) ∨
    (e = .dismissed ∧ sc' = { sc with crew := { sc.crew with dismissed := true } }) := by
  cases step with
  | @work i phase signal hp =>
    cases hq : phase.pending? with
    | some question =>
      refine .inl ⟨i, phase, question, hp, hq, ?_, ?_⟩
      · simp only [Scene.event, hq]
      · simp only [Scene.after, Worker.step, hq]
    | none =>
      refine .inr (.inl ⟨i, phase, signal, hp, hq, ?_, ?_⟩)
      · simp only [Scene.event, hq]
      · simp only [Scene.after, Worker.step, hq]
  | @change s hs => exact .inr (.inr (.inl ⟨s, hs, rfl, rfl⟩))
  | dismiss => exact .inr (.inr (.inr ⟨rfl, rfl⟩))

theorem Run.trans {later : List (Moment σ)} (h₁ : Run U start h sc) (h₂ : Run U sc later sc') :
    Run U start (later ++ h) sc' := by
  induction h₂ with
  | refl => exact h₁
  | snoc _ step ih => exact .snoc ih step

/-- What came before a moment of a run is a run, which ends where the moment happened. -/
theorem Run.of_suffix {m : Moment σ} {earlier : List (Moment σ)} (run : Run U start h sc)
    (hs : m :: earlier <:+ h) :
    ∃ b c, Run U start earlier b ∧ Step U b m.event c ∧ b.world = m.world := by
  induction run with
  | refl =>
    obtain ⟨front, hf⟩ := hs
    simp at hf
  | @snoc sc sc' h e run step ih =>
    obtain heq | hs := List.suffix_cons_iff.1 hs
    · cases heq
      exact ⟨sc, sc', run, step, rfl⟩
    · exact ih hs

/-- What a worker has asked and heard since it began its attempt, the first first. -/
def attempt (i : Nat) : List (Moment σ) → List (Exchange Reply)
  | [] => []
  | m :: earlier =>
    match m.event with
    | .answered j _ x => if j = i then attempt i earlier ++ [x] else attempt i earlier
    | .acted j .ready _ => if j = i then [] else attempt i earlier
    | _ => attempt i earlier

/-- The challenge for which a solution is sent. -/
def Event.called? : Event → Option Word
  | .answered _ (.submitting round _ _) ⟨.chain (.send _), _⟩ => some round.challenge
  | _ => none

/-- The challenge that is claimed. -/
def Event.claimed? : Event → Option Word
  | .acted _ (.claiming round _) (.submitting _ _ _) => some round.challenge
  | _ => none

/-- The challenges for which solutions were sent, the latest first. -/
def calls (h : List (Moment σ)) : List Word := h.filterMap (·.event.called?)

/-- The challenges that were claimed, the latest first. -/
def claims (h : List (Moment σ)) : List Word := h.filterMap (·.event.claimed?)

/-- The challenge that is stored. -/
def Surroundings.challenge? (U : Surroundings σ) (s : σ) : Option Word :=
  match (U.answer (.get Key.currentChallenge) s).1 with
  | .ok (some raw) => if raw.length = 32 then some (Word.ofBytes raw) else none
  | _ => none

/-- The challenges that were stored, the latest first. -/
def stored (U : Surroundings σ) (h : List (Moment σ)) : List Word :=
  h.filterMap fun m => U.challenge? m.world

/-- No value comes back after it was replaced. The latest value is the first. -/
def Settled : List Word → Prop
  | [] => True
  | a :: earlier => (earlier.head? = some a ∨ a ∉ earlier) ∧ Settled earlier

def isSend (x : Exchange Reply) : Bool :=
  match x.op with
  | .chain (.send _) => true
  | _ => false

theorem isSend_of_isReading {x : Exchange Reply} (h : IsReading x.op) : isSend x = false := by
  obtain ⟨op, r⟩ := x
  cases op with
  | chain call =>
    cases call with
    | query q => rfl
    | send t => cases h
  | get key => rfl
  | _ => cases h

theorem called_submitting (i : Nat) (round : Round) (nonce : Nonce)
    (p : Program Reply (Except Failure Word)) (x : Exchange Reply) :
    (Event.answered i (.submitting round nonce p) x).called?
      = if isSend x then some round.challenge else none := by
  obtain ⟨op, r⟩ := x
  cases op with
  | chain call => cases call <;> rfl
  | _ => rfl

theorem calls_append (later earlier : List (Moment σ)) :
    calls (later ++ earlier) = calls later ++ calls earlier := List.filterMap_append

theorem exists_send_of_mem_calls {c : Word} (hc : c ∈ calls h) :
    ∃ w i phase x t earlier, ⟨w, .answered i phase x⟩ :: earlier <:+ h ∧
      x.op = .chain (.send t) := by
  obtain ⟨⟨w, e⟩, hm, hcalled⟩ := List.mem_filterMap.1 hc
  obtain ⟨later, earlier, rfl⟩ := List.append_of_mem hm
  simp only [Event.called?] at hcalled
  split at hcalled
  · next i round nonce p t r =>
    exact ⟨w, i, _, _, t, earlier, List.suffix_append _ _, rfl⟩
  · cases hcalled

section Attempt

variable {i j : Nat} {w : σ} {phase next : Phase} {x : Exchange Reply}

@[simp] theorem attempt_answered :
    attempt i (⟨w, .answered j phase x⟩ :: h)
      = if j = i then attempt i h ++ [x] else attempt i h := rfl

theorem attempt_ready : attempt i (⟨w, .acted i .ready next⟩ :: h) = [] := by
  simp [attempt]

theorem attempt_acted (hp : j = i → phase ≠ .ready) :
    attempt i (⟨w, .acted j phase next⟩ :: h) = attempt i h := by
  cases phase with
  | ready =>
    have hij : j ≠ i := fun heq => hp heq rfl
    simp [attempt, hij]
  | _ => rfl

end Attempt

theorem phases_set {phases : List Phase} {i j : Nat} {next phase : Phase}
    (hj : (phases.set i next)[j]? = some phase) :
    (i = j ∧ phase = next) ∨ (i ≠ j ∧ phases[j]? = some phase) := by
  rw [List.getElem?_set] at hj
  split at hj
  · next hij =>
    split at hj
    · exact .inl ⟨hij, (Option.some.inj hj).symm⟩
    · cases hj
  · next hij => exact .inr ⟨hij, hj⟩

theorem phases_set_self {phases : List Phase} {i : Nat} {phase : Phase}
    (hp : phases[i]? = some phase) : i < phases.length ∧ phases.set i phase = phases := by
  obtain ⟨hi, rfl⟩ := List.getElem?_eq_some_iff.1 hp
  exact ⟨hi, List.set_getElem_self hi⟩

theorem phases_set_of {phases : List Phase} {i j : Nat} {phase other : Phase}
    (hi : phases[i]? = some phase) (hij : i ≠ j) (hj : phases[j]? = some other) (next : Phase) :
    (phases.set i next)[i]? = some next ∧ (phases.set i next)[j]? = some other :=
  ⟨List.getElem?_set_self (phases_set_self hi).1, (List.getElem?_set_ne hij).trans hj⟩

/-- The questions that each phase may wait for. -/
theorem Phase.pending_cases {phase : Phase} {question : Pending}
    (hq : phase.pending? = some question) :
    (∃ op next, phase = .looking (.ask op next) ∧ question = ⟨op, fun r => .looking (next r)⟩) ∨
    (∃ round left op next, phase = .polling round left (.ask op next) ∧
      question = ⟨op, fun r => .polling round left (next r)⟩) ∨
    (∃ round nonce op next, phase = .submitting round nonce (.ask op next) ∧
      question = ⟨op, fun r => .submitting round nonce (next r)⟩) ∨
    ∃ op next, phase = .recording (.ask op next) ∧
      question = ⟨op, fun r => .recording (next r)⟩ := by
  match phase, hq with
  | .looking (.ask op next), hq => exact .inl ⟨op, next, rfl, (Option.some.inj hq).symm⟩
  | .polling round left (.ask op next), hq =>
    exact .inr (.inl ⟨round, left, op, next, rfl, (Option.some.inj hq).symm⟩)
  | .submitting round nonce (.ask op next), hq =>
    exact .inr (.inr (.inl ⟨round, nonce, op, next, rfl, (Option.some.inj hq).symm⟩))
  | .recording (.ask op next), hq =>
    exact .inr (.inr (.inr ⟨op, next, rfl, (Option.some.inj hq).symm⟩))

end Mining
end PriceOracle
