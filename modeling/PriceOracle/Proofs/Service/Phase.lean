import PriceOracle.Proofs.Service.Run
import PriceOracle.Proofs.Store.Migration
import PriceOracle.Proofs.World

/-!
# PriceOracle.Proofs.Service.Phase

The phases of a data service. `Stands` says for each of them what the lifecycle is, who has the
store, how many cycles have been counted, and what is told of the readiness.

* `Stands.step`: each step leads from a phase that stands to one that does.
* `stands_run`: so all of it holds at every point of every run.
-/

namespace PriceOracle
namespace Service

open Node
open Program (Exchange)
open Proxy (Local)
open World (answer_of_open store_answer_of_closed)

variable {χ : Type} {answerChain : Program.Answerer Chain.Call.Answer χ}

/-- What the lifecycle may be in a phase. -/
def Phase.lifecycles : Phase → List Lifecycle
  | .idle => [.created, .stopped]
  | .opening | .installing _ | .announcing | .launching => [.starting]
  | .waiting _ | .collecting _ _ => [.running]
  | .closing | .settling | .halting => [.stopping]

/-- Who has the store in a phase. -/
def Phase.Keeps (l : Local) : Phase → Prop
  | .idle | .opening | .settling | .halting => l.cell = none
  | .installing h => l.cell = none ∧ (l.disk.records? h).isSome
  | .announcing | .launching | .waiting _ | .collecting _ _ | .closing => l.records?.isSome

/-- How many cycles a phase has counted. -/
def Phase.Counts (count : Nat) : Phase → Prop
  | .opening | .installing _ | .announcing | .launching => count = 0
  | .waiting n | .collecting n _ => count = n
  | _ => True

/-- What is told in a phase of the readiness. -/
def Phase.Tells (readyAfter count : Nat) (launched : Prop) (r : Readiness) : Phase → Prop
  | .idle | .opening | .installing _ | .announcing => r = .pending ↔ ¬launched
  | .launching => r = .pending
  | .waiting _ | .collecting _ _ => launched ∧ (r = .ready → max 1 readyAfter ≤ count)
  | .closing | .settling => launched
  | .halting => launched ∧ r ≠ .pending

structure Stands (h : List Event) (sc : Scene χ) : Prop where
  lifecycle : sc.service.lifecycle ∈ sc.service.phase.lifecycles
  store : sc.service.phase.Keeps sc.world.store
  count : sc.service.phase.Counts (completed h)
  readiness : sc.service.phase.Tells sc.service.readyAfter (completed h) (Launched h)
    sc.service.readiness

theorem records?_migrate {path : Store.Path} {d d' : Store.Disk} {handle : Store.Handle}
    (h : d.migrate path = (.ok handle, d')) : (d'.records? handle).isSome := by
  have hopens := Store.Disk.opens_migrate path d
  rw [h] at hopens
  have hget := hopens.ok.2.2.1 ""
  unfold Store.Disk.get at hget
  split at hget
  · next hr => rw [hr]; rfl
  · cases hget

theorem records?_install {l : Local} {handle : Store.Handle} (hc : l.cell = none)
    (h : (l.disk.records? handle).isSome) : (l.install handle).records?.isSome := by
  rw [Local.install, Local.close, hc]
  exact h

theorem records?_congr {d d' : Store.Disk} {handle : Store.Handle}
    (h : d'.entry? handle.place = d.entry? handle.place) :
    d'.records? handle = d.records? handle := by
  rw [Store.Disk.records?, h, Store.Disk.records?]

theorem cell_close (l : Local) : l.close.cell = none := by
  unfold Local.close
  split
  · rfl
  · assumption

section Step

variable {h : List Event} {s s' : Service} {w w' : World χ} {r : Except Failure Unit}

theorem Stands.advance (hs : Stands h ⟨s, w⟩) {store : Local}
    (hstep : s.advance w.store = (r, s', store)) :
    Stands (.advanced s.phase :: h) ⟨s', { w with store }⟩ := by
  obtain ⟨trackers, path, readyAfter, lifecycle, readiness, phase, cycles, dismissed⟩ := s
  obtain ⟨hl, hstore, hcount, hr⟩ := hs
  cases phase with
  | opening =>
    rcases hopen : Store.Disk.migrate path w.store.disk with ⟨_ | handle, d⟩
    · simp only [Service.advance, hopen] at hstep
      cases hstep
      exact ⟨List.mem_cons_of_mem _ (List.mem_singleton.2 rfl), hstore, trivial, hr⟩
    · simp only [Service.advance, hopen] at hstep
      cases hstep
      exact ⟨hl, ⟨hstore, records?_migrate hopen⟩, hcount, hr⟩
  | installing handle =>
    cases hstep
    exact ⟨hl, records?_install hstore.1 hstore.2, hcount, hr⟩
  | announcing =>
    cases hstep
    exact ⟨hl, hstore, hcount, rfl⟩
  | launching =>
    cases hstep
    refine ⟨List.mem_singleton.2 rfl, hstore, hcount, trivial, fun hready => ?_⟩
    cases hr.symm.trans hready
  | waiting n =>
    cases dismissed with
    | true =>
      cases hstep
      exact ⟨List.mem_singleton.2 rfl, hstore, trivial, hr.1⟩
    | false =>
      cases hstep
      exact ⟨hl, hstore, hcount, hr⟩
  | closing =>
    cases hstep
    exact ⟨hl, cell_close _, trivial, hr⟩
  | settling =>
    cases hstep
    refine ⟨hl, hstore, trivial, hr, ?_⟩
    cases readiness <;> nofun
  | halting =>
    cases hstep
    exact ⟨List.mem_cons_of_mem _ (List.mem_singleton.2 rfl), hstore, trivial,
      iff_of_false hr.2 (not_not_intro hr.1)⟩
  | idle | collecting =>
    cases hstep
    exact ⟨hl, hstore, hcount, hr⟩

theorem enter_cases (hstep : s.enter = (r, s')) :
    (s.lifecycle.isRunning = true ∧ r = .error (.refused .alreadyServing) ∧ s' = s) ∨
      (s.lifecycle.isRunning = false ∧ r = .ok () ∧
        s' = { s with lifecycle := .starting, phase := .opening, dismissed := false }) := by
  unfold Service.enter at hstep
  split at hstep
  · next hrunning =>
    cases hstep
    exact .inl ⟨hrunning, rfl, rfl⟩
  · next hrunning =>
    cases hstep
    exact .inr ⟨Bool.eq_false_iff.2 hrunning, rfl, rfl⟩

/-- A service that does not run is idle. -/
theorem Stands.idle (hs : Stands h ⟨s, w⟩) (still : s.lifecycle.isRunning = false) :
    s.phase = .idle := by
  have hl : s.lifecycle ∈ s.phase.lifecycles := hs.lifecycle
  generalize s.phase = phase at hl
  cases phase with
  | idle => rfl
  | _ =>
    rw [List.mem_singleton.1 hl] at still
    cases still

/-- A service that runs has its store, and is ready only after enough cycles. -/
theorem Stands.running (hs : Stands h ⟨s, w⟩) (hl : s.lifecycle = .running) :
    w.store.records?.isSome ∧ Launched h ∧
      (s.readiness = .ready → max 1 s.readyAfter ≤ completed h) := by
  obtain ⟨hmem, hstore, -, hr⟩ := hs
  simp only [hl] at hmem hstore hr
  generalize s.phase = phase at hmem hstore hr
  cases phase with
  | waiting n | collecting n running => exact ⟨hstore, hr⟩
  | _ => simp [Phase.lifecycles] at hmem

theorem Stands.enter (hs : Stands h ⟨s, w⟩) (hstep : s.enter = (.ok (), s')) :
    Stands (.entered :: h) ⟨s', w⟩ := by
  obtain ⟨-, hr, -⟩ | ⟨still, -, rfl⟩ := enter_cases hstep
  · cases hr
  · have hidle := hs.idle still
    obtain ⟨-, hstore, -, hr⟩ := hs
    obtain ⟨trackers, path, readyAfter, lifecycle, readiness, phase, cycles, dismissed⟩ := s
    cases hidle
    exact ⟨List.mem_singleton.2 rfl, hstore, rfl, hr⟩

theorem Stands.begin (hs : Stands h ⟨s, w⟩) {n : Nat} (hp : s.phase = .waiting n) :
    Stands (.began :: h) ⟨s.beginCycle, w⟩ := by
  obtain ⟨hl, hstore, hcount, hr⟩ := hs
  obtain ⟨trackers, path, readyAfter, lifecycle, readiness, phase, cycles, dismissed⟩ := s
  cases hp
  exact ⟨hl, hstore, hcount, hr⟩

theorem Stands.answer (hs : Stands h ⟨s, w⟩) {n i : Nat}
    {running : List (Program Reply (Except Failure Unit))} {op : Ask}
    {next : Reply op → Program Reply (Except Failure Unit)} (hp : s.phase = .collecting n running)
    (hi : running[i]? = some (.ask op next)) (x : Exchange Reply) :
    Stands (.answered s.cycles i x :: h) ⟨(s.stepTracker (World.answer answerChain) i w).1,
      (s.stepTracker (World.answer answerChain) i w).2⟩ := by
  obtain ⟨hl, hstore, hcount, hr⟩ := hs
  obtain ⟨trackers, path, readyAfter, lifecycle, readiness, phase, cycles, dismissed⟩ := s
  cases hp
  simp only [stepTracker, hi, Program.step]
  exact ⟨hl, (answer_of_open hstore op).1, hcount, hr⟩

theorem Stands.finish (hs : Stands h ⟨s, w⟩) {n : Nat}
    {running : List (Program Reply (Except Failure Unit))} (hp : s.phase = .collecting n running)
    (hdone : ∀ p ∈ running, p.result?.isSome = true) :
    Stands (.ended :: h) ⟨s.endCycle, w⟩ := by
  obtain ⟨hl, hstore, hcount, hr⟩ := hs
  obtain ⟨trackers, path, readyAfter, lifecycle, readiness, phase, cycles, dismissed⟩ := s
  cases hp
  obtain ⟨hlaunched, hready⟩ := hr
  have hcount : completed h = n := hcount
  simp only [endCycle, List.all_eq_true.2 hdone, if_true]
  refine ⟨hl, hstore, congrArg (· + 1) hcount, hlaunched, fun hr => ?_⟩
  simp only [readinessAfter] at hr
  show max 1 readyAfter ≤ completed h + 1
  split at hr
  · omega
  · have hbefore : max 1 readyAfter ≤ completed h := hready hr
    omega

/-- What goes on outside. -/
theorem Stands.outside (hs : Stands h ⟨s, w⟩) {e : Event}
    (hcompleted : completed (e :: h) = completed h)
    (hlaunched : Launched (e :: h) = Launched h) (hkeeps : s.phase.Keeps w'.store) :
    Stands (e :: h) ⟨s, w'⟩ :=
  ⟨hs.lifecycle, hkeeps, hcompleted ▸ hs.count, hcompleted ▸ hlaunched ▸ hs.readiness⟩

theorem keeps_answer (hs : s.phase.Keeps w.store) (op : Ask) :
    s.phase.Keeps (World.answer answerChain op w).2.store := by
  revert hs
  cases s.phase with
  | installing handle =>
    rintro ⟨hcell, hrecords⟩
    rw [store_answer_of_closed hcell]
    exact ⟨hcell, hrecords⟩
  | idle | opening | settling | halting =>
    intro hcell
    rw [store_answer_of_closed hcell]
    exact hcell
  | _ => exact fun hopen => (answer_of_open hopen op).1

theorem keeps_of_untouched (hs : s.phase.Keeps w.store) (h : Untouched s w w') :
    s.phase.Keeps w'.store := by
  obtain ⟨hcell, hentry⟩ := h
  have hopen : w.store.records?.isSome → w'.store.records?.isSome := by
    unfold Local.records?
    rw [hcell]
    cases hc : w.store.cell with
    | none => exact id
    | some handle =>
      rw [Option.bind_some, Option.bind_some, records?_congr (hentry handle (.inl hc))]
      exact id
  cases hphase : s.phase with
  | installing handle =>
    rw [hphase] at hs
    refine ⟨hcell.trans hs.1, ?_⟩
    rw [records?_congr (hentry handle (.inr hphase))]
    exact hs.2
  | idle | opening | settling | halting =>
    rw [hphase] at hs
    exact hcell.trans hs
  | _ =>
    rw [hphase] at hs
    exact hopen hs

theorem Stands.step {sc sc' : Scene χ} {e : Event} (hs : Stands h sc)
    (step : Step answerChain sc e sc') : Stands (e :: h) sc' := by
  cases step with
  | enter hstep => exact hs.enter hstep
  | refuse hstep =>
    obtain ⟨-, -, rfl⟩ | ⟨-, hr, -⟩ := enter_cases hstep
    · exact hs.outside rfl rfl hs.store
    · cases hr
  | advance hstep => exact hs.advance hstep
  | begin hp => exact hs.begin hp
  | answer hp hi => exact hs.answer hp hi _
  | finish hp hdone => exact hs.finish hp hdone
  | dismiss => exact ⟨hs.lifecycle, hs.store, hs.count, hs.readiness⟩
  | access => exact hs.outside rfl rfl (keeps_answer hs.store _)
  | change huntouched => exact hs.outside rfl rfl (keeps_of_untouched hs.store huntouched)

end Step

theorem stands_run {trackers : List Tracker} {path : Store.Path} {readyAfter : Nat} {w : World χ}
    (hcell : w.store.cell = none) {h : List Event} {sc : Scene χ}
    (run : Run answerChain ⟨.new trackers path readyAfter, w⟩ h sc) : Stands h sc := by
  induction run with
  | refl => exact ⟨List.mem_cons_self, hcell, trivial, iff_of_true rfl not_false⟩
  | snoc _ step ih => exact ih.step step

end Service
end PriceOracle
