import Mathlib.Data.List.Basic
import PriceOracle.Chain.Ledger
import PriceOracle.Proofs.Service.Phase
import PriceOracle.Proofs.Store.Disk

/-!
# PriceOracle.Proofs.Service.Account

What can be relied on throughout the work of a data service, however it is started, told to stop and
looked at in between. `Attends` says how far each tracker has come in each cycle.

* `attends_run`: it holds at every point of every run.
* `run_account`: who has the store when, and what is written before it is closed.
* `ready_account`: who waits for a service that has stopped.
-/

namespace PriceOracle
namespace Service

open Node
open Chain (Ledger)
open Store (Disk)
open Program (Exchange Says Reaches)
open World (Heard answer_of_open)

variable {χ : Type} {answerChain : Program.Answerer Chain.Call.Answer χ}

/-- Where a tracker is in a cycle that has begun: in the latest one somewhere, in all others at its
end. -/
def IsAt (s : Service) (n i : Nat) (p : Program Reply (Except Failure Unit)) : Prop :=
  match s.phase with
  | .collecting _ running => if n = s.cycles then running[i]? = some p else ∃ a, p = .done a
  | _ => ∃ a, p = .done a

/-- The trackers have come as far as the history tells. -/
structure Attends (trackers : List Tracker) (readyAfter : Nat) (h : List Event) (s : Service) :
    Prop where
  same_trackers : s.trackers = trackers
  same_readyAfter : s.readyAfter = readyAfter
  cycles : s.cycles = begun h
  dialogues : ∀ n i t, 1 ≤ n → n ≤ s.cycles → trackers[i]? = some t →
    ∃ p, Reaches (t.work n).outcome (dialogue n i h) p ∧ s.IsAt n i p
  fresh : ∀ n i, s.cycles < n → dialogue n i h = []
  heard : ∀ n i x, .answered n i x ∈ h → Heard x

section Step

variable {trackers : List Tracker} {readyAfter : Nat} {h : List Event} {s s' : Service} {w : World χ}

/-- A step that is none of a tracker. -/
theorem Attends.still (ha : Attends trackers readyAfter h s) {e : Event} (he : e.IsSilent)
    (hsame : s'.trackers = s.trackers ∧ s'.readyAfter = s.readyAfter ∧ s'.cycles = s.cycles)
    (hat : ∀ n i p, s.IsAt n i p → s'.IsAt n i p) :
    Attends trackers readyAfter (e :: h) s' := by
  obtain ⟨htrackers, hafter, hcycles⟩ := hsame
  obtain ⟨hbegun, hdialogue, hanswered⟩ := he.cons h
  refine ⟨htrackers.trans ha.same_trackers, hafter.trans ha.same_readyAfter, ?_, ?_, ?_, ?_⟩
  · rw [hcycles, ha.cycles, hbegun]
  · intro n i t hn hle ht
    obtain ⟨p, hp, hpat⟩ := ha.dialogues n i t hn (hcycles ▸ hle) ht
    exact ⟨p, hdialogue n i ▸ hp, hat n i p hpat⟩
  · intro n i hn
    rw [hdialogue]
    exact ha.fresh n i (hcycles ▸ hn)
  · exact fun n i x hx => ha.heard n i x (hanswered n i x hx)

theorem same_advance (s : Service) (l : Proxy.Local) :
    (s.advance l).2.1.trackers = s.trackers ∧ (s.advance l).2.1.readyAfter = s.readyAfter ∧
      (s.advance l).2.1.cycles = s.cycles ∧
      ∀ n i p, s.IsAt n i p → (s.advance l).2.1.IsAt n i p := by
  obtain ⟨trackers, path, readyAfter, lifecycle, readiness, phase, cycles, dismissed⟩ := s
  cases phase with
  | opening =>
    rcases hopen : Store.Disk.migrate path l.disk with ⟨_ | handle, d⟩ <;>
      simp only [advance, hopen] <;> exact ⟨trivial, trivial, trivial, fun _ _ _ hat => hat⟩
  | waiting n => cases dismissed <;> exact ⟨rfl, rfl, rfl, fun _ _ _ hat => hat⟩
  | _ => exact ⟨rfl, rfl, rfl, fun _ _ _ hat => hat⟩

theorem Attends.begin (ha : Attends trackers readyAfter h s) {n : Nat}
    (hp : s.phase = .waiting n) : Attends trackers readyAfter (.began :: h) s.beginCycle := by
  obtain ⟨ts, path, after, lifecycle, readiness, phase, cycles, dismissed⟩ := s
  cases hp
  obtain ⟨htrackers, hafter, hcycles, hdialogues, hfresh, hheard⟩ := ha
  refine ⟨htrackers, hafter, congrArg (· + 1) hcycles, ?_, ?_, ?_⟩
  · intro m i t hm hle ht
    cases htrackers
    by_cases hnew : m = cycles + 1
    · subst hnew
      have hnil : dialogue (cycles + 1) i (.began :: h) = [] := hfresh _ i (Nat.lt_succ_self _)
      refine ⟨(t.work (cycles + 1)).outcome, hnil ▸ .refl _, ?_⟩
      simp only [IsAt, beginCycle, if_true, List.getElem?_map, ht, Option.map_some]
    · have hle : m ≤ cycles + 1 := hle
      obtain ⟨p, hreach, hat⟩ := hdialogues m i t hm (by simp only; omega) ht
      refine ⟨p, hreach, ?_⟩
      simp only [IsAt, beginCycle, hnew, if_false]
      exact hat
  · intro m i hm
    exact hfresh m i (Nat.lt_of_succ_lt hm)
  · intro m i x hx
    obtain hx | hx := List.mem_cons.1 hx
    · cases hx
    · exact hheard m i x hx

theorem Attends.answer (ha : Attends trackers readyAfter h s) (hs : Stands h ⟨s, w⟩) {n i : Nat}
    {running : List (Program Reply (Except Failure Unit))} {op : Ask}
    {next : Reply op → Program Reply (Except Failure Unit)} (hp : s.phase = .collecting n running)
    (hi : running[i]? = some (.ask op next)) :
    Attends trackers readyAfter
      (.answered s.cycles i ⟨op, (World.answer answerChain op w).1⟩ :: h)
      (s.stepTracker (World.answer answerChain) i w).1 := by
  obtain ⟨ts, path, after, lifecycle, readiness, phase, cycles, dismissed⟩ := s
  cases hp
  obtain ⟨htrackers, hafter, hcycles, hdialogues, hfresh, hheard⟩ := ha
  simp only [stepTracker, hi, Program.step]
  refine ⟨htrackers, hafter, hcycles, ?_, ?_, ?_⟩
  · intro m j t hm hle ht
    obtain ⟨p, hreach, hat⟩ := hdialogues m j t hm hle ht
    simp only [dialogue]
    by_cases hmine : cycles = m ∧ i = j
    · obtain ⟨rfl, rfl⟩ := hmine
      simp only [IsAt, if_true, hi, Option.some.injEq] at hat
      subst hat
      rw [if_pos ⟨rfl, rfl⟩]
      refine ⟨_, hreach.snoc _, ?_⟩
      simp only [IsAt, if_true]
      exact List.getElem?_set_self (List.getElem?_eq_some_iff.1 hi).1
    · rw [if_neg hmine]
      refine ⟨p, hreach, ?_⟩
      simp only [IsAt] at hat ⊢
      by_cases hm : m = cycles
      · rw [if_pos hm] at hat ⊢
        have hij : i ≠ j := fun hij => hmine ⟨hm.symm, hij⟩
        rwa [List.getElem?_set_ne hij]
      · rwa [if_neg hm] at hat ⊢
  · intro m j hm
    have hne : ¬(cycles = m ∧ i = j) := fun heq => absurd heq.1 (Nat.ne_of_lt hm)
    simp only [dialogue, hne, if_false]
    exact hfresh m j hm
  · intro m j x hx
    obtain hx | hx := List.mem_cons.1 hx
    · cases hx
      exact (answer_of_open hs.store op).2
    · exact hheard m j x hx

theorem Attends.finish (ha : Attends trackers readyAfter h s) {n : Nat}
    {running : List (Program Reply (Except Failure Unit))} (hp : s.phase = .collecting n running)
    (hdone : ∀ p ∈ running, p.result?.isSome = true) :
    Attends trackers readyAfter (.ended :: h) s.endCycle := by
  obtain ⟨ts, path, after, lifecycle, readiness, phase, cycles, dismissed⟩ := s
  cases hp
  simp only [endCycle, List.all_eq_true.2 hdone, if_true]
  refine ha.still trivial ⟨rfl, rfl, rfl⟩ fun m i p hat => ?_
  simp only [IsAt] at hat ⊢
  split at hat
  · have hsome := hdone p (List.mem_of_getElem? hat)
    cases p with
    | done a => exact ⟨a, rfl⟩
    | ask op next => cases hsome
  · exact hat

theorem Attends.step {sc sc' : Scene χ} {e : Event}
    (ha : Attends trackers readyAfter h sc.service) (hs : Stands h sc)
    (step : Step answerChain sc e sc') : Attends trackers readyAfter (e :: h) sc'.service := by
  cases step with
  | enter hstep =>
    obtain ⟨-, hr, -⟩ | ⟨still, -, rfl⟩ := enter_cases hstep
    · cases hr
    · refine ha.still trivial ⟨rfl, rfl, rfl⟩ fun n i p hat => ?_
      have hidle := hs.idle still
      simp only [IsAt, hidle] at hat
      exact hat
  | refuse hstep =>
    obtain ⟨-, -, rfl⟩ | ⟨-, hr, -⟩ := enter_cases hstep
    · exact ha.still trivial ⟨rfl, rfl, rfl⟩ fun _ _ _ hat => hat
    · cases hr
  | @advance s s' w result store hstep =>
    obtain ⟨h₁, h₂, h₃, hat⟩ := same_advance s w.store
    rw [hstep] at h₁ h₂ h₃ hat
    exact ha.still trivial ⟨h₁, h₂, h₃⟩ hat
  | begin hp => exact ha.begin hp
  | answer hp hi => exact ha.answer hs hp hi
  | finish hp hdone => exact ha.finish hp hdone
  | dismiss | access | change =>
    exact ha.still trivial ⟨rfl, rfl, rfl⟩ fun _ _ _ hat => hat

end Step

theorem attends_run {trackers : List Tracker} {path : Store.Path} {readyAfter : Nat} {w : World χ}
    (hcell : w.store.cell = none) {h : List Event} {sc : Scene χ}
    (run : Run answerChain ⟨.new trackers path readyAfter, w⟩ h sc) :
    Attends trackers readyAfter h sc.service := by
  induction run with
  | refl =>
    refine ⟨rfl, rfl, rfl, fun n i t hn hle _ => ?_, fun _ _ _ => rfl,
      fun _ _ _ hx => by cases hx⟩
    exact absurd (Nat.lt_of_lt_of_le hn hle) (Nat.lt_irrefl 0)
  | snoc run step ih => exact ih.step (stands_run hcell run) step

/-- A tracker that is where no cycle is in flight has come to its end. -/
theorem Attends.ended {trackers : List Tracker} {readyAfter : Nat} {h : List Event} {s : Service}
    (ha : Attends trackers readyAfter h s) (hidle : ∀ n running, s.phase ≠ .collecting n running)
    {n i : Nat} {t : Tracker} (hn : 1 ≤ n) (hle : n ≤ begun h) (ht : trackers[i]? = some t) :
    ∃ result, Says (t.work n).outcome (dialogue n i h) result := by
  obtain ⟨p, hreach, hat⟩ := ha.dialogues n i t hn (ha.cycles ▸ hle) ht
  unfold IsAt at hat
  split at hat
  · next m running hphase => exact absurd hphase (hidle m running)
  · obtain ⟨result, rfl⟩ := hat
    exact ⟨result, Program.says_iff_reaches.2 hreach⟩

section Account

variable {trackers : List Tracker} {path : Store.Path} {readyAfter : Nat} {w : World χ}
  {h : List Event} {sc : Scene χ}

/-- Throughout the work of a service: while it runs its store is open, and while it does not every
access fails and changes nothing. A start while it runs is refused and changes nothing. It is ready
in a run only when enough cycles of this run have ended. When its store is not open, each tracker
has come to its end in every cycle that has begun, and has been answered by an open store. -/
theorem run_account (hcell : w.store.cell = none)
    (run : Run answerChain ⟨.new trackers path readyAfter, w⟩ h sc) :
    (sc.service.lifecycle = .running → ∃ records, sc.world.store.records? = some records) ∧
    (sc.service.lifecycle = .created ∨ sc.service.lifecycle = .stopped →
      ∀ key value, sc.world.store.get key = .error .closed ∧
        sc.world.store.put key value = (.error .closed, sc.world.store)) ∧
    (sc.service.lifecycle.isRunning = true → sc.service.start sc.world.store
      = (.error (.refused .alreadyServing), sc.service, sc.world.store)) ∧
    (sc.service.lifecycle = .running → sc.service.readiness = .ready →
      max 1 readyAfter ≤ completed h) ∧
    (sc.world.store.records? = none → ∀ n i t, 1 ≤ n → n ≤ begun h → trackers[i]? = some t →
      (∃ result, Says (t.work n).outcome (dialogue n i h) result) ∧
        ∀ x ∈ dialogue n i h, Heard x) := by
  have hs := stands_run hcell run
  have ha := attends_run hcell run
  refine ⟨fun hrunning => Option.isSome_iff_exists.1 (hs.running hrunning).1, fun hstill => ?_,
    fun hrunning => ?_, fun hrunning hready => ?_, fun hclosed n i t hn hle ht => ⟨?_, ?_⟩⟩
  · have hidle := hs.idle (by obtain hl | hl := hstill <;> rw [hl] <;> rfl)
    have hnone := hs.store
    rw [hidle] at hnone
    intro key value
    have hnone : sc.world.store.cell = none := hnone
    simp only [Proxy.Local.get, Proxy.Local.put, hnone, and_self]
  · simp only [start, enter, hrunning, if_true]
  · rw [← ha.same_readyAfter]
    exact (hs.running hrunning).2.2 hready
  · refine ha.ended (fun m running hphase => ?_) hn hle ht
    have hopen := hs.store
    rw [hphase] at hopen
    have hopen : sc.world.store.records?.isSome := hopen
    rw [hclosed] at hopen
    cases hopen
  · exact fun x hx => ha.heard n i x (answered_of_mem_dialogue hx)

end Account

section Opening

variable {s : Service} {l : Proxy.Local} {disk : Disk}

theorem advance_opened {handle : Store.Handle} (hphase : s.phase = .opening)
    (hmigrate : Disk.migrate s.path l.disk = (.ok handle, disk)) :
    s.advance l = (.ok (), { s with phase := .installing handle }, { l with disk }) := by
  simp only [advance, hphase, hmigrate]

theorem advance_refused {e : Store.Error} (hphase : s.phase = .opening)
    (hmigrate : Disk.migrate s.path l.disk = (.error e, disk)) :
    s.advance l = (.error (.store e), { s with lifecycle := .stopped, phase := .idle },
      { l with disk }) := by
  simp only [advance, hphase, hmigrate]

end Opening

section OneCycle

/-- A tracker that puts one record. -/
def stamp : Tracker := ⟨"stamp", fun _ => Action.put "k" [1]⟩

/-- The data service has the store in the cell, if there is one. -/
def worldWith (there : List (Store.Place × Store.Entry)) (cell : Option Store.Handle) :
    World Ledger where
  chain := {}
  store := ⟨⟨there⟩, cell⟩
  web := []
  patience := 0
  clock := 0
  birth := 0

def stamping : Service := .new [stamp] ⟨[.down "s"], false⟩ 1

/-- The service is told to stop while its first cycle is in flight. -/
def oneCycle : List Event :=
  [.advanced .halting, .advanced .settling, .advanced .closing, .advanced (.waiting 1), .ended,
    .answered 1 0 ⟨.put "k" [1], .ok ()⟩, .dismissed, .began, .advanced .launching,
    .advanced .announcing, .advanced (.installing ⟨["s"], true⟩), .advanced .opening, .entered]

/-- The store of the service is a new one when there is nothing yet. -/
theorem migrate_empty : Disk.migrate stamping.path .empty =
    (.ok ⟨["s"], true⟩, ⟨[(["s"], .store [] true)]⟩) := by
  have hlegal : Store.Path.isLegal "s" = true := by simp +decide [Store.Path.isLegal]
  have hlocate (d : Disk) : d.locate stamping.path.steps = some ["s"] :=
    Disk.locate_down hlegal (by decide) d
  have hopen : Disk.openStore stamping.path .empty =
      (.ok ⟨["s"], true⟩, ⟨[(["s"], .store [] true)]⟩) := by
    rw [Disk.openStore, show Disk.addAbove stamping.path .empty = (true, .empty) from rfl]
    simp only [hlocate]
    rfl
  have hremove : Disk.remove stamping.path ⟨[(["s"], .store [] false)]⟩ = .empty := by
    rw [Disk.remove, hlocate]
    rfl
  have hcosts : Disk.costs ⟨["s"], true⟩ ⟨[(["s"], .store [] true)]⟩
      (List.range Key.gasCostSlots) = .ok [] := rfl
  have hclose : Disk.close ⟨["s"], true⟩ ⟨[(["s"], .store [] true)]⟩ =
      (⟨["s"], false⟩, ⟨[(["s"], .store [] false)]⟩) := rfl
  simp only [Disk.migrate, hopen, hcosts, hclose, hremove, Disk.putCosts]

theorem run_oneCycle : Run Ledger.answer ⟨stamping, worldWith [] none⟩ oneCycle
    ⟨{ stamping with lifecycle := .stopped, readiness := .ready, cycles := 1, dismissed := true },
      worldWith [(["s"], .store [("k", [1])] false)] none⟩ := by
  have opened : advance { stamping with lifecycle := .starting, phase := .opening }
      (worldWith [] none).store
        = (.ok (), { stamping with lifecycle := .starting, phase := .installing ⟨["s"], true⟩ },
          ⟨⟨[(["s"], .store [] true)]⟩, none⟩) := advance_opened rfl migrate_empty
  have started : Run Ledger.answer ⟨stamping, worldWith [] none⟩ _
      ⟨{ stamping with lifecycle := .running, phase := .waiting 0 },
        worldWith [(["s"], .store [] true)] (some ⟨["s"], true⟩)⟩ :=
    (((((Run.refl _).snoc (.enter rfl)).snoc (.advance opened)).snoc (.advance rfl)).snoc
      (.advance rfl)).snoc (.advance rfl)
  have answered : Run Ledger.answer ⟨stamping, worldWith [] none⟩ _
      ⟨{ stamping with lifecycle := .running, phase := .collecting 0 [.done (.ok ())],
                       cycles := 1, dismissed := true },
        worldWith [(["s"], .store [("k", [1])] true)] (some ⟨["s"], true⟩)⟩ :=
    ((started.snoc (.begin rfl)).snoc .dismiss).snoc (Step.answer (i := 0) rfl rfl)
  have ended : Run Ledger.answer ⟨stamping, worldWith [] none⟩ _
      ⟨{ stamping with lifecycle := .running, readiness := .ready, phase := .waiting 1,
                       cycles := 1, dismissed := true },
        worldWith [(["s"], .store [("k", [1])] true)] (some ⟨["s"], true⟩)⟩ :=
    answered.snoc (.finish rfl (by simp [Program.result?]))
  exact (((ended.snoc (.advance rfl)).snoc (.advance rfl)).snoc (.advance rfl)).snoc (.advance rfl)

theorem run_account_oneCycle : (worldWith [] none).store.cell = none ∧
    ∃ sc, Run Ledger.answer ⟨stamping, worldWith [] none⟩ oneCycle sc ∧
      (∀ key value, sc.world.store.get key = .error .closed ∧
        sc.world.store.put key value = (.error .closed, sc.world.store)) ∧
      ∀ x ∈ dialogue 1 0 oneCycle, Heard x := by
  obtain ⟨-, hstill, -, -, hended⟩ := run_account rfl run_oneCycle
  exact ⟨rfl, _, run_oneCycle, hstill (.inr rfl),
    (hended rfl 1 0 stamp (Nat.le_refl 1) (Nat.le_refl 1) rfl).2⟩

end OneCycle

section Ready

variable {trackers : List Tracker} {path : Store.Path} {readyAfter : Nat} {w : World χ}
  {h : List Event} {sc : Scene χ}

/-- Who waits for a service that has stopped is told something just when some start has succeeded.
A start that fails tells nobody. -/
theorem ready_account (hcell : w.store.cell = none)
    (run : Run answerChain ⟨.new trackers path readyAfter, w⟩ h sc)
    (hstopped : sc.service.lifecycle = .stopped) :
    sc.service.ready.isSome = true ↔ Launched h := by
  have hs := stands_run hcell run
  have hidle := hs.idle (by rw [hstopped]; rfl)
  have hr := hs.readiness
  rw [hidle] at hr
  have hr : sc.service.readiness = .pending ↔ ¬Launched h := hr
  have hpending : sc.service.ready.isSome = true ↔ ¬sc.service.readiness = .pending := by
    unfold ready
    cases sc.service.readiness <;> simp
  rw [hpending, hr, Classical.not_not]

theorem ready_account_oneCycle : (worldWith [] none).store.cell = none ∧
    ∃ sc, Run Ledger.answer ⟨stamping, worldWith [] none⟩ oneCycle sc ∧
      sc.service.lifecycle = .stopped ∧ (sc.service.ready.isSome = true ↔ Launched oneCycle) :=
  ⟨rfl, _, run_oneCycle, rfl, ready_account rfl run_oneCycle rfl⟩

/-- The first start of a service fails, since a file stands where its folder should be. The service
has stopped, and who waits for it waits on. -/
theorem exists_stopped_pending : ∃ h sc, Run Ledger.answer
    ⟨.new [stamp] ⟨[.down "f", .down "s"], false⟩ 1, worldWith [(["f"], .other)] none⟩ h sc ∧
      sc.service.lifecycle = .stopped ∧ sc.service.readiness = .pending ∧
      sc.service.ready = none := by
  let s : Service := .new [stamp] ⟨[.down "f", .down "s"], false⟩ 1
  have refused : advance { s with lifecycle := .starting, phase := .opening }
      (worldWith [(["f"], .other)] none).store
        = (.error (.store .unreachable), { s with lifecycle := .stopped },
          ⟨⟨[(["f"], .other)]⟩, none⟩) := by
    have hlegal : Store.Path.isLegal "f" = true := by simp +decide [Store.Path.isLegal]
    have hlocate (d : Disk) : d.locate [.down "f"] = some ["f"] :=
      Disk.locate_down hlegal (by decide) d
    have hadd : Disk.addFolder ⟨[(["f"], .other)]⟩ [.down "f"] = none := by
      rw [Disk.addFolder, hlocate]
      rfl
    have habove : Disk.addAbove s.path ⟨[(["f"], .other)]⟩ = (false, ⟨[(["f"], .other)]⟩) := by
      rw [Disk.addAbove, if_pos (by decide)]
      show Disk.addFolders [[.down "f"]] _ = _
      rw [Disk.addFolders, hadd]
    refine advance_refused rfl ?_
    show Disk.migrate s.path ⟨[(["f"], .other)]⟩ = _
    rw [Disk.migrate, Disk.openStore, habove]
  have failed : Run Ledger.answer ⟨s, worldWith [(["f"], .other)] none⟩ _
      ⟨{ s with lifecycle := .stopped }, worldWith [(["f"], .other)] none⟩ :=
    ((Run.refl _).snoc (.enter rfl)).snoc (.advance refused)
  exact ⟨_, _, failed, rfl, rfl, rfl⟩

end Ready

end Service
end PriceOracle
