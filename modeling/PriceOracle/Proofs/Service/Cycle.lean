import PriceOracle.Chain.Ledger
import PriceOracle.Proofs.Feed.Duty
import PriceOracle.Proofs.Service.Run

/-!
# PriceOracle.Proofs.Service.Cycle

A cycle of the standard trackers. They take turns in any order, and it makes no difference in which.

* `cycle_runCycle`: letting one tracker run after another is one way to go through a cycle.
* `Cycle.settles`: after a cycle, the keys of a tracker are as if it had run alone.
* `cycle_account`: so there is one outcome, whatever the order was and whoever failed.
-/

namespace PriceOracle
namespace Service

open Node
open Chain (Ledger)
open Tracker (Duty)
open World (Agrees Abreast Apart Outside Steady abreast_start)

variable {χ : Type}

def Event.IsAnswer : Event → Prop
  | .answered _ _ _ => True
  | _ => False

/-- A whole cycle and nothing else: the trackers get their answers in some order, until all of them
have come to their ends. -/
def Cycle (answerChain : Program.Answerer Chain.Call.Answer χ) (sc sc' : Scene χ) : Prop :=
  ∃ first last h, Step answerChain sc .began first ∧ Run answerChain first h last ∧
    (∀ e ∈ h, e.IsAnswer) ∧ Step answerChain last .ended sc'

variable {answerChain : Program.Answerer Chain.Call.Answer χ}

/-! ## One tracker after another -/

section Sequence

/-- A service whose trackers have come so far in a cycle. -/
def amid (s : Service) (n : Nat) (running : List (Program Reply (Except Failure Unit))) : Service :=
  { s with phase := .collecting n running }

theorem stepTracker_eq {σ : Type} (answer : Program.Answerer Reply σ) {s : Service} {n i : Nat}
    {running : List (Program Reply (Except Failure Unit))} {op : Ask}
    {next : Reply op → Program Reply (Except Failure Unit)}
    (hphase : s.phase = .collecting n running) (hi : running[i]? = some (.ask op next))
    (world : σ) :
    s.stepTracker answer i world
      = (s.amid n (running.set i (next (answer op world).1)), (answer op world).2) := by
  simp only [stepTracker, hphase, hi, Program.step, amid]

variable (answerChain) (s : Service) (n : Nat)

/-- One tracker runs, and the others wait. -/
theorem exists_run_tracker (before rest : List (Program Reply (Except Failure Unit)))
    (p : Program Reply (Except Failure Unit)) (w : World χ) :
    ∃ h, (∀ e ∈ h, e.IsAnswer) ∧ Run answerChain ⟨s.amid n (before ++ p :: rest), w⟩ h
      ⟨s.amid n (before ++ .done (p.run (World.answer answerChain) w).1 :: rest),
        (p.run (World.answer answerChain) w).2⟩ := by
  induction p generalizing w with
  | done a => exact ⟨[], by simp, .refl _⟩
  | ask op next ih =>
    obtain ⟨h, hanswers, run⟩ := ih (World.answer answerChain op w).1
      (World.answer answerChain op w).2
    have hi : (before ++ .ask op next :: rest)[before.length]? = some (.ask op next) := by simp
    have step : Step answerChain ⟨s.amid n (before ++ .ask op next :: rest), w⟩ _ _ :=
      .answer rfl hi
    rw [stepTracker_eq _ rfl hi, List.set_append_right _ _ (Nat.le_refl _), Nat.sub_self] at step
    refine ⟨_, fun e he => ?_, (Run.snoc (.refl _) step).trans run⟩
    obtain he | he := List.mem_append.1 he
    · exact hanswers e he
    · rw [List.mem_singleton.1 he]
      trivial

theorem exists_run_runAll (before programs : List (Program Reply (Except Failure Unit)))
    (w : World χ) :
    ∃ h, (∀ e ∈ h, e.IsAnswer) ∧ Run answerChain ⟨s.amid n (before ++ programs), w⟩ h
      ⟨s.amid n (before ++ (runAll (World.answer answerChain) programs w).1.map .done),
        (runAll (World.answer answerChain) programs w).2⟩ := by
  induction programs generalizing before w with
  | nil => exact ⟨[], by simp, .refl _⟩
  | cons p rest ih =>
    obtain ⟨h, hanswers, run⟩ := exists_run_tracker answerChain s n before rest p w
    obtain ⟨h', hanswers', run'⟩ := ih
      (before ++ [.done (p.run (World.answer answerChain) w).1])
      (p.run (World.answer answerChain) w).2
    rw [List.append_assoc, List.append_assoc, List.singleton_append] at run'
    refine ⟨h' ++ h, fun e he => ?_, run.trans run'⟩
    exact (List.mem_append.1 he).elim (hanswers' e) (hanswers e)

/-- What the trackers do in the next cycle. -/
def due (s : Service) : List (Program Reply (Except Failure Unit)) :=
  s.trackers.map fun t => (t.work (s.cycles + 1)).outcome

variable {s n}

theorem beginCycle_eq (hphase : s.phase = .waiting n) :
    s.beginCycle = s.beginCycle.amid n s.due := by
  simp only [beginCycle, hphase, amid, due]

theorem runCycle_eq {σ : Type} (answer : Program.Answerer Reply σ) (hphase : s.phase = .waiting n)
    (world : σ) :
    s.runCycle answer world
      = ((s.beginCycle.amid n ((runAll answer s.due world).1.map .done)).endCycle,
        (runAll answer s.due world).2) := by
  simp only [runCycle, beginCycle, hphase, amid, due]

theorem cycle_runCycle (hphase : s.phase = .waiting n) (w : World χ) :
    Cycle answerChain ⟨s, w⟩ ⟨(s.runCycle (World.answer answerChain) w).1,
      (s.runCycle (World.answer answerChain) w).2⟩ := by
  obtain ⟨h, hanswers, run⟩ := exists_run_runAll answerChain s.beginCycle n [] s.due w
  rw [List.nil_append, List.nil_append, ← beginCycle_eq hphase] at run
  rw [runCycle_eq _ hphase]
  refine ⟨_, _, h, .begin hphase, run, hanswers, .finish rfl fun p hp => ?_⟩
  obtain ⟨a, -, rfl⟩ := List.mem_map.1 hp
  rfl

end Sequence

/-! ## Any order -/

section Order

variable {parts : List (List String × Program Reply (Except Failure Unit))} {o : Outside}
  {start : World χ}

def Turns (answerChain : Program.Answerer Chain.Call.Answer χ) (o : Outside)
    (parts : List (List String × Program Reply (Except Failure Unit))) (start : World χ)
    (sc : Scene χ) : Prop :=
  ∃ n running, sc.service.phase = .collecting n running ∧
    Abreast answerChain o parts start running sc.world

theorem Turns.step (hapart : Apart parts) {sc sc' : Scene χ} {e : Event} (he : e.IsAnswer)
    (h : Turns answerChain o parts start sc) (hstep : Step answerChain sc e sc') :
    Turns answerChain o parts start sc' := by
  obtain ⟨n, running, hphase, habreast⟩ := h
  cases hstep with
  | answer hp hi =>
    cases hphase.symm.trans hp
    rw [stepTracker_eq _ hp hi]
    exact ⟨n, _, rfl, habreast.step hapart hi⟩
  | _ => cases he

theorem Turns.run (hapart : Apart parts) {sc sc' : Scene χ} {h : List Event}
    (hanswers : ∀ e ∈ h, e.IsAnswer) (hturns : Turns answerChain o parts start sc)
    (hrun : Run answerChain sc h sc') : Turns answerChain o parts start sc' := by
  induction hrun with
  | refl => exact hturns
  | snoc _ hstep ih =>
    have hbefore := ih fun e he => hanswers e (List.mem_cons_of_mem _ he)
    exact hbefore.step hapart (hanswers _ List.mem_cons_self) hstep

variable {s : Service} {w : World χ} {account : Address} {feeds : List Feed} {retention n : Nat}

def partsOf (account : Address) (feeds : List Feed) (retention : Nat) :
    List (List String × Program Reply (Except Failure Unit)) :=
  (Duty.all account feeds).map fun d => (d.keys, (d.act retention).outcome)

/-- Each tracker leaves its keys as if it had run alone, and nobody touches any other key. -/
theorem Cycle.settles (hids : (feeds.map (·.requestId)).Nodup)
    (htrackers : s.trackers = Tracker.standard account feeds retention)
    (hw : Steady answerChain o w) {sc : Scene χ} (hcycle : Cycle answerChain ⟨s, w⟩ sc) :
    (∀ d ∈ Duty.all account feeds,
      Agrees d.keys sc.world ((d.act retention).outcome.run (World.answer answerChain) w).2) ∧
    ∀ key, (∀ d ∈ Duty.all account feeds, key ∉ d.keys) →
      sc.world.store.get key = w.store.get key := by
  obtain ⟨first, last, h, hbegin, hrun, hanswers, hend⟩ := hcycle
  have hapart : Apart (partsOf account feeds retention) :=
    List.pairwise_map.2 (Duty.pairwise_all hids)
  have hturns : Turns answerChain o (partsOf account feeds retention) w first := by
    cases hbegin with
    | @begin _ _ n hphase =>
      refine ⟨n, s.due, congrArg Service.phase (beginCycle_eq hphase), ?_⟩
      have hdue : s.due = (partsOf account feeds retention).map Prod.snd := by
        simp only [due, htrackers, Duty.standard_eq, partsOf, List.map_map]
        rfl
      rw [hdue]
      refine abreast_start hw fun part hpart => ?_
      obtain ⟨d, -, rfl⟩ := List.mem_map.1 hpart
      exact Duty.asks_act retention d
  obtain ⟨n, running, hphase, habreast⟩ := hturns.run hapart hanswers hrun
  cases hend with
  | finish hp hdone =>
    cases hphase.symm.trans hp
    refine ⟨fun d hd => ?_, fun key hkey => habreast.rest key fun part hpart => ?_⟩
    · exact habreast.finish hdone (List.mem_map_of_mem hd)
    · obtain ⟨d, hd, rfl⟩ := List.mem_map.1 hpart
      exact hkey d hd

/-- All ways through a cycle lead to the same records, which are those after one tracker has run
after another. A tracker leaves what it would have left alone; if it fails, it leaves its keys as
they were. No other key is touched. -/
theorem cycle_account (hids : (feeds.map (·.requestId)).Nodup)
    (htrackers : s.trackers = Tracker.standard account feeds retention)
    (hphase : s.phase = .waiting n) (hw : Steady answerChain o w) :
    Cycle answerChain ⟨s, w⟩ ⟨(s.runCycle (World.answer answerChain) w).1,
      (s.runCycle (World.answer answerChain) w).2⟩ ∧
    ∀ sc, Cycle answerChain ⟨s, w⟩ sc →
      (∀ key, sc.world.store.get key
        = (s.runCycle (World.answer answerChain) w).2.store.get key) ∧
      (∀ d ∈ Duty.all account feeds, ∀ key ∈ d.keys, sc.world.store.get key
        = ((d.act retention).outcome.run (World.answer answerChain) w).2.store.get key) ∧
      (∀ d ∈ Duty.all account feeds,
        (d.Lacks o ∨
          ∃ e, ((d.act retention).outcome.run (World.answer answerChain) w).1 = .error e) →
        ∀ key ∈ d.keys, sc.world.store.get key = w.store.get key) ∧
      (∀ key, (∀ d ∈ Duty.all account feeds, key ∉ d.keys) →
        sc.world.store.get key = w.store.get key) ∧
      ∀ slot, sc.world.store.get (Key.gasCost slot) = w.store.get (Key.gasCost slot) := by
  have hsequence := cycle_runCycle answerChain hphase w
  refine ⟨hsequence, fun sc hcycle => ?_⟩
  obtain ⟨halone, hrest⟩ := hcycle.settles hids htrackers hw
  obtain ⟨halone', hrest'⟩ := hsequence.settles hids htrackers hw
  refine ⟨fun key => ?_, halone, fun d hd hfails key hkey => ?_, hrest, fun slot => ?_⟩
  · by_cases howned : ∃ d ∈ Duty.all account feeds, key ∈ d.keys
    · obtain ⟨d, hd, hkey⟩ := howned
      exact (halone d hd key hkey).trans (halone' d hd key hkey).symm
    · have hnone : ∀ d ∈ Duty.all account feeds, key ∉ d.keys :=
        fun d hd hkey => howned ⟨d, hd, hkey⟩
      exact (hrest key hnone).trans (hrest' key hnone).symm
  · obtain ⟨e, he⟩ := hfails.elim (Duty.exists_error_act hw) id
    rw [halone d hd key hkey, Duty.allOrNothing_act retention d w e hw.isOpen he]
  · exact hrest _ fun d _ => d.gasCost_notMem_keys slot

end Order

section GasOnly

/-- A chain with a price of gas and without a round, and no time to ask for other prices. -/
def gasOnly : World Ledger where
  chain := { gasPrice := 10 }
  store := ⟨⟨[(["store"], .store [] true)]⟩, some ⟨["store"], true⟩⟩
  web := []
  patience := 0
  clock := 0
  birth := 0

theorem steady_gasOnly : Steady Ledger.answer (World.outside Ledger.answer gasOnly) gasOnly :=
  World.steady_ledger rfl fun _ => Nat.zero_le 1

def twoFeeds : List Feed := [Tracker.offered 1, { Tracker.offered 2 with requestId := 2 }]

/-- A service that waits for its first cycle. -/
def waiting : Service :=
  { Service.new (Tracker.standard 0 twoFeeds 60) ⟨[.down "store"], false⟩ 1 with
    lifecycle := .running, phase := .waiting 0 }

theorem lacks_gasOnly (n : Nat) :
    (Duty.price (Tracker.offered n)).Lacks (World.outside Ledger.answer gasOnly) := by
  have hfetch : ∀ site : Site, (site.fetch 0).1 = .error (.timeout .noTimeLeft) := by
    intro site
    rw [Site.fetch, Fetch.within, Fetch.runFrom, if_pos rfl]
  intro source _
  have hdocuments : (World.outside Ledger.answer gasOnly).documents source.url
      = .error (.timeout .noTimeLeft) := hfetch _
  rw [Duty.price?, hdocuments]

/-- The price of gas is written, and the trackers that find nothing write nothing. -/
theorem cycle_account_gasOnly : ∃ sc, Cycle Ledger.answer ⟨waiting, gasOnly⟩ sc ∧
    sc.world.store.get Key.gasPrice = .ok (some (Quantity.encode 10)) ∧
    sc.world.store.get Key.currentChallenge = .ok none ∧
    sc.world.store.get (Key.priceHistory 1) = .ok none := by
  have htrackers : waiting.trackers = Tracker.standard 0 twoFeeds 60 := rfl
  obtain ⟨hcycle, hall⟩ := cycle_account (by decide) htrackers rfl steady_gasOnly
  obtain ⟨-, halone, hlacks, -, -⟩ := hall _ hcycle
  refine ⟨_, hcycle, ?_, ?_, ?_⟩
  · exact halone .gasPrice (by simp [Duty.all]) _
      (by simp [Duty.keys, Duty.records, Key.Record.key])
  · exact hlacks .round (by simp [Duty.all]) (.inl ⟨_, rfl⟩) _
      (by simp [Duty.keys, Duty.records, Key.Record.key])
  · exact hlacks (.price (Tracker.offered 1)) (by simp [Duty.all, twoFeeds])
      (.inl (lacks_gasOnly 1)) _
      (by simp [Duty.keys, Duty.records, Key.Record.key, Tracker.offered])

end GasOnly

end Service
end PriceOracle
