import Mathlib.Data.BitVec
import PriceOracle.Proofs.Mining.Cost
import PriceOracle.Proofs.Store.Migration

/-!
# PriceOracle.Proofs.Mining.Restart

The costs in a file over many runs of the node. Each run opens the file for a fresh crew, which
counts its submissions from the beginning, while the costs of the runs before are still in their
slots.

* `NodeRun.find`: what one run leaves in a slot.
* `find_of_runs`: from which submission the cost in a slot is, after any number of runs.
* `slots_account`: when the slots hold the costs of the latest submissions.
* `Free.exists_runs`: runs with any numbers of submissions come about.
* `exists_forgotten`: a second run that begins in the midst of the slots forgets.
-/

namespace PriceOracle
namespace Mining

open Chain
open Proxy (Local)
open Store (Place Path Disk Records outlives)

variable {χ : Type} {answerChain : Program.Answerer Call.Answer χ} {path : Path} {file : Place}
  {d d' : Disk}

/-- A run of the node. The store in a file is opened for a fresh crew of one worker, and when the
worker is at rest it is closed. -/
inductive NodeRun (answerChain : Program.Answerer Call.Answer χ) (path : Path) (file : Place)
    (d : Disk) : List Word → Disk → Prop where
  | mk {account : Address} {settings : Settings} {w : World χ} {h : List (Moment (World χ))}
      {sc : Scene (World χ)} : settings.workers = 1 →
      Local.openAt (Disk.migrate path) ⟨d, none⟩ = (.ok (), w.store) →
      w.store.cell = some ⟨file, true⟩ →
      Run (sparing answerChain) (begin account settings w) h sc →
      sc.phases.all Phase.isAtRest = true →
      NodeRun answerChain path file d (costs h) sc.world.store.close.disk

/-- Runs of the node on one file, with the costs of their submissions. The latest one is first. -/
inductive Runs (answerChain : Program.Answerer Call.Answer χ) (path : Path) (file : Place)
    (d : Disk) : List (List Word) → Disk → Prop where
  | none : Runs answerChain path file d [] d
  | next {runs : List (List Word)} {cs : List Word} {d' d'' : Disk} :
      Runs answerChain path file d runs d' → NodeRun answerChain path file d' cs d'' →
      Runs answerChain path file d (cs :: runs) d''

theorem encode_ne_nil (w : Word) : Quantity.encode w ≠ [] := by
  intro h
  cases Utf8.encode_eq_nil.1 h

theorem outlives_gasCost {slot : Nat} (hslot : slot < Key.gasCostSlots) {value : Option Bytes}
    (h : ∀ raw, value = some raw → raw ≠ []) : outlives (Key.gasCost slot) value = value := by
  rw [outlives, if_pos ⟨slot, hslot, rfl⟩]
  cases value with
  | none => rfl
  | some raw => exact Option.filter_some_pos (by simpa using h raw rfl)

theorem openAt_migrate {l : Local}
    (h : Local.openAt (Disk.migrate path) ⟨d, none⟩ = (.ok (), l)) :
    ∃ handle, l.cell = some handle ∧ d.migrate path = (.ok handle, l.disk) := by
  unfold Local.openAt at h
  split at h
  · next handle disk heq =>
    cases h
    exact ⟨handle, rfl, heq⟩
  · cases h

theorem find_of_get {l : Local} {key : String} {record : Option Bytes}
    (hcell : l.cell = some ⟨file, true⟩) (h : l.get key = .ok record) :
    l.disk.find file key = record := by
  obtain ⟨records, hrecords, rfl⟩ := Local.records_of_get h
  rw [Local.records?, hcell, Option.bind_some, Disk.records?_eq, if_pos rfl] at hrecords
  obtain ⟨stored, hstored, rfl⟩ := Option.map_eq_some_iff.1 hrecords
  rw [Disk.find, hstored, Option.bind_some]

/-- What one run leaves in a slot. -/
theorem NodeRun.find {cs : List Word} (run : NodeRun answerChain path file d cs d') {slot : Nat}
    (hslot : slot < Key.gasCostSlots) :
    d'.find file (Key.gasCost slot)
      = inSlot (outlives (Key.gasCost slot) (d.find file (Key.gasCost slot))) slot cs := by
  obtain ⟨hworkers, hopen, hcell, run, hrest⟩ := run
  next account settings w h sc =>
  obtain ⟨handle, hhandle, hmigrate⟩ := openAt_migrate hopen
  obtain rfl : handle = ⟨file, true⟩ := Option.some.inj (hhandle.symm.trans hcell)
  have hopens := Disk.opens_migrate path d
  rw [hmigrate] at hopens
  obtain ⟨-, -, hget, -⟩ := hopens.ok
  have filled : Filled (fun slot => outlives (Key.gasCost slot) (d.find file (Key.gasCost slot)))
      [] w.store := by
    intro slot hslot
    rw [Local.get, hcell]
    exact hget _
  have hafter := filled_of_run hworkers filled run hrest slot hslot
  have hcell' : sc.world.store.cell = some ⟨file, true⟩ := (cell_run run).trans hcell
  rw [Local.close, hcell']
  exact (Disk.find_close _ _ _ _).trans (find_of_get hcell' hafter)

/-- From which submission the cost in a slot is, when no costs were in the file at first. -/
theorem find_of_runs {runs : List (List Word)}
    (fresh : ∀ slot < Key.gasCostSlots, d.find file (Key.gasCost slot) = none)
    (h : Runs answerChain path file d runs d') {slot : Nat} (hslot : slot < Key.gasCostSlots) :
    d'.find file (Key.gasCost slot)
      = (origin slot (runs.map List.length)).bind fun age =>
          runs.flatten[age]?.map Quantity.encode := by
  induction h with
  | none => exact fresh slot hslot
  | @next runs cs d' d'' _ run ih =>
    have kept : outlives (Key.gasCost slot) (d'.find file (Key.gasCost slot))
        = d'.find file (Key.gasCost slot) := by
      refine outlives_gasCost hslot fun raw hraw => ?_
      rw [ih] at hraw
      obtain ⟨age, -, hcost⟩ := Option.bind_eq_some_iff.1 hraw
      obtain ⟨cost, -, rfl⟩ := Option.map_eq_some_iff.1 hcost
      exact encode_ne_nil cost
    rw [run.find hslot, kept, ih, inSlot_eq hslot, List.map_cons, origin, List.flatten_cons]
    by_cases hlt : slot < cs.length
    · have hage := Nat.mod_le (cs.length - 1 - slot) Key.gasCostSlots
      rw [if_pos hlt, if_pos hlt, Option.bind_some, List.getElem?_append_left (by omega)]
    · rw [if_neg hlt, if_neg hlt, Option.bind_map]
      congr 1
      funext age
      rw [Function.comp, List.getElem?_append_right (by omega), Nat.add_sub_cancel_left]

section Occasion

/-- A world that nobody but the crew changes. -/
def quiet (answerChain : Program.Answerer Call.Answer χ) : Surroundings (World χ) where
  answer := World.answer answerChain
  change _ _ := False

/-- The way to the file is there, and its store is open in the cell. -/
structure Installed (path : Path) (file : Place) (l : Local) : Prop where
  leads : Disk.Leads l.disk path file
  stored : ∃ records, l.disk.stored? file = some (records, true)
  cell : l.cell = some ⟨file, true⟩

/-- A path leads to a file that nobody holds. -/
structure Free (path : Path) (file : Place) (d : Disk) : Prop where
  target : d.target path = .ok file
  unheld : ∀ records, d.stored? file ≠ some (records, true)

namespace Installed

variable {l : Local}

theorem set (h : Installed path file l) (records : Records) :
    Installed path file ⟨l.disk.set file (.store records true), l.cell⟩ where
  leads := h.leads.set records true
  stored := ⟨records, by rw [Disk.stored?_set, if_pos rfl]⟩
  cell := h.cell

theorem records_eq (h : Installed path file l) {records : Records}
    (hstored : l.disk.stored? file = some (records, true)) : l.records? = some records := by
  rw [Local.records?, h.cell, Option.bind_some, Disk.records?_of_stored rfl hstored]

theorem put (h : Installed path file l) (key : String) (value : Bytes) :
    Installed path file (l.put key value).2 := by
  obtain ⟨records, hstored⟩ := h.stored
  have hput := Disk.put_of_stored (h := ⟨file, true⟩) rfl hstored key value
  simp only [Local.put, h.cell, hput]
  have rewritten := h.set (records.put key value)
  rw [h.cell] at rewritten
  exact rewritten

theorem answer {w : World χ} (h : Installed path file w.store) (op : Node.Ask) :
    Installed path file (World.answer answerChain op w).2.store := by
  cases op with
  | put key value => exact h.put key value
  | update key change =>
    obtain ⟨records, hstored⟩ := h.stored
    have hget := Local.get_of_records (h.records_eq hstored) key
    simp only [World.answer, Local.update_of_get hget]
    split
    · exact h.put key _
    · exact h
  | _ => exact h

theorem run {start sc : Scene (World χ)} {h : List (Moment (World χ))}
    (hstart : Installed path file start.world.store) (run : Run (quiet answerChain) start h sc) :
    Installed path file sc.world.store := by
  induction run with
  | refl => exact hstart
  | snoc _ step ih =>
    obtain ⟨_, _, question, _, _, -, rfl⟩ | ⟨_, _, _, _, _, -, rfl⟩ | ⟨_, hchange, -, -⟩ |
      ⟨-, rfl⟩ := step.cases
    · exact ih.answer question.op
    · exact ih
    · exact hchange.elim
    · exact ih

theorem close (h : Installed path file l) : Free path file l.close.disk := by
  obtain ⟨records, hstored⟩ := h.stored
  have hclose := Disk.close_of_stored (h := ⟨file, true⟩) rfl hstored
  simp only [Local.close, h.cell, hclose]
  refine ⟨(h.leads.set records false).target (Disk.entry?_set_self ..), fun others hothers => ?_⟩
  rw [Disk.stored?_set, if_pos rfl] at hothers
  cases hothers

end Installed

theorem Free.openAt (h : Free path file d) :
    ∃ l, Local.openAt (Disk.migrate path) ⟨d, none⟩ = (.ok (), l) ∧ Installed path file l := by
  have hopens := Disk.opens_migrate path d
  obtain ⟨handle, d', hmigrate⟩ := hopens.isOk_iff.2 ⟨file, h.target, h.unheld⟩
  rw [hmigrate] at hopens
  cases hopens with
  | taken htarget _ leads _ hentry _ =>
    rw [h.target] at htarget
    cases htarget
    refine ⟨⟨d', some ⟨file, true⟩⟩, ?_, leads, ⟨_, Disk.stored?_eq_some.2 hentry⟩, rfl⟩
    simp only [Local.openAt, hmigrate]
    rfl

/-- The records of the easiest round. -/
def easyRecords : Records :=
  [(Key.disputeStatus, Quantity.encode 1), (Key.currentChallenge, Word.toBytes 0),
    (Key.currentRequestId, Quantity.encode 1), (Key.currentDifficulty, Quantity.encode 1),
    (Key.queryValue 1, Quantity.encode 100), (Key.gasPrice, Quantity.encode 0)]

theorem stores_easyRecords (records : Records) : Stores 0 (easyRecords ++ records) := by
  constructor <;> rfl

theorem get?_append_of_notMem {t u : Records} {key : String} (h : key ∉ t.map Prod.fst) :
    Table.get? (t ++ u) key = Table.get? u key := by
  induction t with
  | nil => rfl
  | cons p rest ih =>
    rw [List.map_cons, List.mem_cons, not_or] at h
    rw [List.cons_append, Table.get?, if_neg (Ne.symm h.1), ih h.2]

theorem get?_easyRecords (records : Records) {slot : Nat} (hslot : slot < Key.gasCostSlots) :
    Table.get? (easyRecords ++ records) (Key.gasCost slot)
      = Table.get? records (Key.gasCost slot) := by
  have apart : ∀ slot : Fin Key.gasCostSlots, Key.gasCost slot ∉ easyRecords.map Prod.fst := by
    decide
  exact get?_append_of_notMem (apart ⟨slot, hslot⟩)

/-- A worker that has made so many submissions is ready for a round that it has not claimed. -/
structure Awaits (path : Path) (file : Place) (n : Nat) (sc : Scene (World Ledger)) : Prop where
  ready : sc.phases = [.ready]
  retained : sc.crew.dismissed = false
  searches : sc.crew.settings.cap ≠ 0
  counted : sc.crew.submissions = n
  installed : Installed path file sc.world.store
  round : ∃ c, Presents c sc.world ∧ sc.crew.lastClaimed ≠ some c

theorem Installed.change_challenge {w : World χ} (h : Installed path file w.store)
    (challenge : Bytes) :
    (sparing answerChain).change w
      { w with store := (w.store.put Key.currentChallenge challenge).2 } := by
  refine ⟨(h.put _ _).cell.trans h.cell.symm, fun slot hslot => ?_⟩
  obtain ⟨records, hstored⟩ := h.stored
  have hget := Local.get_of_records (h.records_eq hstored) (Key.gasCost slot)
  have apart : ∀ slot : Fin Key.gasCostSlots, Key.currentChallenge ≠ Key.gasCost slot := by decide
  rw [(Local.put_of_get hget _ _).2.2, if_neg (apart ⟨slot, hslot⟩), hget]

/-- It makes a submission, and another round is put into the store. -/
theorem Awaits.next {n : Nat} {sc : Scene (World Ledger)} (awaits : Awaits path file n sc) :
    ∃ h sc', Run (sparing Ledger.answer) sc h sc' ∧ Awaits path file (n + 1) sc' := by
  obtain ⟨crew, phases, w⟩ := sc
  obtain ⟨rfl, retained, searches, counted, installed, c, present, unclaimed⟩ := awaits
  have ready : [Phase.ready][0]? = some .ready := rfl
  have search := plays_search crew ready present retained searches unclaimed (Nonce.ofNat 0)
  have claiming : [Phase.claiming (easyRound c) (Nonce.ofNat 0)][0]? = some _ := rfl
  obtain ⟨w', present', submit⟩ := plays_submit crew claiming present unclaimed
  obtain ⟨h, run, -, -⟩ := search.trans submit
  have installed' : Installed path file w'.store :=
    Installed.run installed (run (quiet Ledger.answer) rfl)
  have worked := run (sparing Ledger.answer) rfl
  refine ⟨_, _, worked.snoc (.change (installed'.change_challenge (c + 1).toBytes)), rfl, retained,
    searches, congrArg (· + 1) counted, installed'.put _ _, c + 1, present'.put_challenge _, ?_⟩
  simp

theorem Installed.exists_awaits {l : Local} (installed : Installed path file l) (n : Nat) :
    ∃ w h sc, w.store = l ∧ Run (sparing Ledger.answer) (begin 0 {} w) h sc ∧
      Awaits path file n sc := by
  let w : World Ledger := ⟨{}, l, [], 0, 0, 0⟩
  refine ⟨w, ?_⟩
  induction n with
  | zero =>
    obtain ⟨records, hstored⟩ := installed.stored
    let l' : Local := ⟨l.disk.set file (.store (easyRecords ++ records) true), l.cell⟩
    have installed' : Installed path file l' := installed.set _
    have hrecords : l'.records? = some (easyRecords ++ records) :=
      installed'.records_eq (by rw [Disk.stored?_set, if_pos rfl])
    have offered : (sparing Ledger.answer).change w { w with store := l' } := by
      refine ⟨rfl, fun slot hslot => ?_⟩
      show l'.get _ = l.get _
      rw [Local.get_of_records hrecords, get?_easyRecords records hslot,
        Local.get_of_records (installed.records_eq hstored)]
    have present : Presents 0 { w with store := l' } :=
      ⟨rfl, rfl, rfl, _, hrecords, stores_easyRecords records⟩
    exact ⟨_, _, rfl, .snoc (.refl _) (.change offered), rfl, rfl, show defaultCap ≠ 0 by decide,
      rfl, installed', 0, present, nofun⟩
  | succ n ih =>
    obtain ⟨h, sc, hw, run, awaits⟩ := ih
    obtain ⟨h', sc', run', awaits'⟩ := awaits.next
    exact ⟨_, _, hw, run.trans run', awaits'⟩

/-- A run of the node with any number of submissions. -/
theorem Free.exists_nodeRun (free : Free path file d) (n : Nat) :
    ∃ cs d', cs.length = n ∧ NodeRun Ledger.answer path file d cs d' ∧ Free path file d' := by
  obtain ⟨l, hopen, installed⟩ := free.openAt
  obtain ⟨w, h, sc, rfl, run, awaits⟩ := installed.exists_awaits n
  obtain ⟨records, hstored⟩ := installed.stored
  have filled : Filled (fun slot => records.get? (Key.gasCost slot)) [] w.store :=
    fun slot _ => Local.get_of_records (installed.records_eq hstored) _
  have counted := (books_run rfl filled run).counted
  refine ⟨costs h, _, counted.symm.trans awaits.counted, ?_, awaits.installed.close⟩
  exact .mk rfl hopen installed.cell run (by rw [awaits.ready]; rfl)

/-- Runs of the node with any numbers of submissions. -/
theorem Free.exists_runs (free : Free path file d) (counts : List Nat) :
    ∃ runs d', runs.map List.length = counts ∧ Runs Ledger.answer path file d runs d' ∧
      Free path file d' := by
  induction counts with
  | nil => exact ⟨[], d, rfl, .none, free⟩
  | cons n rest ih =>
    obtain ⟨runs, d', rfl, earlier, free'⟩ := ih
    obtain ⟨cs, d'', rfl, run, free''⟩ := free'.exists_nodeRun n
    exact ⟨cs :: runs, d'', rfl, earlier.next run, free''⟩

theorem free_empty : Free ⟨[.down "s"], false⟩ ["s"] Disk.empty where
  target := by
    have hlegal : Store.Path.isLegal "s" = true := by simp +decide [Store.Path.isLegal]
    have hlocate : Disk.empty.locate [.down "s"] = some ["s"] :=
      Disk.locate_down hlegal (by decide) _
    have habove : Disk.empty.addAbove ⟨[.down "s"], false⟩ = (true, .empty) := rfl
    simp only [Disk.target, habove, hlocate]
    rfl
  unheld := nofun

end Occasion

/-- The cost in each slot is from the submission that `origin` tells. When no run has begun in the
midst of the latest submissions, the slots hold their costs; and only then, if all costs differ. -/
theorem slots_account {runs : List (List Word)}
    (fresh : ∀ slot < Key.gasCostSlots, d.find file (Key.gasCost slot) = none)
    (h : Runs answerChain path file d runs d') :
    (∀ slot < Key.gasCostSlots, d'.find file (Key.gasCost slot)
      = (origin slot (runs.map List.length)).bind fun age =>
          runs.flatten[age]?.map Quantity.encode) ∧
    (Unbroken (runs.map List.length) →
      Remembers (fun slot => d'.find file (Key.gasCost slot)) runs.flatten) ∧
    (runs.flatten.Nodup → Remembers (fun slot => d'.find file (Key.gasCost slot)) runs.flatten →
      Unbroken (runs.map List.length)) := by
  have hslots : ∀ slot < Key.gasCostSlots, d'.find file (Key.gasCost slot) = _ :=
    fun slot hslot => find_of_runs fresh h hslot
  have hsum : (runs.map List.length).sum = runs.flatten.length := List.length_flatten.symm
  exact ⟨hslots, remembers_of_unbroken hsum hslots, unbroken_of_remembers hsum hslots⟩

/-- A run of six submissions and one of two after it: the latest six are remembered. -/
theorem slots_account_sixAndTwo :
    (∀ slot < Key.gasCostSlots, Disk.empty.find ["s"] (Key.gasCost slot) = none) ∧
    ∃ runs d, runs.map List.length = [2, 6] ∧
      Runs Ledger.answer ⟨[.down "s"], false⟩ ["s"] Disk.empty runs d ∧
      Remembers (fun slot => d.find ["s"] (Key.gasCost slot)) runs.flatten := by
  obtain ⟨runs, d, hcounts, work, -⟩ := free_empty.exists_runs [2, 6]
  have unbroken : Unbroken (runs.map List.length) := by
    rw [hcounts]
    exact .inr rfl
  exact ⟨fun _ _ => rfl, runs, d, hcounts, work,
    (slots_account (fun _ _ => rfl) work).2.1 unbroken⟩

/-- A second run that makes one submission forgets the one of the first run. -/
theorem exists_forgotten :
    ∃ cost cost' d, Runs Ledger.answer ⟨[.down "s"], false⟩ ["s"] Disk.empty [[cost'], [cost]] d ∧
      ¬Remembers (fun slot => d.find ["s"] (Key.gasCost slot)) [cost', cost] := by
  obtain ⟨cs, d, hcs, run, free⟩ := free_empty.exists_nodeRun 1
  obtain ⟨cost, rfl⟩ := List.length_eq_one_iff.1 hcs
  obtain ⟨cs, d', hcs, run', -⟩ := free.exists_nodeRun 1
  obtain ⟨cost', rfl⟩ := List.length_eq_one_iff.1 hcs
  have runs := (Runs.none.next run).next run'
  refine ⟨cost, cost', d', runs, fun remembers => ?_⟩
  have hread : (List.range Key.gasCostSlots).filterMap
        (fun slot => d'.find ["s"] (Key.gasCost slot))
      = [Quantity.encode cost'] :=
    List.filterMap_congr fun slot hslot =>
      find_of_runs (fun _ _ => rfl) runs (List.mem_range.1 hslot)
  rw [Remembers, hread] at remembers
  cases remembers.length_eq

end Mining
end PriceOracle
