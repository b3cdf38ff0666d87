import PriceOracle.Chain.Ledger
import PriceOracle.Proofs.World

/-!
# PriceOracle.Proofs.Steady

A world in which nothing changes but the store, and programs that keep to some of its keys. Such a
program does not notice what becomes of other keys, and does nothing to them.

* `get_answer`: what an access makes of a record depends on the record alone.
* `Abreast.step`: of programs that take turns and have no keys in common, each comes as far as it
  would by itself.
* `Abreast.finish`: in the end its keys are as if it had run alone.
-/

namespace PriceOracle
namespace Node

/-- What is under a key after a question, by what was there before. -/
def Ask.after (key : String) (record : Option Bytes) : Ask → Option Bytes
  | .put key' value => if key' = key then some value else record
  | .update key' change =>
    if key' = key then
      match change record with
      | .ok value => some value
      | .error _ => record
    else record
  | _ => record

/-- The question changes nothing but records under these keys, and asks for no others. -/
def Confined (keys : List String) : Ask → Prop
  | .chain (.query _) | .fetch _ | .now => True
  | .chain (.send _) => False
  | .get key | .put key _ | .update key _ => key ∈ keys

theorem Confined.after_eq {keys : List String} {op : Ask} (h : Confined keys op) {key : String}
    (hkey : key ∉ keys) (record : Option Bytes) : op.after key record = record := by
  have apart : ∀ {key'}, key' ∈ keys → key' ≠ key := fun hmem heq => hkey (heq ▸ hmem)
  cases op with
  | put key' value => exact if_neg (apart h)
  | update key' change => exact if_neg (apart h)
  | _ => rfl

end Node

namespace World

open Chain (Ledger)
open Node
open Program (Reaches)
open Proxy (Local)

variable {χ α : Type}

/-- What there is to know of a world outside its store. -/
structure Outside where
  chain : (q : Chain.Query) → Except Chain.Error q.Answer
  documents : String → Except Fetch.Error Bytes
  time : Int

section Steady

variable (answerChain : Program.Answerer Chain.Call.Answer χ)

/-- A chain after some queries. -/
def asked (c : χ) (queries : List Chain.Query) : χ :=
  queries.foldl (fun c q => (answerChain (.query q) c).2) c

/-- The outside stays as it is, however often it is asked, and the store is open. -/
structure Steady (o : Outside) (w : World χ) : Prop where
  chain : ∀ queries q, (answerChain (.query q) (asked answerChain w.chain queries)).1 = o.chain q
  web : ∀ url hits, (Site.fetch ⟨(w.siteAt url).script, hits⟩ w.patience).1 = o.documents url
  time : w.now = o.time
  isOpen : w.store.records?.isSome

end Steady

/-- The worlds have the same records under these keys. -/
def Agrees (keys : List String) (w w' : World χ) : Prop :=
  ∀ key ∈ keys, w.store.get key = w'.store.get key

variable {answerChain : Program.Answerer Chain.Call.Answer χ} {o : Outside} {w v : World χ}
  {keys : List String}

theorem exists_get (h : w.store.records?.isSome) (key : String) :
    ∃ record, w.store.get key = .ok record := by
  obtain ⟨records, hr⟩ := Option.isSome_iff_exists.1 h
  exact ⟨_, Local.get_of_records hr key⟩

theorem get_answer {key : String} {record : Option Bytes} (h : w.store.get key = .ok record)
    (op : Ask) :
    (World.answer answerChain op w).2.store.get key = .ok (op.after key record) := by
  cases op with
  | put key' value => exact (Local.put_of_get h key' value).2.2
  | update key' change =>
    obtain ⟨records, hr, rfl⟩ := Local.records_of_get h
    have hupdate := Local.update_of_get (Local.get_of_records hr key') change
    simp only [World.answer, hupdate, Ask.after]
    cases hchange : change (records.get? key') with
    | error e =>
      by_cases hkey : key' = key
      · rw [if_pos hkey, ← hkey, hchange, Local.get_of_records hr]
      · rw [if_neg hkey, Local.get_of_records hr]
    | ok value =>
      rw [(Local.put_of_get h key' value).2.2]
      by_cases hkey : key' = key
      · rw [if_pos hkey, if_pos hkey, ← hkey, hchange]
      · rw [if_neg hkey, if_neg hkey]
  | _ => exact h

/-! ## Worlds that are steady -/

/-- The outside of a world as it is now. -/
def outside (answerChain : Program.Answerer Chain.Call.Answer χ) (w : World χ) : Outside where
  chain := fun q => (answerChain (.query q) w.chain).1
  documents := fun url => ((w.siteAt url).fetch w.patience).1
  time := w.now

theorem read_asked (l : Ledger) (queries : List Chain.Query) (q : Chain.Query) :
    (asked Ledger.answer l queries).read q = l.read q := by
  have hsearches : ∃ searches, asked Ledger.answer l queries = { l with searches } := by
    induction queries generalizing l with
    | nil => exact ⟨l.searches, rfl⟩
    | cons q rest ih =>
      obtain ⟨searches, h⟩ := ih (l.noteSearch q)
      refine ⟨searches, h.trans ?_⟩
      cases q <;> rfl
  obtain ⟨searches, h⟩ := hsearches
  rw [h]
  cases q <;> rfl

/-- A site with no more than one line in its script always answers the same. -/
theorem fetch_of_short {script : List Fetch.Outcome} (h : script.length ≤ 1) (hits hits' : Nat)
    (patience : Nat) :
    (Site.fetch ⟨script, hits⟩ patience).1 = (Site.fetch ⟨script, hits'⟩ patience).1 := by
  have hreply : ∀ hits n, (Site.mk script hits).reply n = (Site.mk script 0).reply 0 := by
    intro hits n
    match script, n with
    | [], _ | [_], 0 | [_], _ + 1 => rfl
  simp only [Site.fetch, hreply]

theorem steady_ledger {w : World Ledger} (hopen : w.store.records?.isSome)
    (hweb : ∀ url, (w.siteAt url).script.length ≤ 1) :
    Steady Ledger.answer (outside Ledger.answer w) w where
  chain := read_asked w.chain
  web := fun url hits => fetch_of_short (hweb url) hits _ w.patience
  time := rfl
  isOpen := hopen

/-! ## One question -/

/-- A site that is asked goes on by its script. -/
theorem script_fetch (w : World χ) (url url' : String) :
    ((World.answer answerChain (.fetch url) w).2.siteAt url').script
      = (w.siteAt url').script := by
  rw [siteAt]
  simp only [World.answer, Table.get?_put]
  split
  · next heq => rw [← heq]; rfl
  · rfl

theorem Steady.answer (h : Steady answerChain o w) {op : Ask} (hop : Confined keys op) :
    Steady answerChain o (World.answer answerChain op w).2 := by
  have hopen : (World.answer answerChain op w).2.store.records?.isSome :=
    (answer_of_open h.isOpen op).1
  obtain ⟨hchain, hweb, htime, -⟩ := h
  cases op with
  | chain call =>
    cases call with
    | query q => exact ⟨fun queries => hchain (q :: queries), hweb, htime, hopen⟩
    | send t => cases hop
  | fetch url =>
    refine ⟨hchain, fun url' hits => ?_, htime, hopen⟩
    rw [script_fetch]
    exact hweb url' hits
  | get | put | update | now => exact ⟨hchain, hweb, htime, hopen⟩

theorem Steady.query (h : Steady answerChain o w) (q : Chain.Query) :
    Steady answerChain o (World.answer answerChain (.chain (.query q)) w).2 := by
  have hop : Confined [] (.chain (.query q)) := trivial
  exact h.answer hop

/-- What is answered depends on the keys that are asked for. -/
theorem Agrees.reply (h : Agrees keys w v) (hw : Steady answerChain o w)
    (hv : Steady answerChain o v) {op : Ask} (hop : Confined keys op) :
    (World.answer answerChain op w).1 = (World.answer answerChain op v).1 := by
  cases op with
  | chain call =>
    cases call with
    | query q => exact (hw.chain [] q).trans (hv.chain [] q).symm
    | send t => cases hop
  | get key => exact congrArg stored (h key hop)
  | put key value =>
    obtain ⟨_, hwget⟩ := exists_get hw.isOpen key
    obtain ⟨_, hvget⟩ := exists_get hv.isOpen key
    simp only [World.answer, (Local.put_of_get hwget key value).1,
      (Local.put_of_get hvget key value).1]
  | update key change =>
    obtain ⟨record, hwget⟩ := exists_get hw.isOpen key
    have hvget := (h key hop).symm.trans hwget
    simp only [World.answer, Local.update_of_get hwget, Local.update_of_get hvget]
    cases change record <;> rfl
  | fetch url => exact (hw.web url _).trans (hv.web url _).symm
  | now => exact hw.time.trans hv.time.symm

theorem Agrees.answer (h : Agrees keys w v) (hw : w.store.records?.isSome) (op : Ask) :
    Agrees keys (World.answer answerChain op w).2 (World.answer answerChain op v).2 := by
  intro key hkey
  obtain ⟨record, hget⟩ := exists_get hw key
  rw [get_answer hget, get_answer ((h key hkey).symm.trans hget)]

theorem get_answer_of_confined (hw : w.store.records?.isSome) {op : Ask} (hop : Confined keys op)
    {key : String} (hkey : key ∉ keys) :
    (World.answer answerChain op w).2.store.get key = w.store.get key := by
  obtain ⟨record, hget⟩ := exists_get hw key
  rw [get_answer hget, hop.after_eq hkey, hget]

/-! ## Programs that take turns -/

/-- All that a program asks concerns these keys. -/
def KeepsTo (keys : List String) (p : Program Reply α) : Prop :=
  ∀ log op next, Reaches p log (.ask op next) → Confined keys op

theorem KeepsTo.confined {op : Ask} {next : Reply op → Program Reply α}
    (h : KeepsTo keys (.ask op next)) : Confined keys op := h [] op next (.refl _)

theorem KeepsTo.next {op : Ask} {next : Reply op → Program Reply α}
    (h : KeepsTo keys (.ask op next)) (r : Reply op) : KeepsTo keys (next r) :=
  fun log op' next' hreach => h (⟨op, r⟩ :: log) op' next' (.ask r hreach)

/-- A program leaves all records as they are that are not under its keys. -/
theorem KeepsTo.get_run {p : Program Reply α} (h : KeepsTo keys p) (hw : w.store.records?.isSome)
    {key : String} (hkey : key ∉ keys) :
    (p.run (World.answer answerChain) w).2.store.get key = w.store.get key := by
  induction p generalizing w with
  | done a => rfl
  | ask op next ih =>
    rw [Program.run_ask, ih _ (h.next _) (answer_of_open hw op).1]
    exact get_answer_of_confined hw h.confined hkey

/-- No two parts have a key in common. -/
def Apart (parts : List (List String × Program Reply α)) : Prop :=
  parts.Pairwise fun part part' => ∀ key ∈ part.1, key ∉ part'.1

theorem Apart.notMem {parts : List (List String × Program Reply α)} (h : Apart parts) {i j : Nat}
    (hij : i ≠ j) {part part' : List String × Program Reply α} (hi : parts[i]? = some part)
    (hj : parts[j]? = some part') {key : String} (hkey : key ∈ part.1) : key ∉ part'.1 := by
  obtain ⟨hilt, rfl⟩ := List.getElem?_eq_some_iff.1 hi
  obtain ⟨hjlt, rfl⟩ := List.getElem?_eq_some_iff.1 hj
  obtain hlt | hlt := Nat.lt_or_gt_of_ne hij
  · exact List.pairwise_iff_getElem.1 h i j hilt hjlt hlt key hkey
  · exact fun hkey' => List.pairwise_iff_getElem.1 h j i hjlt hilt hlt key hkey' hkey

/-- The programs have come to where they are by turns. Each of them is as far as it would be by
itself, in a world of its own that has the same records under its keys. -/
structure Abreast (answerChain : Program.Answerer Chain.Call.Answer χ) (o : Outside)
    (parts : List (List String × Program Reply α)) (start : World χ)
    (running : List (Program Reply α)) (w : World χ) : Prop where
  steady : Steady answerChain o w
  length : running.length = parts.length
  part : ∀ (i : Nat) keys p₀ p, parts[i]? = some (keys, p₀) → running[i]? = some p →
    ∃ v, Steady answerChain o v ∧ Agrees keys w v ∧ KeepsTo keys p ∧
      p.run (World.answer answerChain) v = p₀.run (World.answer answerChain) start
  rest : ∀ key, (∀ part ∈ parts, key ∉ part.1) → w.store.get key = start.store.get key

section Abreast

variable {parts : List (List String × Program Reply α)} {start : World χ}
  {running : List (Program Reply α)}

theorem abreast_start (hsteady : Steady answerChain o w)
    (hkeeps : ∀ part ∈ parts, KeepsTo part.1 part.2) :
    Abreast answerChain o parts w (parts.map Prod.snd) w where
  steady := hsteady
  length := List.length_map _
  part := by
    intro i keys p₀ p hpart hp
    rw [List.getElem?_map, hpart] at hp
    cases hp
    exact ⟨w, hsteady, fun _ _ => rfl, hkeeps _ (List.mem_of_getElem? hpart), rfl⟩
  rest := fun _ _ => rfl

theorem Abreast.step (h : Abreast answerChain o parts start running w)
    (hapart : Apart parts) {i : Nat} {op : Ask} {next : Reply op → Program Reply α}
    (hi : running[i]? = some (.ask op next)) :
    Abreast answerChain o parts start (running.set i (next (World.answer answerChain op w).1))
      (World.answer answerChain op w).2 := by
  have hlt : i < parts.length := h.length ▸ (List.getElem?_eq_some_iff.1 hi).1
  obtain ⟨⟨keys, p₀⟩, hpart⟩ : ∃ part, parts[i]? = some part := ⟨_, List.getElem?_eq_getElem hlt⟩
  obtain ⟨v, hv, hagrees, hkeeps, hrun⟩ := h.part i keys p₀ _ hpart hi
  have hop := hkeeps.confined
  refine ⟨h.steady.answer hop, (List.length_set ..).trans h.length, ?_, ?_⟩
  · intro j keys' p₀' p hpart' hp
    by_cases hij : i = j
    · -- The one that asks hears what it would hear in its own world.
      subst hij
      rw [List.getElem?_set_self (List.getElem?_eq_some_iff.1 hi).1] at hp
      cases hp
      cases hpart.symm.trans hpart'
      refine ⟨_, hv.answer hop, hagrees.answer h.steady.isOpen op, hkeeps.next _, ?_⟩
      rw [hagrees.reply h.steady hv hop]
      exact hrun
    · -- Nothing has changed under the keys of any other one.
      rw [List.getElem?_set_ne hij] at hp
      obtain ⟨v', hv', hagrees', hkeeps', hrun'⟩ := h.part j keys' p₀' p hpart' hp
      refine ⟨v', hv', fun key hkey => ?_, hkeeps', hrun'⟩
      have hother := hapart.notMem (Ne.symm hij) hpart' hpart hkey
      rw [get_answer_of_confined h.steady.isOpen hop hother]
      exact hagrees' key hkey
  · intro key hkey
    rw [get_answer_of_confined h.steady.isOpen hop (hkey _ (List.mem_of_getElem? hpart))]
    exact h.rest key hkey

theorem Abreast.finish (h : Abreast answerChain o parts start running w)
    (hdone : ∀ p ∈ running, p.result?.isSome = true) {part : List String × Program Reply α}
    (hpart : part ∈ parts) :
    Agrees part.1 w (part.2.run (World.answer answerChain) start).2 := by
  obtain ⟨i, hi⟩ := List.mem_iff_getElem?.1 hpart
  have hlt : i < running.length := h.length ▸ (List.getElem?_eq_some_iff.1 hi).1
  obtain ⟨v, -, hagrees, -, hrun⟩ := h.part i _ _ _ hi (List.getElem?_eq_getElem hlt)
  have hresult := hdone _ (List.getElem_mem hlt)
  cases hp : running[i] with
  | ask op next =>
    rw [hp] at hresult
    cases hresult
  | done a =>
    rw [hp] at hrun
    rw [← hrun]
    exact hagrees

end Abreast

end World
end PriceOracle
