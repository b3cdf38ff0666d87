import PriceOracle.Proofs.Coupling
import PriceOracle.Proofs.Feed.Duty
import PriceOracle.Proofs.Feed.Middle

/-!
# PriceOracle.Proofs.Feed.Tally

A run of a feed's tracker takes account of the prices that it finds, and of nothing else about its
sources.

* `sameEnd_of_perm`: neither the order of the prices nor the failures among them make a difference.
* `tally_account`: what a run depends on, what it leaves as it is, and when it fails.
-/

namespace PriceOracle
namespace Tracker

open Node Node.Action
open Program (Answerer)
open World (KeepsTo)

variable {χ : Type} {answerChain : Answerer Chain.Call.Answer χ} {feed : Feed} {retention : Nat}
  {sources : List Source} {w v : World χ}

/-- The worlds have one store and one time. -/
structure Alike (w v : World χ) : Prop where
  store : w.store = v.store
  now : w.now = v.now

/-- The runs end in the same way, and leave the same store. -/
def SameEnd {α : Type} (r r' : Except Failure α × World χ) : Prop :=
  r.1 = r'.1 ∧ r.2.store = r'.2.store

/-- With other sources a feed is the same otherwise. -/
def withSources (feed : Feed) (sources : List Source) : Feed := { feed with sources }

/-- Neither of the chain nor of the web. -/
def IsHousehold (op : Ask) : Prop := op.isAccess = true ∨ op = .now

theorem shares_household {op : Ask} (hop : IsHousehold op) :
    Shares (World.answer answerChain) (World.answer answerChain) Alike op := by
  intro w v h
  obtain ⟨hstore, hnow⟩ := h
  cases op with
  | chain | fetch => simp [IsHousehold, Ask.isAccess] at hop
  | get key =>
    simp only [World.answer, hstore]
    exact ⟨trivial, hstore, hnow⟩
  | put key value =>
    simp only [World.answer, hstore]
    exact ⟨trivial, rfl, hnow⟩
  | update key change =>
    simp only [World.answer, hstore]
    exact ⟨trivial, rfl, hnow⟩
  | now => exact ⟨hnow, hstore, hnow⟩

theorem asks_writeSample (feed : Feed) (retention : Nat) (price : Float) :
    Asks IsHousehold (writeSample feed retention price) := by
  refine (asks_ask (.inr rfl)).bind fun time => ?_
  exact (asks_update (.inl rfl)).bind fun _ => asks_put (.inl rfl)

theorem sameEnd_writeSample (h : Alike w v) (price : Float) :
    SameEnd ((writeSample feed retention price).outcome.run (World.answer answerChain) w)
      ((writeSample feed retention price).outcome.run (World.answer answerChain) v) := by
  have hasks := asks_writeSample feed retention price
  obtain ⟨hsame, halike⟩ :=
    run_of_shares (fun log op next hr => shares_household (hasks log op next hr)) h
  exact ⟨hsame, halike.store⟩

theorem medianOf_eq_of_perm {prices prices' : List Float} (h : prices.Perm prices') :
    medianOf prices = medianOf prices' := median_eq_of_perm (h.map _)

theorem medianOf_eq_none_iff {prices : List Float} : medianOf prices = none ↔ prices = [] :=
  median_eq_none_iff.trans List.map_eq_nil_iff

theorem sameEnd_of_perm (h : Alike v w)
    (hfound : (found answerChain sources v).Perm (found answerChain feed.sources w)) :
    SameEnd (runOf answerChain (withSources feed sources) retention v)
      (runOf answerChain feed retention w) := by
  obtain ⟨web, hrun⟩ := runOf_eq answerChain (withSources feed sources) retention v
  obtain ⟨web', hrun'⟩ := runOf_eq answerChain feed retention w
  have hprice : priceOf answerChain (withSources feed sources) v = priceOf answerChain feed w :=
    medianOf_eq_of_perm hfound
  rw [hrun, hrun', hprice]
  cases priceOf answerChain feed w with
  | none => exact ⟨rfl, h.store⟩
  | some price =>
    -- Asking the sources has changed the web only.
    have halike : Alike { v with web } { w with web := web' } := ⟨h.store, h.now⟩
    exact sameEnd_writeSample halike price

/-- The sources that have a price. -/
def answering (documents : String → Except Fetch.Error Bytes) (sources : List Source) :
    List Source := sources.filter fun source => (priceFrom documents source).isSome

theorem filterMap_answering (documents : String → Except Fetch.Error Bytes)
    (sources : List Source) : (answering documents sources).filterMap (priceFrom documents) =
      sources.filterMap (priceFrom documents) := by
  induction sources with
  | nil => rfl
  | cons source rest ih =>
    rw [answering] at ih ⊢
    cases hprice : priceFrom documents source <;> simp [hprice, ih]

theorem found_perm {documents : String → Except Fetch.Error Bytes} (h : Settled documents w)
    (hperm : (answering documents sources).Perm (answering documents feed.sources)) :
    (found answerChain sources w).Perm (found answerChain feed.sources w) := by
  rw [found_of_settled h, found_of_settled h, ← filterMap_answering, ← filterMap_answering documents
    feed.sources]
  exact hperm.filterMap _

theorem get_runOf_of_ne (hopen : w.store.records?.isSome) {key : String}
    (hhistory : key ≠ Key.priceHistory feed.requestId)
    (hvalue : key ≠ Key.queryValue feed.requestId) :
    (runOf answerChain feed retention w).2.store.get key = w.store.get key := by
  have hkeeps : KeepsTo (Duty.price feed).keys (writePrice feed retention).outcome :=
    Duty.asks_act retention (.price feed)
  refine hkeeps.get_run hopen ?_
  simp [Duty.keys, Duty.records, Key.Record.key, hhistory, hvalue]

/-- There is a record of the history, and it cannot be read. -/
def Malformed (feed : Feed) (w : World χ) : Prop :=
  ∃ raw, w.store.get (Key.priceHistory feed.requestId) = .ok (some raw) ∧
    History.decode? raw = none

theorem runOf_fails_iff (hopen : w.store.records?.isSome) :
    (∃ e, (runOf answerChain feed retention w).1 = .error e) ↔
      (outcomes answerChain feed.sources w).reduceOption = [] ∨ Malformed feed w := by
  rw [← found_eq, ← medianOf_eq_none_iff]
  obtain ⟨record, hget⟩ := World.exists_get hopen (Key.priceHistory feed.requestId)
  constructor
  · rintro ⟨e, he⟩
    by_contra hneither
    rw [not_or] at hneither
    obtain ⟨price, hprice⟩ := Option.ne_none_iff_exists'.1 hneither.1
    have hrecord : (historyOf record).isSome := by
      cases record with
      | none => rfl
      | some raw => exact Option.isSome_iff_ne_none.2 fun hnone => hneither.2 ⟨raw, hget, hnone⟩
    obtain ⟨h, hrecord⟩ := Option.isSome_iff_exists.1 hrecord
    cases (runOf_eq_ok_iff.2 ⟨price, record, h, hprice, hget, hrecord⟩).symm.trans he
  · rintro (hnone | ⟨raw, hget, hraw⟩)
    · exact ⟨_, (runOf_of_none hnone).1⟩
    · cases hprice : priceOf answerChain feed w with
      | none => exact ⟨_, (runOf_of_none hprice).1⟩
      | some price =>
        have hrecord : historyOf (some raw) = none := hraw
        exact ⟨_, (runOf_of_refused hprice hget (changeOf_of_malformed hrecord)).1⟩

/-- On an open store, a run depends on the prices that it finds, the store and the time. It is the
same with the sources in another order, or without those that have no price. It writes under two
keys only, fails if there is no price or the history cannot be read, and then writes nothing. -/
theorem tally_account (answerChain : Answerer Chain.Call.Answer χ) (feed : Feed) (retention : Nat)
    (hopen : w.store.records?.isSome) :
    (∀ sources (v : World χ), Alike v w →
      (outcomes answerChain sources v).reduceOption.Perm
        (outcomes answerChain feed.sources w).reduceOption →
      SameEnd (runOf answerChain (withSources feed sources) retention v)
        (runOf answerChain feed retention w)) ∧
    (∀ documents sources, Settled documents w →
      (answering documents sources).Perm (answering documents feed.sources) →
      SameEnd (runOf answerChain (withSources feed sources) retention w)
        (runOf answerChain feed retention w)) ∧
    (∀ key, key ≠ Key.priceHistory feed.requestId → key ≠ Key.queryValue feed.requestId →
      (runOf answerChain feed retention w).2.store.get key = w.store.get key) ∧
    ((∃ e, (runOf answerChain feed retention w).1 = .error e) ↔
      (∀ outcome ∈ outcomes answerChain feed.sources w, outcome = none) ∨ Malformed feed w) ∧
    ∀ e, (runOf answerChain feed retention w).1 = .error e →
      (runOf answerChain feed retention w).2.store = w.store := by
  refine ⟨fun sources v halike hperm => ?_, fun documents sources hsettled hperm => ?_,
    fun key => get_runOf_of_ne hopen, ?_, fun e => ?_⟩
  · rw [← found_eq, ← found_eq] at hperm
    exact sameEnd_of_perm halike hperm
  · exact sameEnd_of_perm ⟨rfl, rfl⟩ (found_perm hsettled hperm)
  · rw [runOf_fails_iff hopen, List.reduceOption, List.filterMap_eq_nil_iff]
    rfl
  · exact Duty.allOrNothing_act retention (.price feed) w e hopen

/-- A source where nobody answers, so that it makes no difference. -/
def silent : Source := ⟨"nowhere", []⟩

theorem tally_account_silent :
    (offering 100.0 0).store.records?.isSome ∧
      SameEnd (runOf noChain (withSources (offered 1) [silent, offer]) 3600 (offering 100.0 0))
        (runOf noChain (offered 1) 3600 (offering 100.0 0)) := by
  have hopen : (offering 100.0 0).store.records?.isSome := rfl
  have hshort : ∀ url, ((offering 100.0 0).siteAt url).script.length ≤ 1 := by
    intro url
    rw [World.siteAt]
    simp only [offering, Table.get?]
    split <;> simp
  have hsilent : priceFrom (documentsOf (offering 100.0 0)) silent = none := by
    obtain ⟨e, he⟩ : ∃ e, documentsOf (offering 100.0 0) "nowhere" = .error e :=
      exists_error_of_transport (fun _ => rfl) 0 0 1 .noTimeLeft
    simp only [priceFrom, silent, he]
  refine ⟨hopen, (tally_account noChain (offered 1) 3600 hopen).2.1 _ _
    (settled_of_short hshort) ?_⟩
  rw [answering, List.filter_cons_of_neg (by simp [hsilent])]
  rfl

end Tracker
end PriceOracle
