import PriceOracle.Proofs.Feed.Outcomes

/-!
# PriceOracle.Proofs.Feed.Duty

What each of the standard trackers has to do, and which records it keeps.

* `pairwise_all`: no two trackers have a key in common, unless two feeds have one request.
* `asks_act`: a tracker keeps to its own keys.
* `allOrNothing_act`: a tracker that fails leaves the store as it was.
* `exists_error_act`: without an answer from the chain, or without a price, it fails.
-/

namespace PriceOracle
namespace Tracker

open Node Node.Action
open World (Outside Steady)

inductive Duty where
  | stakeStatus (account : Address)
  | round
  | gasPrice
  | balances (account : Address)
  | price (feed : Feed)

namespace Duty

variable {χ : Type} {answerChain : Program.Answerer Chain.Call.Answer χ} {o : Outside}
  {w : World χ} {retention : Nat} {d : Duty}

def all (account : Address) (feeds : List Feed) : List Duty :=
  [.stakeStatus account, .round, .gasPrice, .balances account] ++ feeds.map .price

def name : Duty → String
  | .stakeStatus _ => "stake_status"
  | .round => "current_variables"
  | .gasPrice => "gas"
  | .balances _ => "balance"
  | .price feed => feed.symbol

def act (retention : Nat) : Duty → Action Unit
  | .stakeStatus account => writeStatus account
  | .round => writeRound
  | .gasPrice => writeGasPrice
  | .balances account => writeBalances account
  | .price feed => writePrice feed retention

def tracker (retention : Nat) (d : Duty) : Tracker := ⟨d.name, fun _ => d.act retention⟩

theorem standard_eq (account : Address) (feeds : List Feed) (retention : Nat) :
    standard account feeds retention = (all account feeds).map (tracker retention) := by
  rw [standard, all, List.map_append, List.map_map]
  rfl

/-! ## Keys -/

def records : Duty → List Key.Record
  | .stakeStatus _ => [.disputeStatus]
  | .round => [.currentChallenge, .currentRequestId, .currentDifficulty]
  | .gasPrice => [.gasPrice]
  | .balances _ => [.ethBalance, .tokenBalance]
  | .price feed => [.priceHistory feed.requestId, .queryValue feed.requestId]

def keys (d : Duty) : List String := d.records.map Key.Record.key

theorem key_mem_keys {r : Key.Record} : r.key ∈ d.keys ↔ r ∈ d.records :=
  List.mem_map_of_injective fun _ _ => Key.Record.key_inj.1

theorem notMem_keys {d' : Duty} (h : ∀ r ∈ d.records, r ∉ d'.records) :
    ∀ key ∈ d.keys, key ∉ d'.keys := by
  intro key hkey
  obtain ⟨r, hr, rfl⟩ := List.mem_map.1 hkey
  rw [key_mem_keys]
  exact h r hr

theorem pairwise_all {account : Address} {feeds : List Feed}
    (hids : (feeds.map (·.requestId)).Nodup) :
    (all account feeds).Pairwise fun d d' => ∀ key ∈ d.keys, key ∉ d'.keys := by
  refine List.Pairwise.imp notMem_keys (List.pairwise_append.2 ⟨?_, ?_, ?_⟩)
  · simp [records]
  · rw [List.pairwise_map]
    refine (List.pairwise_map.1 hids).imp fun hne => ?_
    simp [records, hne]
  · intro d hd d' hd'
    obtain ⟨feed, -, rfl⟩ := List.mem_map.1 hd'
    simp only [List.mem_cons, List.not_mem_nil, or_false] at hd
    obtain rfl | rfl | rfl | rfl := hd <;> simp [records]

/-- The costs of submissions are in nobody's care. -/
theorem gasCost_notMem_keys (d : Duty) (slot : Nat) : Key.gasCost slot ∉ d.keys := by
  have h : Key.Record.gasCost slot ∉ d.records := by cases d <;> simp [records]
  exact fun hkey => h (key_mem_keys.1 hkey)

theorem confined_put {r : Key.Record} (hr : r ∈ d.records) (value : Bytes) :
    Confined d.keys (.put r.key value) := key_mem_keys.2 hr

theorem asks_prices {keys : List String} (sources : List Source) :
    Asks (Confined keys) (prices sources) := by
  induction sources with
  | nil => exact asks_pure _
  | cons source rest ih =>
    refine Asks.bind ((asks_ask trivial).bind fun r => ?_) fun _ => ih.bind fun _ => asks_pure _
    match r with
    | .ok _ | .error _ => exact asks_pure _

theorem asks_act (retention : Nat) (d : Duty) : Asks (Confined d.keys) (d.act retention) := by
  have put : ∀ r ∈ d.records, ∀ value, Asks (Confined d.keys) (put r.key value) :=
    fun r hr value => asks_put (confined_put hr value)
  cases d with
  | stakeStatus account =>
    exact (asks_query trivial).bind fun _ => put .disputeStatus (by simp [records]) _
  | round =>
    refine (asks_query trivial).bind fun _ => ?_
    refine (put .currentChallenge (by simp [records]) _).bind fun _ => ?_
    refine (put .currentRequestId (by simp [records]) _).bind fun _ => ?_
    exact put .currentDifficulty (by simp [records]) _
  | gasPrice => exact (asks_query trivial).bind fun _ => put .gasPrice (by simp [records]) _
  | balances account =>
    refine (asks_query trivial).bind fun _ => (asks_query trivial).bind fun _ => ?_
    refine (put .ethBalance (by simp [records]) _).bind fun _ => ?_
    exact put .tokenBalance (by simp [records]) _
  | price feed =>
    refine (asks_prices _).bind fun list => ?_
    cases medianOf list with
    | none => exact asks_throw _
    | some price =>
      refine (asks_ask trivial).bind fun time => Asks.bind (asks_update ?_) fun _ => ?_
      · exact (key_mem_keys (r := .priceHistory feed.requestId)).2 (by simp [records])
      · exact put (.queryValue feed.requestId) (by simp [records]) _

/-! ## Failures -/

/-- The action ends well on every open store. -/
def Lands (answerChain : Program.Answerer Chain.Call.Answer χ) (a : Action Unit) : Prop :=
  ∀ w : World χ, w.store.records?.isSome → ∃ w' : World χ, w'.store.records?.isSome ∧
    a.outcome.run (World.answer answerChain) w = (.ok (), w')

theorem lands_put (key : String) (value : Bytes) : Lands answerChain (put key value) := by
  intro w hw
  obtain ⟨records, hr⟩ := Option.isSome_iff_exists.1 hw
  obtain ⟨hok, hput⟩ := Proxy.Local.put_of_records hr key value
  refine ⟨{ w with store := (w.store.put key value).2 }, by rw [hput]; rfl, ?_⟩
  rw [run_put, hok]
  rfl

theorem Lands.andThen {a b : Action Unit} (ha : Lands answerChain a) (hb : Lands answerChain b) :
    Lands answerChain (a >>= fun _ => b) := by
  intro w hw
  obtain ⟨w', hw', hrun⟩ := ha w hw
  obtain ⟨w'', hw'', hrun'⟩ := hb w' hw'
  refine ⟨w'', hw'', ?_⟩
  rw [run_andThen, hrun]
  exact hrun'

/-- On an open store, a failure leaves the store as it was. -/
def AllOrNothing (answerChain : Program.Answerer Chain.Call.Answer χ) (a : Action Unit) : Prop :=
  ∀ (w : World χ) e, w.store.records?.isSome →
    (a.outcome.run (World.answer answerChain) w).1 = .error e →
    (a.outcome.run (World.answer answerChain) w).2.store = w.store

theorem Lands.allOrNothing {a : Action Unit} (h : Lands answerChain a) :
    AllOrNothing answerChain a := by
  intro w e hw herror
  obtain ⟨w', -, hrun⟩ := h w hw
  rw [hrun] at herror
  cases herror

theorem allOrNothing_query {q : Chain.Query} {f : q.Answer → Action Unit}
    (hf : ∀ x, AllOrNothing answerChain (f x)) : AllOrNothing answerChain (query q >>= f) := by
  intro w e hw
  rw [run_andThen, outcome_query, Program.run_ask, Program.run_done]
  cases h : (World.answer answerChain (.chain (.query q)) w).1 with
  | error e' => exact fun _ => rfl
  | ok x => exact hf x _ e hw

theorem allOrNothing_act (retention : Nat) (d : Duty) :
    AllOrNothing answerChain (d.act retention) := by
  cases d with
  | stakeStatus account => exact allOrNothing_query fun _ => (lands_put _ _).allOrNothing
  | round =>
    refine allOrNothing_query fun _ => Lands.allOrNothing ?_
    exact (lands_put _ _).andThen ((lands_put _ _).andThen (lands_put _ _))
  | gasPrice => exact allOrNothing_query fun _ => (lands_put _ _).allOrNothing
  | balances account =>
    refine allOrNothing_query fun _ => allOrNothing_query fun _ => Lands.allOrNothing ?_
    exact (lands_put _ _).andThen (lands_put _ _)
  | price feed =>
    intro w e hw herror
    cases hprice : priceOf answerChain feed w with
    | none => exact (runOf_of_none hprice).2
    | some price =>
      obtain ⟨record, hget⟩ := World.exists_get hw (Key.priceHistory feed.requestId)
      cases hchange : changeOf feed retention w.now price record with
      | error e' => exact (runOf_of_refused hprice hget hchange).2
      | ok value => cases (runOf_of_taken hprice hget hchange).1.symm.trans herror

/-- The price at a source, as long as it stays as it is. -/
def price? (o : Outside) (source : Source) : Option Float :=
  match o.documents source.url with
  | .ok document => priceIn source.path document
  | .error _ => none

/-- The chain does not answer, or no source has a price. -/
def Lacks (o : Outside) : Duty → Prop
  | .stakeStatus account => ∃ e, o.chain (.stake account) = .error e
  | .round => ∃ e, o.chain .currentRound = .error e
  | .gasPrice => ∃ e, o.chain .gasPrice = .error e
  | .balances account =>
    (∃ e, o.chain (.etherBalance account) = .error e) ∨
      ∃ e, o.chain (.tokenBalance account) = .error e
  | .price feed => ∀ source ∈ feed.sources, price? o source = none

theorem found_of_steady (h : Steady answerChain o w) (sources : List Source) :
    found answerChain sources w = sources.filterMap (price? o) :=
  found_of_settled h.web sources

theorem exists_error_query {q : Chain.Query} {f : q.Answer → Action Unit}
    (h : (∃ e, o.chain q = .error e) ∨ ∀ x, ∃ e, ((f x).outcome.run (World.answer answerChain)
      (World.answer answerChain (.chain (.query q)) w).2).1 = .error e)
    (hw : Steady answerChain o w) :
    ∃ e, ((query q >>= f).outcome.run (World.answer answerChain) w).1 = .error e := by
  rw [run_andThen, outcome_query, Program.run_ask, Program.run_done]
  have hreply : (World.answer answerChain (.chain (.query q)) w).1 = o.chain q := hw.chain [] q
  rw [hreply]
  cases hq : o.chain q with
  | error e => exact ⟨_, rfl⟩
  | ok x =>
    obtain ⟨e, he⟩ | h := h
    · cases hq.symm.trans he
    · exact h x

theorem exists_error_act (hw : Steady answerChain o w) (h : d.Lacks o) :
    ∃ e, ((d.act retention).outcome.run (World.answer answerChain) w).1 = .error e := by
  cases d with
  | stakeStatus | round | gasPrice => exact exists_error_query (.inl h) hw
  | balances account =>
    obtain h | h := h
    · exact exists_error_query (.inl h) hw
    · exact exists_error_query (.inr fun _ => exists_error_query (.inl h) (hw.query _)) hw
  | price feed =>
    have hnone : priceOf answerChain feed w = none := by
      rw [priceOf, found_of_steady hw, List.filterMap_eq_nil_iff.2 h]
      rfl
    exact ⟨_, (runOf_of_none hnone).1⟩

end Duty
end Tracker
end PriceOracle
