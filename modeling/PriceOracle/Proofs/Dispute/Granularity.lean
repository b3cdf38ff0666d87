import PriceOracle.Proofs.Dispute.Band
import PriceOracle.Proofs.Dispute.Widening

/-!
# PriceOracle.Proofs.Dispute.Granularity

Which of several feeds with one request counts. The feed that is reported under a request is the
first one (`find?_eq_head?`), but values are judged in the unit of the last one
(`granularity?_eq_getLast?`). So a value is judged in the unit of its report just when these two
feeds have the same unit (`judged_account`).
-/

namespace PriceOracle

namespace Feed

variable {feeds : List Feed} {requestId : Nat}

/-- All feeds with a request. -/
def ofRequest (feeds : List Feed) (requestId : Nat) : List Feed :=
  feeds.filter fun f => f.requestId = requestId

theorem find?_eq_head? : find? feeds requestId = (ofRequest feeds requestId).head? :=
  (List.head?_filter ..).symm

theorem granularity?_eq_getLast? :
    granularity? feeds requestId = (ofRequest feeds requestId).getLast?.map (·.granularity) := by
  rw [granularity?, ofRequest, ← List.head?_filter, List.filter_reverse, List.head?_reverse]

theorem granularity?_eq_none_iff :
    granularity? feeds requestId = none ↔ find? feeds requestId = none := by
  rw [granularity?_eq_getLast?, find?_eq_head?, Option.map_eq_none_iff,
    List.getLast?_eq_none_iff, List.head?_eq_none_iff]

/-- Feeds with requests of their own. -/
theorem head?_eq_getLast? (hdistinct : (feeds.map (·.requestId)).Nodup) :
    (ofRequest feeds requestId).head? = (ofRequest feeds requestId).getLast? := by
  have hsub : (ofRequest feeds requestId).Sublist feeds := List.filter_sublist
  have hsame : (ofRequest feeds requestId).map (·.requestId) =
      List.replicate (ofRequest feeds requestId).length requestId := by
    rw [List.eq_replicate_iff, List.length_map]
    refine ⟨rfl, ?_⟩
    intro n hn
    obtain ⟨f, hf, rfl⟩ := List.mem_map.1 hn
    exact of_decide_eq_true (List.mem_filter.1 hf).2
  have hnodup := hdistinct.sublist (hsub.map _)
  rw [hsame, List.nodup_replicate] at hnodup
  cases hfeeds : ofRequest feeds requestId with
  | nil => rfl
  | cons f rest =>
    rw [hfeeds, List.length_cons] at hnodup
    have hrest : rest = [] := List.length_eq_zero_iff.1 (by omega)
    rw [hrest]
    rfl

end Feed

namespace Dispute

open Binary64 Calendar Node Node.Action
open Program (Answerer)
open Tracker (noChain offered)

section Judged

variable {feeds : List Feed} {requestId : Nat} {granularity granularity' : Float}

/-- No value is judged under a request, whatever is stored. -/
def Unjudged (feeds : List Feed) (requestId : Nat) : Prop :=
  ∀ settings value instant, checkAt settings feeds requestId value instant = pure none

/-- Values under a request are judged by the stored prices times a granularity. -/
def JudgedIn (feeds : List Feed) (requestId : Nat) (granularity : Float) : Prop :=
  ∀ (σ : Type) (answer : Answerer Reply σ) (s : σ) (settings : Settings) (value : Word)
    (instant : Int) (raw : Bytes) (h : History),
    (answer (.get (Key.priceHistory requestId)) s).1 = .ok (some raw) →
      History.decode? raw = some h →
      ((checkAt settings feeds requestId value instant).outcome.run answer s).1 =
        .ok (h.check (approximate value) instant (signed64 settings.timeDelta) settings.threshold
          granularity)

theorem judgedIn_of_granularity? (hunit : Feed.granularity? feeds requestId = some granularity) :
    JudgedIn feeds requestId granularity := by
  intro σ answer s settings value instant raw h hget hraw
  exact run_checkAt_of_stored hunit hget hraw

theorem judgedIn_last {feed : Feed}
    (hlast : (Feed.ofRequest feeds requestId).getLast? = some feed) :
    JudgedIn feeds requestId feed.granularity := by
  apply judgedIn_of_granularity?
  rw [Feed.granularity?_eq_getLast?, hlast, Option.map_some]

/-- The world in which a history is stored under a request. -/
def storing (requestId : Nat) (h : History) : World Unit where
  chain := ()
  store := ⟨⟨[(["store"], .store [(Key.priceHistory requestId, h.encode)] true)]⟩,
    some ⟨["store"], true⟩⟩
  web := []
  patience := 0
  clock := 0
  birth := 0

theorem answer_storing (requestId : Nat) (h : History) :
    (World.answer noChain (.get (Key.priceHistory requestId)) (storing requestId h)).1 =
      .ok (some h.encode) := by
  have hget : (storing requestId h).store.get (Key.priceHistory requestId) =
      .ok (some h.encode) := by
    rw [Proxy.Local.get_of_records rfl, Table.get?, if_pos rfl]
  exact congrArg World.stored hget

/-- A history with one price, which is one. -/
def single : History := ⟨[⟨0, 1.0, "X"⟩]⟩

theorem decode?_single : History.decode? single.encode = some single := by
  refine History.decode?_of_finite (List.pairwise_singleton _ _) ?_ ?_
  · simp [single, Sample.IsDated]
  · rw [single, List.forall_mem_singleton]
    rfl

theorem JudgedIn.run_single (hjudged : JudgedIn feeds requestId granularity)
    (settings : Settings) (value : Word) :
    ((checkAt settings feeds requestId value 0).outcome.run (World.answer noChain)
        (storing requestId single)).1 =
      .ok (single.check (approximate value) 0 (signed64 settings.timeDelta) settings.threshold
        granularity) :=
  hjudged _ _ _ settings value 0 _ _ (answer_storing requestId single) decode?_single

theorem check_single {delta : Int} (hdelta : 0 ≤ delta) (value threshold granularity : Float) :
    single.check value 0 delta threshold granularity =
      some (History.judge single.samples value threshold granularity) :=
  History.check_alone ⟨0, 1.0, "X"⟩ hdelta

/-- With no threshold, a price of one has the granularity itself as its lower bound. -/
theorem low_single (value granularity : Float) :
    (History.judge single.samples value 0.0 granularity).low = granularity := by
  have hleast : History.least (single.samples.map (·.price)) * (1.0 - 0.0) = 1.0 := rfl
  show History.least (single.samples.map (·.price)) * (1.0 - 0.0) * granularity = granularity
  rw [hleast, one_mul_eq]

/-- The unit shows in the bounds. -/
theorem JudgedIn.unique (hjudged : JudgedIn feeds requestId granularity)
    (hjudged' : JudgedIn feeds requestId granularity') : granularity = granularity' := by
  have hdelta : 0 ≤ signed64 0 := by decide
  have hrun := hjudged.run_single { timeDelta := 0, threshold := 0.0 } 0
  rw [hjudged'.run_single, check_single hdelta, check_single hdelta, Except.ok.injEq,
    Option.some.injEq] at hrun
  have hlow := congrArg History.Check.low hrun
  rw [low_single, low_single] at hlow
  exact hlow.symm

theorem unjudged_iff : Unjudged feeds requestId ↔ Feed.find? feeds requestId = none := by
  rw [← Feed.granularity?_eq_none_iff]
  constructor
  · intro hunjudged
    by_contra hunit
    obtain ⟨granularity, hunit⟩ := Option.ne_none_iff_exists'.1 hunit
    have hdelta : 0 ≤ signed64 0 := by decide
    have hrun := (judgedIn_of_granularity? hunit).run_single { timeDelta := 0 } 0
    rw [hunjudged, check_single hdelta] at hrun
    cases hrun
  · intro hunit settings value instant
    rw [checkAt, hunit]

theorem judgedIn_first_iff :
    (∀ feed, Feed.find? feeds requestId = some feed →
        JudgedIn feeds requestId feed.granularity) ↔
      (Feed.ofRequest feeds requestId).head?.map (·.granularity) =
        (Feed.ofRequest feeds requestId).getLast?.map (·.granularity) := by
  rw [Feed.find?_eq_head?]
  constructor
  · intro hfirst
    cases hhead : (Feed.ofRequest feeds requestId).head? with
    | none =>
      rw [List.head?_eq_none_iff] at hhead
      rw [hhead]
      rfl
    | some first =>
      cases hlast : (Feed.ofRequest feeds requestId).getLast? with
      | none =>
        rw [List.getLast?_eq_none_iff.1 hlast] at hhead
        cases hhead
      | some last =>
        have hsame := (hfirst first hhead).unique (judgedIn_last hlast)
        rw [Option.map_some, Option.map_some, hsame]
  · intro hsame feed hfeed
    apply judgedIn_of_granularity?
    rw [Feed.granularity?_eq_getLast?, ← hsame, hfeed, Option.map_some]

/-- A value is judged just when there is a feed with its request, and in the unit of the last of
these feeds. That is the unit of the first one, which is reported, just when the two units are the
same, as they are when all feeds have requests of their own. -/
theorem judged_account (feeds : List Feed) (requestId : Nat) :
    (Unjudged feeds requestId ↔ Feed.find? feeds requestId = none) ∧
      (∀ feed, (Feed.ofRequest feeds requestId).getLast? = some feed →
        JudgedIn feeds requestId feed.granularity) ∧
      ((∀ feed, Feed.find? feeds requestId = some feed →
          JudgedIn feeds requestId feed.granularity) ↔
        (Feed.ofRequest feeds requestId).head?.map (·.granularity) =
          (Feed.ofRequest feeds requestId).getLast?.map (·.granularity)) ∧
      ((feeds.map (·.requestId)).Nodup → ∀ feed, Feed.find? feeds requestId = some feed →
        JudgedIn feeds requestId feed.granularity) := by
  refine ⟨unjudged_iff, fun feed => judgedIn_last, judgedIn_first_iff, ?_⟩
  intro hdistinct
  rw [judgedIn_first_iff, Feed.head?_eq_getLast? hdistinct]

def thousandths : Feed := { offered 1 with granularity := 1000.0 }

/-- A configuration with two feeds of one request in different units. -/
def twofold : Config where
  service := { feeds := [offered 1, thousandths] }

/-- One is within the bounds of one in the unit of the first feed, but not in that of the other. -/
theorem exists_misjudged :
    twofold.fault? = none ∧ Feed.find? twofold.service.feeds 1 = some (offered 1) ∧
      ¬JudgedIn twofold.service.feeds 1 (offered 1).granularity ∧
      (∃ check, single.check (approximate 1) 0 (signed64 300) 0.01 (offered 1).granularity =
          some check ∧ check.within = true) ∧
      ∃ check, ((checkAt {} twofold.service.feeds 1 1 0).outcome.run (World.answer noChain)
          (storing 1 single)).1 = .ok (some check) ∧ check.within = false := by
  have hget : (Feed.ofRequest twofold.service.feeds 1).getLast? = some thousandths := rfl
  have hlast : JudgedIn twofold.service.feeds 1 thousandths.granularity := judgedIn_last hget
  have hdelta : 0 ≤ signed64 300 := by decide
  have hfirst := check_single hdelta (approximate 1) 0.01 (offered 1).granularity
  have hrun := hlast.run_single {} 1
  rw [check_single hdelta] at hrun
  refine ⟨rfl, rfl, ?_, ⟨_, hfirst, rfl⟩, ⟨_, hrun, rfl⟩⟩
  intro hjudged
  rw [hjudged.run_single, hfirst, Except.ok.injEq, Option.some.injEq] at hrun
  have hwithin : true = false := congrArg History.Check.within hrun
  cases hwithin

end Judged

end Dispute
end PriceOracle
