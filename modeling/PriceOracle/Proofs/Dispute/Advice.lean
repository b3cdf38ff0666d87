import PriceOracle.Dispute.Evidence
import PriceOracle.Proofs.Calendar
import PriceOracle.Proofs.Coupling
import PriceOracle.Proofs.Dispute.Questions
import PriceOracle.Proofs.Dispute.Submissions
import PriceOracle.Proofs.Feed.Reload
import PriceOracle.Proofs.Feed.Window

/-!
# PriceOracle.Proofs.Dispute.Advice

What a recommendation is made of. It rests on the samples of the request around the disputed
submission and on nothing else that is stored: `Recommendation.Follows` says how it is put together
from them, and reports that are made of two stores side by side agree when these samples do. These
are the samples near the submission, unless one is so far away that it seems to be near
(`Sample.Strays`).

* `History.around_eq_near_iff`: when the samples around an instant are those near it.
* `follows_adviceOf`: a recommendation follows from the samples in its window.
* `couples_reports`: the reports differ in their recommendations only, each of which is what the
  prices advise that are read for it. This is so whoever writes to the store meanwhile.
* `recommendations_account`: both together, for all disputes that are listed from two stores.
* `exists_advised_from_afar`: a recommendation that rests on a sample from the other end of time.
-/

namespace PriceOracle

/-- Is a sample taken for a near one, because its distance does not fit in 64 bits? -/
def Sample.Strays (instant : Int) (delta : Nat) (s : Sample) : Prop :=
  (s.timestamp - instant).natAbs = 2 ^ 63 ∨ 2 ^ 64 ≤ (s.timestamp - instant).natAbs + delta

instance (instant : Int) (delta : Nat) (s : Sample) : Decidable (s.Strays instant delta) :=
  inferInstanceAs (Decidable (_ ∨ _))

namespace History

variable {h : History} {instant : Int} {delta : Nat}

/-- The samples at most `delta` seconds from an instant. -/
def near (h : History) (instant : Int) (delta : Nat) : List Sample :=
  h.samples.filter fun s => (s.timestamp - instant).natAbs ≤ delta

theorem apart_le_iff {s : Sample} (hs : s.IsDated) (hinstant : Calendar.IsSigned64 instant)
    (hdelta : delta < 2 ^ 63) :
    Calendar.apart s.timestamp instant ≤ Calendar.signed64 delta ↔
      (s.timestamp - instant).natAbs ≤ delta ∨ s.Strays instant delta := by
  rw [Calendar.signed64_eq_self hdelta]
  exact Calendar.apart_le_iff hs hinstant hdelta

theorem near_sublist_around (hdates : ∀ s ∈ h.samples, s.IsDated)
    (hinstant : Calendar.IsSigned64 instant) (hdelta : delta < 2 ^ 63) :
    (h.near instant delta).Sublist (h.around instant (Calendar.signed64 delta)) := by
  have hnear : h.near instant delta = (h.around instant (Calendar.signed64 delta)).filter
      fun s => (s.timestamp - instant).natAbs ≤ delta := by
    rw [near, around, List.filter_filter]
    refine List.filter_congr fun s hs => ?_
    have hiff := apart_le_iff (hdates s hs) hinstant hdelta
    rw [Bool.eq_iff_iff, Bool.and_eq_true, decide_eq_true_eq, decide_eq_true_eq]
    exact ⟨fun hle => ⟨hle, hiff.2 (.inl hle)⟩, And.left⟩
  rw [hnear]
  exact List.filter_sublist

/-- The samples around an instant are those near it just when no sample strays. -/
theorem around_eq_near_iff (hdates : ∀ s ∈ h.samples, s.IsDated)
    (hinstant : Calendar.IsSigned64 instant) (hdelta : delta < 2 ^ 63) :
    h.around instant (Calendar.signed64 delta) = h.near instant delta ↔
      ∀ s ∈ h.samples, ¬s.Strays instant delta := by
  constructor
  · intro hsame s hs hstrays
    have haround : s ∈ h.around instant (Calendar.signed64 delta) := by
      rw [around, List.mem_filter, decide_eq_true_eq]
      exact ⟨hs, (apart_le_iff (hdates s hs) hinstant hdelta).2 (.inr hstrays)⟩
    rw [hsame, near, List.mem_filter, decide_eq_true_eq] at haround
    have hnear := haround.2
    unfold Sample.Strays at hstrays
    omega
  · intro hnone
    refine List.filter_congr fun s hs => ?_
    rw [decide_eq_decide, apart_le_iff (hdates s hs) hinstant hdelta]
    exact or_iff_left (hnone s hs)

end History

namespace Dispute

open Node Node.Action Chain
open Program (Answerer)

variable {settings : Settings} {feeds : List Feed} {requestId value : Word} {instant : Int}

/-! ## From samples to a recommendation -/

/-- A recommendation is put together from the samples in a window. -/
structure Recommendation.Follows (window : List Sample) (r : Recommendation) : Prop where
  support : r.support = !r.check.within
  ordered : r.check.times.Pairwise (· ≤ ·)
  matched : r.check.times.length = r.check.datapoints.length
  samples : r.check.datapoints.zip r.check.times = window.map fun s => (s.price, s.timestamp)
  count : r.nearest.length = min 3 r.check.datapoints.length
  block : r.nearest <:+: r.check.datapoints.zip r.check.times

def adviceOf (settings : Settings) (granularity : Float) (value : Word) (instant : Int)
    (h : History) : Option Recommendation :=
  (h.check (approximate value) instant (Calendar.signed64 settings.timeDelta) settings.threshold
    granularity).map fun check =>
      ⟨recommendsSupport (approximate value) check.low check.high, check, nearest check instant⟩

theorem nearest_block {check : History.Check} (instant : Int)
    (hmatched : check.times.length = check.datapoints.length) :
    (nearest check instant).length = min 3 check.datapoints.length ∧
      nearest check instant <:+: check.datapoints.zip check.times := by
  have hzip : (check.datapoints.zip check.times).length = check.times.length := by
    rw [List.length_zip, hmatched, min_self]
  have hfits : min nearestSamples check.datapoints.length ≤ check.times.length :=
    hmatched ▸ Nat.min_le_right _ _
  have hin := Window.closest_add_le instant hfits
  constructor
  · rw [nearest, List.length_take, List.length_drop, hzip]
    exact Nat.min_eq_left (by omega)
  · exact ((List.take_prefix _ _).isInfix).trans (List.drop_suffix _ _).isInfix

theorem follows_adviceOf {h : History} {granularity : Float} {r : Recommendation}
    (hordered : h.IsOrdered) (hr : adviceOf settings granularity value instant h = some r) :
    r.Follows (h.around instant (Calendar.signed64 settings.timeDelta)) := by
  obtain ⟨check, hcheck, rfl⟩ := Option.map_eq_some_iff.1 hr
  have hwindow : check = History.judge (h.around instant (Calendar.signed64 settings.timeDelta))
      (approximate value) settings.threshold granularity := by
    unfold History.check at hcheck
    split at hcheck
    · cases hcheck
    · exact (Option.some.inj hcheck).symm
  have hmatched : check.times.length = check.datapoints.length := by
    rw [hwindow]
    simp [History.judge]
  obtain ⟨hcount, hblock⟩ := nearest_block instant hmatched
  refine ⟨?_, ?_, hmatched, ?_, hcount, hblock⟩
  · rw [hwindow]
    rfl
  · rw [hwindow]
    exact List.pairwise_map.2 (hordered.filter _)
  · rw [hwindow]
    exact List.zip_map'

/-- The history that is read when a state is asked for the prices of a request. -/
def historyAt {σ : Type} (answer : Answerer Reply σ) (requestId : Word) (s : σ) : Option History :=
  (answer (.get (Key.priceHistory requestId.toNat)) s).1.toOption.join.bind History.decode?

/-- What a history advises, if there is one, on a request with a feed. -/
def adviceFrom (settings : Settings) (feeds : List Feed) (requestId value : Word) (instant : Int)
    (history : Option History) : Option Recommendation := do
  guard (requestId.toNat < Nat.pow 2 64)
  let granularity ← Feed.granularity? feeds requestId.toNat
  adviceOf settings granularity value instant (← history)

theorem adviceFrom_congr {h h' : History}
    (hsame : h'.around instant (Calendar.signed64 settings.timeDelta) =
      h.around instant (Calendar.signed64 settings.timeDelta)) :
    adviceFrom settings feeds requestId value instant (some h') =
      adviceFrom settings feeds requestId value instant (some h) := by
  have hof : ∀ granularity, adviceOf settings granularity value instant h' =
      adviceOf settings granularity value instant h := by
    intro granularity
    rw [adviceOf, adviceOf, History.check, History.check, hsame]
  simp only [adviceFrom, Option.bind_eq_bind, Option.bind_some, hof]

theorem follows_adviceFrom {history : Option History} {r : Recommendation}
    (hordered : ∀ h ∈ history, h.IsOrdered)
    (hr : adviceFrom settings feeds requestId value instant history = some r) :
    ∃ h, history = some h ∧
      r.Follows (h.around instant (Calendar.signed64 settings.timeDelta)) := by
  simp only [adviceFrom, Option.bind_eq_bind, Option.bind_eq_some_iff] at hr
  obtain ⟨-, -, granularity, -, h, rfl, hr⟩ := hr
  exact ⟨h, rfl, follows_adviceOf (hordered h rfl) hr⟩

/-- What follows from the samples around an instant follows from those near it just when no sample
strays. -/
theorem Recommendation.Follows.near_iff {h : History} {delta : Nat} {r : Recommendation}
    (hfollows : r.Follows (h.around instant (Calendar.signed64 delta)))
    (hdates : ∀ s ∈ h.samples, s.IsDated) (hinstant : Calendar.IsSigned64 instant)
    (hdelta : delta < 2 ^ 63) :
    r.Follows (h.near instant delta) ↔ ∀ s ∈ h.samples, ¬s.Strays instant delta := by
  rw [← History.around_eq_near_iff hdates hinstant hdelta]
  constructor
  · intro hnear
    have hlength : (h.near instant delta).length =
        (h.around instant (Calendar.signed64 delta)).length := by
      simpa using congrArg List.length (hnear.samples.symm.trans hfollows.samples)
    exact ((History.near_sublist_around hdates hinstant hdelta).eq_of_length hlength).symm
  · exact fun hsame => hsame ▸ hfollows

theorem sound_historyAt {σ : Type} {answer : Answerer Reply σ} {s : σ} :
    ∀ h ∈ historyAt answer requestId s, h.IsOrdered ∧ ∀ x ∈ h.samples, x.IsDated := by
  intro h hh
  obtain ⟨raw, -, hraw⟩ := Option.bind_eq_some_iff.1 hh
  obtain ⟨hordered, hsound⟩ := History.sound_of_decode? hraw
  exact ⟨hordered, fun x hx => (hsound x hx).1⟩

/-! ## Recommendations side by side -/

section Beside

variable {σ τ : Type} {answer : Answerer Reply σ} {answer' : Answerer Reply τ} {J : σ → τ → Prop}

theorem run_recommend (s : σ) :
    ((recommend settings feeds requestId value instant).orElse none).outcome.run answer s =
      (.ok (adviceFrom settings feeds requestId value instant (historyAt answer requestId s)),
        if requestId.toNat < Nat.pow 2 64 ∧ (Feed.granularity? feeds requestId.toNat).isSome then
          (answer (.get (Key.priceHistory requestId.toNat)) s).2
        else s) := by
  rw [run_orElse, recommend, adviceFrom, historyAt]
  by_cases hid : Nat.pow 2 64 ≤ requestId.toNat
  · rw [if_pos hid, guard, if_neg (not_lt.2 hid), if_neg fun h => not_lt.2 hid h.1]
    rfl
  · rw [if_neg hid, guard, if_pos (not_le.1 hid), checkAt]
    cases Feed.granularity? feeds requestId.toNat with
    | none =>
      rw [if_neg fun h => Bool.false_ne_true h.2]
      rfl
    | some granularity =>
      rw [if_pos ⟨not_le.1 hid, rfl⟩]
      simp only [run_andThen, outcome_get, Program.run_ask, Program.run_done]
      generalize answer (.get (Key.priceHistory requestId.toNat)) s = given
      obtain ⟨reply, s'⟩ := given
      cases reply with
      | error e => rfl
      | ok record =>
        cases record with
        | none => rfl
        | some raw =>
          simp only [mapError_ok]
          show _ = (Except.ok ((History.decode? raw).bind _), s')
          cases History.decode? raw with
          | none => rfl
          | some history =>
            simp only [Option.bind_some, adviceOf]
            cases history.check (approximate value) instant (Calendar.signed64 settings.timeDelta)
              settings.threshold granularity <;> rfl

/-- The two surroundings tell the same of the chain. Their prices may differ. -/
structure Beside (answer : Answerer Reply σ) (answer' : Answerer Reply τ) (J : σ → τ → Prop) :
    Prop where
  query : ∀ q, Shares answer answer' J (.chain (.query q))
  prices : ∀ id s t, J s t →
    J (answer (.get (Key.priceHistory id)) s).2 (answer' (.get (Key.priceHistory id)) t).2

/-- Two reports that are the same, each with the recommendation that its own prices advise. -/
structure Twins (settings : Settings) (feeds : List Feed) (answer : Answerer Reply σ)
    (answer' : Answerer Reply τ) (J : σ → τ → Prop) (r r' : Report) : Prop where
  alike : r' = { r with recommendation := r'.recommendation }
  dated : ∀ x ∈ r.submissions, Calendar.IsSigned64 x.time
  advised : ∃ s t, J s t ∧
    r.recommendation = r.submissions[r.minerSlot]?.bind (fun disputed =>
      adviceFrom settings feeds r.requestId r.disputedValue disputed.time
        (historyAt answer r.requestId s)) ∧
    r'.recommendation = r.submissions[r.minerSlot]?.bind (fun disputed =>
      adviceFrom settings feeds r.requestId r.disputedValue disputed.time
        (historyAt answer' r.requestId t))

theorem run_reportOf (settings : Settings) (feeds : List Feed) (opening : Opening)
    (vars : DisputeVars) {submissions : List Submission} {disputed : Submission} {s s' : σ}
    (hsubmissions : (submissionsOf opening.requestId opening.timestamp
      vars.block.capped64).outcome.run answer s = (.ok submissions, s'))
    (hslot : submissions[vars.minerSlot.capped64]? = some disputed) : ∃ r s'',
      (reportOf settings feeds opening vars).outcome.run answer s = (.ok r, s'') ∧
      r.requestId = opening.requestId ∧ r.submissions[r.minerSlot]? = some disputed ∧
      r.recommendation = adviceFrom settings feeds opening.requestId vars.value disputed.time
        (historyAt answer opening.requestId s') := by
  rw [reportOf, run_andThen, run_orElse, hsubmissions]
  simp only [Except.toOption, Option.getD_some, hslot, run_andThen, run_recommend]
  exact ⟨_, _, rfl, rfl, hslot, rfl⟩

theorem couples_recommend (h : Beside answer answer' J) :
    Couples answer answer' J
      (fun x y => ∃ s t, J s t ∧
        x = adviceFrom settings feeds requestId value instant (historyAt answer requestId s) ∧
        y = adviceFrom settings feeds requestId value instant (historyAt answer' requestId t))
      ((recommend settings feeds requestId value instant).orElse none)
      ((recommend settings feeds requestId value instant).orElse none) := by
  intro s t hJ
  rw [run_recommend, run_recommend]
  refine ⟨.ok ⟨s, t, hJ, rfl, rfl⟩, ?_⟩
  split
  · exact h.prices _ s t hJ
  · exact hJ

theorem couples_reportOf (h : Beside answer answer' J) (opening : Opening) (vars : DisputeVars) :
    Couples answer answer' J (Twins settings feeds answer answer' J)
      (reportOf settings feeds opening vars) (reportOf settings feeds opening vars) := by
  have hround : ∀ op, OfRound opening.requestId opening.timestamp op →
      Shares answer answer' J op := by
    intro op hop
    obtain ⟨q, rfl⟩ := hop.exists_query
    exact h.query q
  have hfound := ((asks_submissionsOf opening.requestId opening.timestamp
    vars.block.capped64).mono hround).couples.ensuring fun _ _ => isSigned64_time
  refine (hfound.orElse (x := []) (y := []) ⟨rfl, nofun⟩).bind ?_
  rintro submissions _ ⟨rfl, hdated⟩
  cases hslot : submissions[vars.minerSlot.capped64]? with
  | none =>
    intro s t hJ
    refine ⟨.ok ⟨rfl, hdated, s, t, hJ, ?_, ?_⟩, hJ⟩ <;> simp only [hslot] <;> rfl
  | some disputed =>
    refine (couples_recommend h).bind ?_
    rintro x y ⟨s, t, hJ, rfl, rfl⟩
    refine couples_pure ⟨rfl, hdated, s, t, hJ, ?_, ?_⟩ <;> simp only [hslot] <;> rfl

theorem couples_reportOn (h : Beside answer answer' J) (log : Log) :
    Couples answer answer' J (Twins settings feeds answer answer' J)
      (reportOn settings feeds log) (reportOn settings feeds log) :=
  (asks_sensible _).couples.same fun opening =>
    (asks_query (h.query _)).couples.same fun vars => couples_reportOf h opening vars

theorem couples_reportsOn (h : Beside answer answer' J) (logs : List Log) :
    Couples answer answer' J (List.Forall₂ (Twins settings feeds answer answer' J))
      (reportsOn settings feeds logs) (reportsOn settings feeds logs) := by
  induction logs with
  | nil => exact couples_pure .nil
  | cons log rest ih =>
    have hreport : Couples answer answer' J (Option.Rel (Twins settings feeds answer answer' J))
        (((some ·) <$> reportOn settings feeds log).orElse none)
        (((some ·) <$> reportOn settings feeds log).orElse none) :=
      Couples.orElse ((couples_reportOn h log).bind fun x y hxy => couples_pure (.some hxy)) .none
    refine hreport.bind fun x y hxy => ih.bind fun rs rs' hrs => couples_pure ?_
    cases hxy with
    | none => exact hrs
    | some hxy => exact .cons hxy hrs

theorem couples_reports (settings : Settings) (feeds : List Feed) (h : Beside answer answer' J) :
    Couples answer answer' J (List.Forall₂ (Twins settings feeds answer answer' J))
      (reports settings feeds) (reports settings feeds) :=
  (asks_query (h.query _)).couples.same fun _ =>
    (asks_query (h.query _)).couples.same fun logs => couples_reportsOn h logs

/-- A recommendation follows from what a history has around the disputed submission, which is what
it has near it just when no sample strays. For another history that has the same near the submission
it is the same, unless a sample of one of them strays. Nothing else that is reported depends on
them. -/
structure Accounts (settings : Settings) (history history' : Option History) (r r' : Report) :
    Prop where
  alike : r' = { r with recommendation := r'.recommendation }
  follows : ∀ advice, r.recommendation = some advice → ∃ disputed h,
    r.submissions[r.minerSlot]? = some disputed ∧ history = some h ∧
      advice.Follows (h.around disputed.time (Calendar.signed64 settings.timeDelta)) ∧
      (advice.Follows (h.near disputed.time settings.timeDelta) ↔
        ∀ s ∈ h.samples, ¬s.Strays disputed.time settings.timeDelta)
  independent : ∀ disputed h h', r.submissions[r.minerSlot]? = some disputed → history = some h →
    history' = some h' →
    h'.near disputed.time settings.timeDelta = h.near disputed.time settings.timeDelta →
    (∀ s ∈ h.samples ++ h'.samples, ¬s.Strays disputed.time settings.timeDelta) →
    r'.recommendation = r.recommendation

theorem Twins.accounts {r r' : Report} (h : Twins settings feeds answer answer' J r r')
    (hdelta : settings.timeDelta < 2 ^ 63) : ∃ s t, J s t ∧
      Accounts settings (historyAt answer r.requestId s) (historyAt answer' r.requestId t)
        r r' := by
  obtain ⟨s, t, hJ, hr, hr'⟩ := h.advised
  have hdated : ∀ disputed, r.submissions[r.minerSlot]? = some disputed →
      Calendar.IsSigned64 disputed.time :=
    fun disputed hdisputed => h.dated disputed (List.mem_of_getElem? hdisputed)
  refine ⟨s, t, hJ, h.alike, fun advice hadvice => ?_, ?_⟩
  · rw [hr] at hadvice
    obtain ⟨disputed, hdisputed, hadvice⟩ := Option.bind_eq_some_iff.1 hadvice
    obtain ⟨history, hhistory, hfollows⟩ :=
      follows_adviceFrom (fun h hh => (sound_historyAt h hh).1) hadvice
    exact ⟨disputed, history, hdisputed, hhistory, hfollows,
      hfollows.near_iff (sound_historyAt history hhistory).2 (hdated disputed hdisputed) hdelta⟩
  · intro disputed history history' hdisputed hhistory hhistory' hsame hnone
    obtain ⟨hleft, hright⟩ := List.forall_mem_append.1 hnone
    have hinstant := hdated disputed hdisputed
    have haround := (History.around_eq_near_iff (sound_historyAt history hhistory).2 hinstant
      hdelta).2 hleft
    have haround' := (History.around_eq_near_iff (sound_historyAt history' hhistory').2 hinstant
      hdelta).2 hright
    rw [hr, hr', hdisputed, Option.bind_some, Option.bind_some, hhistory, hhistory']
    exact adviceFrom_congr (haround'.trans (hsame.trans haround.symm))

end Beside

/-! ## Two stores -/

section Stores

variable {χ : Type} {answerChain : Answerer Call.Answer χ} {w w' : World χ}

/-- The history of a request as it is stored, if it can be read. -/
def storedHistory (l : Proxy.Local) (requestId : Word) : Option History :=
  (l.get (Key.priceHistory requestId.toNat)).toOption.join.bind History.decode?

theorem historyAt_world (requestId : Word) (w : World χ) :
    historyAt (World.answer answerChain) requestId w = storedHistory w.store requestId := by
  show (World.stored (w.store.get _)).toOption.join.bind _ = _
  rw [storedHistory]
  cases w.store.get (Key.priceHistory requestId.toNat) <;> rfl

theorem beside_stores (answerChain : Answerer Call.Answer χ) (l l' : Proxy.Local) :
    Beside (World.answer answerChain) (World.answer answerChain)
      fun w w' => w'.chain = w.chain ∧ w.store = l ∧ w'.store = l' where
  query q w w' hJ := by
    obtain ⟨hchain, hl, hl'⟩ := hJ
    refine ⟨?_, ?_, hl, hl'⟩ <;> simp only [World.answer, hchain]
  prices _ _ _ hJ := hJ

/-- The disputes that are listed from two stores are the same, and the recommendations on them
follow from the stored samples around the disputed submissions. -/
theorem recommendations_account (hdelta : settings.timeDelta < 2 ^ 63)
    (hchain : w'.chain = w.chain) {rs : List Report}
    (hrun : ((reports settings feeds).outcome.run (World.answer answerChain) w).1 = .ok rs) :
    ∃ rs', ((reports settings feeds).outcome.run (World.answer answerChain) w').1 = .ok rs' ∧
      List.Forall₂ (fun r r' => Accounts settings (storedHistory w.store r.requestId)
        (storedHistory w'.store r.requestId) r r') rs rs' := by
  obtain ⟨hboth, -⟩ := couples_reports settings feeds
    (beside_stores answerChain w.store w'.store) w w' ⟨hchain, rfl, rfl⟩
  rw [hrun] at hboth
  generalize ((reports settings feeds).outcome.run (World.answer answerChain) w').1 = result
    at hboth ⊢
  obtain ⟨htwins⟩ := hboth
  refine ⟨_, rfl, htwins.imp fun r r' htwin => ?_⟩
  obtain ⟨v, v', ⟨-, hv, hv'⟩, haccounts⟩ := htwin.accounts hdelta
  rwa [historyAt_world, historyAt_world, hv, hv'] at haccounts

end Stores

/-! ## A dispute in memory -/

section Ledger

def openingLog : Log := ⟨245, [0, 7, 1], List.replicate 31 0 ++ [2] ++ List.replicate 32 0⟩

def openVars : DisputeVars := ⟨false, false, 1, 2, #v[1, 2, 10, 0, 0, 240, 0, 0, 0], 0⟩

/-- A chain with a dispute about the first of five submissions. -/
def disputedFirst : Ledger :=
  { twoMiners with
    latestBlock := 250
    disputes := [(7, openVars)]
    logs := (.newDispute, openingLog) :: twoMiners.logs }

def disputedFeed : Feed := ⟨1, "X", 1.0, []⟩

/-- The world of this chain, in which some samples are stored. -/
def keeping (samples : List Sample) : World Ledger where
  chain := disputedFirst
  store := ⟨⟨[(["store"], .store [(Key.priceHistory 1, History.encode ⟨samples⟩)] true)]⟩,
    some ⟨["store"], true⟩⟩
  web := []
  patience := 0
  clock := 0
  birth := 0

theorem storedHistory_keeping {samples : List Sample} (hordered : History.IsOrdered ⟨samples⟩)
    (hdates : ∀ s ∈ samples, s.IsDated) (hfinite : ∀ s ∈ samples, s.price.isFinite = true) :
    storedHistory (keeping samples).store 1 = some ⟨samples⟩ := by
  have hget : (keeping samples).store.get (Key.priceHistory 1) =
      .ok (some (History.encode ⟨samples⟩)) := by
    rw [Proxy.Local.get_of_records rfl, Table.get?, if_pos rfl]
  show ((keeping samples).store.get (Key.priceHistory 1)).toOption.join.bind _ = _
  rw [hget]
  exact History.decode?_of_finite hordered hdates hfinite

theorem run_read {α : Type} {w : World Ledger} {q : Query} {x : q.Answer}
    (h : w.chain.read q = .ok x) (f : q.Answer → Action α) :
    (query q >>= f).outcome.run (World.answer Ledger.answer) w =
      (f x).outcome.run (World.answer Ledger.answer)
        { w with chain := w.chain.noteSearch q } := by
  have hquery : (query q).outcome.run (World.answer Ledger.answer) w =
      ((w.chain.read q).mapError Failure.ofChain, { w with chain := w.chain.noteSearch q }) := rfl
  rw [run_andThen, hquery, h]
  rfl

theorem store_run_submissionsOf (requestId timestamp : Word) (block : Nat) (w : World Ledger) :
    ((submissionsOf requestId timestamp block).outcome.run (World.answer Ledger.answer) w).2.store =
      w.store := by
  have hasks : Asks (Shares (World.answer Ledger.answer) (World.answer Ledger.answer)
      fun v v' => v = v' ∧ v.store = w.store) (submissionsOf requestId timestamp block) := by
    refine (asks_submissionsOf requestId timestamp block).mono fun op hop => ?_
    obtain ⟨q, rfl⟩ := hop.exists_query
    rintro v v' ⟨rfl, hv⟩
    exact ⟨rfl, rfl, hv⟩
  exact (run_of_shares hasks ⟨rfl, rfl⟩).2.2

theorem run_submissionsOf_disputedFirst {w : World Ledger} (hw : Kept disputedFirst w) :
    ∃ rest w', (submissionsOf 1 2 240).outcome.run (World.answer Ledger.answer) w =
      (.ok (⟨1, 10, 5000⟩ :: rest), w') ∧ w'.store = w.store := by
  have hlogs : ∀ log, (.nonceSubmitted, log) ∈ disputedFirst.logs →
      (∃ miner, solverOf log = .ok miner) ∧
        (disputedFirst.blockTimes.get? log.block).isSome := by
    intro log hlog
    simp only [disputedFirst, twoMiners, List.mem_cons, Prod.mk.injEq, true_and, List.not_mem_nil,
      or_false, reduceCtorEq, false_and, false_or] at hlog
    obtain rfl | rfl | rfl | rfl | rfl := hlog <;> exact ⟨⟨_, rfl⟩, rfl⟩
  have hminers : (knownOf disputedFirst 1 2).miners.toList = [1, 2, 1, 2, 1] := rfl
  have hreal : (0 : Address) ∉ (knownOf disputedFirst 1 2).miners := by
    rw [← Vector.mem_toList_iff, hminers]
    decide
  have hknown : (knownOf disputedFirst 1 2).logs = twoMiners.logs.map (·.2) :=
    List.mergeSort_of_pairwise (by decide)
  have hslots : (knownOf disputedFirst 1 2).slots = [⟨1, 10, none⟩, ⟨2, 11, none⟩, ⟨1, 12, none⟩,
      ⟨2, 13, none⟩, ⟨1, 14, none⟩] := by
    rw [Known.slots, Vector.toList_zip]
    rfl
  have hpass : pass (knownOf disputedFirst 1 2).times
      (newest (knownOf disputedFirst 1 2).logs 240) (knownOf disputedFirst 1 2).slots =
      [⟨1, 10, some 5000⟩, ⟨2, 11, some 4000⟩, ⟨1, 12, some 3000⟩, ⟨2, 13, some 2000⟩,
        ⟨1, 14, some 1000⟩] := by
    rw [newest, hknown, hslots]
    decide +kernel
  obtain ⟨w', windows, -, hyields, -⟩ := submissionsOf_yields
    (serves_ledger rfl (fun log h => (hlogs log h).1) (fun log h => (hlogs log h).2) 1 2) hreal 240
    hw
  rw [hpass] at hyields
  refine ⟨_, w', hyields.run, ?_⟩
  rw [← store_run_submissionsOf 1 2 240 w, hyields.run]

theorem run_reports_keeping (samples : List Sample) : ∃ r,
    ((reports {} [disputedFeed]).outcome.run (World.answer Ledger.answer) (keeping samples)).1 =
      .ok [r] ∧
      r.requestId = 1 ∧ r.submissions[r.minerSlot]? = some ⟨1, 10, 5000⟩ ∧
      r.recommendation = adviceFrom {} [disputedFeed] 1 10 5000
        (storedHistory (keeping samples).store 1) := by
  let w : World Ledger := { keeping samples with
    chain := disputedFirst.noteSearch (.logs .newDispute (250 - ({} : Settings).lookback) none) }
  have hlatest : disputedFirst.read .latestBlock = .ok 250 := rfl
  have hlogs : disputedFirst.read (.logs .newDispute (250 - ({} : Settings).lookback) none) =
      .ok [openingLog] := congrArg Except.ok (List.mergeSort_singleton _)
  have hvars : disputedFirst.read (.disputeVars 7) = .ok openVars := rfl
  have hopening : Opening.ofLog openingLog = .ok ⟨7, 1, 2, 0⟩ := rfl
  obtain ⟨rest, w', hsubmissions, hstore⟩ := run_submissionsOf_disputedFirst (w := w) ⟨_, rfl⟩
  obtain ⟨r, w'', hrun, hid, hslot, hadvice⟩ :=
    run_reportOf {} [disputedFeed] ⟨7, 1, 2, 0⟩ openVars hsubmissions rfl
  have hreport : (reportOn {} [disputedFeed] openingLog).outcome.run
      (World.answer Ledger.answer) w = (.ok r, w'') := by
    rw [reportOn, hopening]
    exact (run_read hvars _).trans hrun
  have hlisted : ((some ·) <$> reportOn {} [disputedFeed] openingLog).outcome.run
      (World.answer Ledger.answer) w = (.ok (some r), w'') := by
    rw [map_eq_pure_bind, run_andThen, hreport]
    rfl
  have hreports : (reports {} [disputedFeed]).outcome.run (World.answer Ledger.answer)
      (keeping samples) =
        (reportsOn {} [disputedFeed] [openingLog]).outcome.run (World.answer Ledger.answer) w :=
    (run_read hlatest _).trans (run_read (w := keeping samples) hlogs _)
  refine ⟨r, ?_, hid, hslot, ?_⟩
  · rw [hreports, reportsOn, run_andThen, run_orElse, hlisted]
    rfl
  · rw [hadvice, historyAt_world, hstore]
    rfl

def early : Sample := ⟨4990, 0.5, "X"⟩

def late : Sample := ⟨9000, 2.5, "X"⟩

/-- A sample that is far from the submission changes nothing. -/
theorem recommendations_account_early : ∃ r r' advice,
    ((reports {} [disputedFeed]).outcome.run (World.answer Ledger.answer) (keeping [early])).1 =
      .ok [r] ∧
      ((reports {} [disputedFeed]).outcome.run (World.answer Ledger.answer)
        (keeping [early, late])).1 = .ok [r'] ∧
      r.recommendation = some advice ∧ r'.recommendation = some advice ∧
      advice.Follows [early] := by
  have hfinite : early.price.isFinite = true ∧ late.price.isFinite = true := by decide +kernel
  have hdates : early.IsDated ∧ late.IsDated := by simp [early, late, Sample.IsDated]
  have hone : storedHistory (keeping [early]).store 1 = some ⟨[early]⟩ :=
    storedHistory_keeping (List.pairwise_singleton _ _) (by simp [hdates]) (by simp [hfinite])
  have htwo : storedHistory (keeping [early, late]).store 1 = some ⟨[early, late]⟩ :=
    storedHistory_keeping (by simp [History.IsOrdered, early, late]) (by simp [hdates])
      (by simp [hfinite])
  have hadvised : (adviceFrom {} [disputedFeed] 1 10 5000 (some ⟨[early]⟩)).isSome = true := by
    decide +kernel
  obtain ⟨advice, hsome⟩ := Option.isSome_iff_exists.1 hadvised
  obtain ⟨r, hrun, hid, hslot, hadvice⟩ := run_reports_keeping [early]
  rw [hone, hsome] at hadvice
  have hdelta : ({} : Settings).timeDelta < 2 ^ 63 := by decide
  obtain ⟨rs', hrun', haccounts⟩ := @recommendations_account {} [disputedFeed] Ledger Ledger.answer
    (keeping [early]) (keeping [early, late]) hdelta rfl _ hrun
  obtain _ | @⟨_, r', _, _, hr, hnil⟩ := haccounts
  cases hnil
  rw [hid, hone, htwo] at hr
  have hnone : ∀ s ∈ [early] ++ [early, late], ¬s.Strays 5000 300 := by decide
  have hsame : r'.recommendation = r.recommendation :=
    hr.independent _ _ _ hslot rfl rfl rfl hnone
  obtain ⟨found, h, hfound, hh, -, hnear⟩ := hr.follows advice hadvice
  obtain rfl := Option.some.inj (hslot.symm.trans hfound)
  obtain rfl := Option.some.inj hh
  exact ⟨r, r', advice, hrun, hrun', hadvice, hsame.trans hadvice,
    hnear.2 fun s hs => hnone s (List.mem_append_left _ hs)⟩

/-- A sample just half of all seconds before the submission. -/
def afar : Sample := ⟨5000 - 2 ^ 63, 0.5, "X"⟩

/-- There is no sample near the submission, and yet a recommendation, which rests on one that is as
far from it as can be. Without that sample there is none. -/
theorem exists_advised_from_afar : ∃ r r' advice,
    ((reports {} [disputedFeed]).outcome.run (World.answer Ledger.answer) (keeping [afar])).1 =
      .ok [r] ∧
      ((reports {} [disputedFeed]).outcome.run (World.answer Ledger.answer) (keeping [])).1 =
        .ok [r'] ∧
      r.submissions[r.minerSlot]? = some ⟨1, 10, 5000⟩ ∧
      storedHistory (keeping [afar]).store 1 = some ⟨[afar]⟩ ∧
      (History.mk [afar]).near 5000 ({} : Settings).timeDelta = [] ∧
      r.recommendation = some advice ∧ advice.check.times = [afar.timestamp] ∧
      r'.recommendation = none := by
  have hfinite : afar.price.isFinite = true := by decide +kernel
  have hdated : afar.IsDated := by simp [afar, Sample.IsDated]
  have hone : storedHistory (keeping [afar]).store 1 = some ⟨[afar]⟩ :=
    storedHistory_keeping (List.pairwise_singleton _ _) (by simp [hdated]) (by simp [hfinite])
  have hnone : storedHistory (keeping []).store 1 = some ⟨[]⟩ :=
    storedHistory_keeping List.Pairwise.nil (by simp) (by simp)
  obtain ⟨r, hrun, -, hslot, hadvice⟩ := run_reports_keeping [afar]
  obtain ⟨r', hrun', -, -, hadvice'⟩ := run_reports_keeping []
  rw [hone] at hadvice
  rw [hnone] at hadvice'
  have htimes : (adviceFrom {} [disputedFeed] 1 10 5000 (some ⟨[afar]⟩)).map (·.check.times) =
      some [afar.timestamp] := by decide +kernel
  obtain ⟨advice, hsome, hshown⟩ := Option.map_eq_some_iff.1 htimes
  exact ⟨r, r', advice, hrun, hrun', hslot, hone, by decide, hadvice.trans hsome, hshown,
    hadvice'.trans rfl⟩

end Ledger

end Dispute
end PriceOracle
