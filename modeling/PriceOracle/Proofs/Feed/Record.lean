import PriceOracle.Dispute.Evidence
import PriceOracle.Proofs.Feed.Edits
import PriceOracle.Proofs.Feed.Run

/-!
# PriceOracle.Proofs.Feed.Record

The record of a feed's history over many runs of its tracker. As long as all prices that the runs
keep are finite, the record is the history that they keep; once one of them is not, the record
cannot be read any more and no run mends it.

* `shows_run`: what one run makes of the record.
* `shows_runs`: what any number of runs make of it.
* `readable_iff`: the record can be read, and is of use to later runs and to disputes, just when all
  prices that were ever kept are finite.
-/

namespace PriceOracle
namespace Tracker

open Node Node.Action
open Program (Answerer)

variable {χ : Type} {answerChain : Answerer Chain.Call.Answer χ} {feed : Feed} {retention : Nat}
  {first w w' : World χ} {began : List (World χ)}

/-- What a run that begins in a world makes of the samples before it, in the order in which they are
read the next time. -/
def keep (answerChain : Answerer Chain.Call.Answer χ) (feed : Feed) (retention : Nat)
    (h : History) (w : World χ) : History :=
  match priceOf answerChain feed w with
  | none => h
  | some price =>
    .ofSamples (extend ⟨w.now, price, feed.symbol⟩ (cutoff w.now retention) h).samples

/-- The samples that are kept by runs that begin in some worlds, one after another. -/
def kept (answerChain : Answerer Chain.Call.Answer χ) (feed : Feed) (retention : Nat)
    (began : List (World χ)) : History :=
  began.foldl (keep answerChain feed retention) .empty

/-- Runs of a feed's tracker. Between two of them the world changes in any way, but nobody else
writes the record of the history. -/
inductive Runs (answerChain : Answerer Chain.Call.Answer χ) (feed : Feed) (retention : Nat)
    (first : World χ) : List (World χ) → World χ → Prop
  | start : Runs answerChain feed retention first [] first
  | run {began : List (World χ)} {w : World χ} : Runs answerChain feed retention first began w →
      Runs answerChain feed retention first (began ++ [w])
        (runOf answerChain feed retention w).2
  | others {began : List (World χ)} {w w' : World χ} :
      Runs answerChain feed retention first began w →
      w'.store.get (Key.priceHistory feed.requestId) =
        w.store.get (Key.priceHistory feed.requestId) →
      Runs answerChain feed retention first began w'

/-- Is the time a signed number of 64 bits? -/
def IsDated (w : World χ) : Prop := -(2 ^ 63 : Int) ≤ w.now ∧ w.now < 2 ^ 63

section Extend

variable {s : Sample} {before : Int} {h : History}

theorem mem_extend {x : Sample} (hx : x ∈ (extend s before h).samples) :
    x ∈ h.samples ∨ x = s := by
  have hmem := (List.mem_filter.1 hx).1
  rw [History.record?] at hmem
  split at hmem
  · rw [Option.getD_some, List.mem_append, List.mem_singleton] at hmem
    exact hmem
  · exact .inl hmem

end Extend

section Kept

theorem kept_snoc (began : List (World χ)) (w : World χ) :
    kept answerChain feed retention (began ++ [w]) =
      keep answerChain feed retention (kept answerChain feed retention began) w := by
  rw [kept, List.foldl_append]
  rfl

theorem isDated_kept (hdates : ∀ v ∈ began, IsDated v) :
    ∀ s ∈ (kept answerChain feed retention began).samples, s.IsDated := by
  induction began using List.reverseRecOn with
  | nil => exact fun s hs => absurd hs List.not_mem_nil
  | append_singleton began w ih =>
    have ih := ih fun v hv => hdates v (List.mem_append_left _ hv)
    have hw : IsDated w := hdates w (List.mem_append_right _ (List.mem_singleton_self w))
    rw [kept_snoc, keep]
    split
    · exact ih
    · intro s hs
      obtain hs | rfl := mem_extend (History.mem_ofSamples.1 hs)
      · exact ih s hs
      · exact hw

/-- All prices that were ever kept are finite. -/
def Sound (answerChain : Answerer Chain.Call.Answer χ) (feed : Feed) (retention : Nat)
    (began : List (World χ)) : Prop :=
  ∀ n, ∀ s ∈ (kept answerChain feed retention (began.take n)).samples, s.price.isFinite = true

theorem sound_nil : Sound answerChain feed retention [] := by
  intro n s hs
  rw [List.take_nil] at hs
  exact absurd hs List.not_mem_nil

theorem Sound.all (h : Sound answerChain feed retention began) :
    ∀ s ∈ (kept answerChain feed retention began).samples, s.price.isFinite = true := by
  have h := h began.length
  rwa [List.take_length] at h

theorem sound_snoc (began : List (World χ)) (w : World χ) :
    Sound answerChain feed retention (began ++ [w]) ↔
      Sound answerChain feed retention began ∧
      ∀ s ∈ (kept answerChain feed retention (began ++ [w])).samples,
        s.price.isFinite = true := by
  constructor
  · intro h
    refine ⟨fun n => ?_, h.all⟩
    have hn := h (min n began.length)
    rwa [List.take_append_of_le_length (Nat.min_le_right _ _), ← List.take_eq_take_min] at hn
  · rintro ⟨h, hall⟩ n
    by_cases hn : n ≤ began.length
    · rw [List.take_append_of_le_length hn]
      exact h n
    · rw [List.take_of_length_le (by rw [List.length_append, List.length_singleton]; omega)]
      exact hall

end Kept

/-- The record after runs: nothing before the first price, then a text of the history that they
keep, as long as it is sound; and after that no history at all. -/
inductive Shows (answerChain : Answerer Chain.Call.Answer χ) (feed : Feed) (retention : Nat)
    (began : List (World χ)) : Option Bytes → Prop
  | nothing : kept answerChain feed retention began = .empty →
      Sound answerChain feed retention began → Shows answerChain feed retention began none
  | sound {raw : Bytes} : Sound answerChain feed retention began →
      History.decode? raw = some (kept answerChain feed retention began) →
      Shows answerChain feed retention began (some raw)
  | spoilt {raw : Bytes} : ¬ Sound answerChain feed retention began →
      History.decode? raw = none → Shows answerChain feed retention began (some raw)

section Shows

/-- Nothing changes when a run has no price. -/
theorem Shows.skip {record : Option Bytes} (h : Shows answerChain feed retention began record)
    (hprice : priceOf answerChain feed w = none) :
    Shows answerChain feed retention (began ++ [w]) record := by
  have hkept : kept answerChain feed retention (began ++ [w]) =
      kept answerChain feed retention began := by rw [kept_snoc, keep, hprice]
  have hsound : Sound answerChain feed retention (began ++ [w]) ↔
      Sound answerChain feed retention began := by
    rw [sound_snoc, hkept]
    exact ⟨And.left, fun h => ⟨h, h.all⟩⟩
  cases h with
  | nothing hempty h => exact .nothing (hkept.trans hempty) (hsound.2 h)
  | sound h hdecode =>
    rw [← hkept] at hdecode
    exact .sound (hsound.2 h) hdecode
  | spoilt h hdecode => exact .spoilt (mt hsound.1 h) hdecode

/-- The history that is written shows the runs, whether it can be read or not. -/
theorem shows_encode {h : History} (hsound : Sound answerChain feed retention began)
    (hdates : ∀ v ∈ began ++ [w], IsDated v)
    (hkept : kept answerChain feed retention (began ++ [w]) = .ofSamples h.samples) :
    Shows answerChain feed retention (began ++ [w]) (some h.encode) := by
  have hsamples : ∀ s ∈ h.samples, s.IsDated := by
    have hdated : ∀ s ∈ (kept answerChain feed retention (began ++ [w])).samples, s.IsDated :=
      isDated_kept hdates
    rw [hkept] at hdated
    exact fun s hs => hdated s (History.mem_ofSamples.2 hs)
  have hread := History.decode?_encode hsamples
  by_cases hall : ∀ s ∈ h.samples, s.price.isFinite = true
  · rw [if_pos (List.all_eq_true.2 hall), ← hkept] at hread
    refine .sound ((sound_snoc began w).2 ⟨hsound, ?_⟩) hread
    rw [hkept]
    exact fun s hs => hall s (History.mem_ofSamples.1 hs)
  · rw [if_neg (mt List.all_eq_true.1 hall)] at hread
    refine .spoilt (fun h => hall fun s hs => ?_) hread
    have hfinite := h.all
    rw [hkept] at hfinite
    exact hfinite s (History.mem_ofSamples.2 hs)

/-- A run keeps showing all runs. -/
theorem shows_run {record : Option Bytes} (h : Shows answerChain feed retention began record)
    (hget : w.store.get (Key.priceHistory feed.requestId) = .ok record)
    (hdates : ∀ v ∈ began ++ [w], IsDated v) :
    ∃ record', (runOf answerChain feed retention w).2.store.get
        (Key.priceHistory feed.requestId) = .ok record' ∧
      Shows answerChain feed retention (began ++ [w]) record' := by
  cases hprice : priceOf answerChain feed w with
  | none =>
    rw [(runOf_of_none hprice).2]
    exact ⟨record, hget, h.skip hprice⟩
  | some price =>
    have hkept : kept answerChain feed retention (began ++ [w]) =
        .ofSamples (extend ⟨w.now, price, feed.symbol⟩ (cutoff w.now retention)
          (kept answerChain feed retention began)).samples := by rw [kept_snoc, keep, hprice]
    cases h with
    | nothing hempty hsound =>
      rw [hempty] at hkept
      exact ⟨_, get_runOf hprice hget rfl, shows_encode hsound hdates hkept⟩
    | sound hsound hdecode =>
      exact ⟨_, get_runOf hprice hget hdecode, shows_encode hsound hdates hkept⟩
    | @spoilt raw hsound hdecode =>
      have hchange : changeOf feed retention w.now price (some raw) =
          .error (.malformed (Key.priceHistory feed.requestId) .unreadable) := by
        rw [changeOf, extendRecord, hdecode]
      rw [(runOf_of_refused hprice hget hchange).2]
      exact ⟨_, hget, .spoilt (fun h => hsound ((sound_snoc began w).1 h).1) hdecode⟩

theorem shows_runs (hfirst : first.store.get (Key.priceHistory feed.requestId) = .ok none)
    (runs : Runs answerChain feed retention first began w) (hdates : ∀ v ∈ began, IsDated v) :
    ∃ record, w.store.get (Key.priceHistory feed.requestId) = .ok record ∧
      Shows answerChain feed retention began record := by
  induction runs with
  | start => exact ⟨none, hfirst, .nothing rfl sound_nil⟩
  | run _ ih =>
    obtain ⟨record, hget, h⟩ := ih fun v hv => hdates v (List.mem_append_left _ hv)
    exact shows_run h hget hdates
  | others _ hsame ih =>
    obtain ⟨record, hget, h⟩ := ih hdates
    exact ⟨record, hsame.trans hget, h⟩

end Shows

section Readers

/-- Can the record be read, and do later runs and disputes find nothing wrong with it? -/
structure Readable (answerChain : Answerer Chain.Call.Answer χ) (feed : Feed) (retention : Nat)
    (w : World χ) : Prop where
  record : ∀ raw, w.store.get (Key.priceHistory feed.requestId) = .ok (some raw) →
    ∃ h, History.decode? raw = some h
  /-- Whatever the sources answer, and whenever they are asked. -/
  runs : ∀ w' : World χ, w'.store.get (Key.priceHistory feed.requestId) =
      w.store.get (Key.priceHistory feed.requestId) →
    ∀ key fault, (runOf answerChain feed retention w').1 ≠ .error (.store (.malformed key fault))
  checks : ∀ w' : World χ, w'.store.get (Key.priceHistory feed.requestId) =
      w.store.get (Key.priceHistory feed.requestId) →
    ∀ settings feeds value instant, ((Dispute.checkAt settings feeds feed.requestId value
      instant).outcome.run (World.answer answerChain) w').1 ≠
        .error (.nonsense (.priceHistory feed.requestId))

theorem not_malformed {record : Option Bytes}
    (hget : w.store.get (Key.priceHistory feed.requestId) = .ok record)
    (hread : ∀ raw, record = some raw → ∃ h, History.decode? raw = some h) (key : String)
    (fault : Store.Fault) :
    (runOf answerChain feed retention w).1 ≠ .error (.store (.malformed key fault)) := by
  cases hprice : priceOf answerChain feed w with
  | none =>
    rw [(runOf_of_none hprice).1]
    intro h
    cases h
  | some price =>
    obtain ⟨value, hchange⟩ : ∃ value, changeOf feed retention w.now price record = .ok value := by
      cases record with
      | none => exact ⟨_, rfl⟩
      | some raw =>
        obtain ⟨h, hdecode⟩ := hread raw rfl
        rw [changeOf, extendRecord, hdecode]
        exact ⟨_, rfl⟩
    rw [(runOf_of_taken hprice hget hchange).1]
    intro h
    cases h

theorem run_get (key : String) (w : World χ) :
    (get key).outcome.run (World.answer answerChain) w =
      ((World.stored (w.store.get key)).mapError Failure.ofProxy, w) := rfl

theorem not_nonsense {record : Option Bytes}
    (hget : w.store.get (Key.priceHistory feed.requestId) = .ok record)
    (hread : ∀ raw, record = some raw → ∃ h, History.decode? raw = some h)
    (settings : Dispute.Settings) (feeds : List Feed) (value : Word) (instant : Int) :
    ((Dispute.checkAt settings feeds feed.requestId value instant).outcome.run
      (World.answer answerChain) w).1 ≠ .error (.nonsense (.priceHistory feed.requestId)) := by
  unfold Dispute.checkAt
  cases Feed.granularity? feeds feed.requestId with
  | none =>
    intro h
    cases h
  | some granularity =>
    simp only
    rw [run_andThen, run_get, hget]
    cases record with
    | none =>
      intro h
      cases h
    | some raw =>
      obtain ⟨h, hdecode⟩ := hread raw rfl
      simp only [World.stored, mapError_ok, hdecode]
      intro h
      cases h

/-- The record of the history can be read after runs just when they never kept a price that is not
finite. -/
theorem readable_iff (hfirst : first.store.get (Key.priceHistory feed.requestId) = .ok none)
    (runs : Runs answerChain feed retention first began w) (hdates : ∀ v ∈ began, IsDated v) :
    Readable answerChain feed retention w ↔
      ∀ n, ∀ s ∈ (kept answerChain feed retention (began.take n)).samples,
        s.price.isFinite = true := by
  obtain ⟨record, hget, hshows⟩ := shows_runs hfirst runs hdates
  constructor
  · intro hreadable
    cases hshows with
    | nothing _ hsound => exact hsound
    | sound hsound _ => exact hsound
    | spoilt _ hdecode =>
      obtain ⟨h, hread⟩ := hreadable.record _ hget
      rw [hdecode] at hread
      cases hread
  · intro hsound
    have hread : ∀ raw, record = some raw → ∃ h, History.decode? raw = some h := by
      rintro raw rfl
      cases hshows with
      | sound _ hdecode => exact ⟨_, hdecode⟩
      | spoilt hunsound _ => exact absurd hsound hunsound
    refine ⟨fun raw hraw => ?_, fun w' hsame => ?_, fun w' hsame => ?_⟩
    · rw [hget] at hraw
      exact hread raw (Except.ok.inj hraw)
    · exact not_malformed (hsame.trans hget) hread
    · exact not_nonsense (hsame.trans hget) hread

theorem isDated_offering (x : Float) (hits : Nat) : IsDated (offering x hits) := by
  rw [IsDated, now_offering]
  norm_num

/-- Two sources with the price of one hundred. -/
theorem readable_hundred :
    (offering 100.0 0).store.get (Key.priceHistory 1) = .ok none ∧
      IsDated (offering 100.0 0) ∧
      Readable noChain (offered 2) 3600 (runOf noChain (offered 2) 3600 (offering 100.0 0)).2 := by
  have hfound : found noChain (offered 2).sources (offering 100.0 0) = [100.0, 100.0] :=
    found_offering (by decide +kernel) 2 0
  obtain ⟨price, hfinite, hprice⟩ : ∃ price : Float, price.isFinite = true ∧
      priceOf noChain (offered 2) (offering 100.0 0) = some price := by
    refine ⟨_, ?_, by rw [priceOf, hfound, medianOf_two]⟩
    decide +kernel
  refine ⟨rfl, isDated_offering _ _, (readable_iff rfl (.run .start) ?_).2 ?_⟩
  · rintro v hv
    rw [List.nil_append, List.mem_singleton] at hv
    exact hv ▸ isDated_offering _ _
  · intro n s hs
    match n with
    | 0 => exact absurd hs List.not_mem_nil
    | n + 1 =>
      rw [List.nil_append, List.take_succ_cons, List.take_nil, kept, List.foldl_cons,
        List.foldl_nil, keep, hprice] at hs
      simp only [now_offering, extend_first, History.mem_ofSamples] at hs
      rw [List.mem_singleton.1 hs]
      exact hfinite

/-- Two sources with a price of more than half the greatest double. Their mean is infinite, and
nothing can be read of the record that is written of it. -/
theorem unreadable_overflow :
    (offering 1.7e308 0).store.get (Key.priceHistory 1) = .ok none ∧
      IsDated (offering 1.7e308 0) ∧
      found noChain (offered 2).sources (offering 1.7e308 0) = [1.7e308, 1.7e308] ∧
      Price.isPrice 1.7e308 = true ∧
      (runOf noChain (offered 2) 3600 (offering 1.7e308 0)).1 = .ok () ∧
      ∃ raw, (runOf noChain (offered 2) 3600 (offering 1.7e308 0)).2.store.get
          (Key.priceHistory 1) = .ok (some raw) ∧
        History.decode? raw = none := by
  have hvalid : Price.isPrice 1.7e308 = true := by decide +kernel
  have hfound : found noChain (offered 2).sources (offering 1.7e308 0) = [1.7e308, 1.7e308] :=
    found_offering hvalid 2 0
  obtain ⟨price, hinfinite, hprice⟩ : ∃ price : Float, price.isFinite = false ∧
      priceOf noChain (offered 2) (offering 1.7e308 0) = some price := by
    refine ⟨_, ?_, by rw [priceOf, hfound, medianOf_two]⟩
    decide +kernel
  have hchange : changeOf (offered 2) 3600 (offering 1.7e308 0).now price none =
      .ok (History.encode ⟨[⟨0, price, "ETH/USD"⟩]⟩) := by
    rw [now_offering, changeOf, extendRecord, extend_first]
    rfl
  obtain ⟨hok, hhistory, -⟩ := runOf_of_taken hprice rfl hchange
  refine ⟨rfl, isDated_offering _ _, hfound, hvalid, hok, _, hhistory, ?_⟩
  rw [History.decode?_encode, if_neg]
  · simp [hinfinite]
  · intro s hs
    rw [List.mem_singleton.1 hs]
    norm_num [Sample.IsDated]

end Readers

end Tracker
end PriceOracle
