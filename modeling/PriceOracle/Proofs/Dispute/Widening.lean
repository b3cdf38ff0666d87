import PriceOracle.Config.Basic
import PriceOracle.Proofs.Dispute.Advice
import PriceOracle.Proofs.Feed.Check

/-!
# PriceOracle.Proofs.Dispute.Widening

Two windows around one instant. A check within the wider one shows all that a check within the
narrower one shows, as long as the greater distance is still read as the greater one (`widens_iff`).
A distance that is read as a negative number leaves nothing to show (`exists_nothing_shown`).
-/

namespace PriceOracle

namespace History

variable {h : History} {value threshold granularity : Float} {instant d d' : Int} {check : Check}

theorem around_sublist (hle : d ≤ d') : (h.around instant d).Sublist (h.around instant d') := by
  refine List.monotone_filter_right _ fun s hs => ?_
  rw [decide_eq_true_eq] at hs ⊢
  exact hs.trans hle

theorem check_eq_some_iff : h.check value instant d threshold granularity = some check ↔
    h.around instant d ≠ [] ∧ judge (h.around instant d) value threshold granularity = check := by
  unfold History.check
  split
  · next hnil => simp only [hnil, ne_eq, not_true_eq_false, false_and, reduceCtorEq]
  · next hne =>
    rw [Option.some.injEq]
    exact (and_iff_right hne).symm

theorem check_alone (s : Sample) (hd : 0 ≤ d) :
    (History.mk [s]).check value s.timestamp d threshold granularity =
      some (judge [s] value threshold granularity) := by
  rw [check_eq_some_iff, around_own, if_pos hd]
  exact ⟨List.cons_ne_nil _ _, rfl⟩

/-- The samples that a check shows: their prices and times. -/
def Check.evidence (c : Check) : List (Float × Int) := c.datapoints.zip c.times

theorem evidence_judge (window : List Sample) :
    (judge window value threshold granularity).evidence =
      window.map fun s => (s.price, s.timestamp) := List.zip_map'

theorem check_widened (hle : d ≤ d')
    (hcheck : h.check value instant d threshold granularity = some check) :
    ∃ wider, h.check value instant d' threshold granularity = some wider ∧
      check.evidence.Sublist wider.evidence := by
  have hsub : (h.around instant d).Sublist (h.around instant d') := around_sublist hle
  obtain ⟨hne, rfl⟩ := check_eq_some_iff.1 hcheck
  refine ⟨_, check_eq_some_iff.2 ⟨fun hnil => ?_, rfl⟩, ?_⟩
  · rw [hnil] at hsub
    exact hne (List.sublist_nil.1 hsub)
  · rw [evidence_judge, evidence_judge]
    exact hsub.map _

end History

namespace Dispute

open Calendar Node Node.Action
open Program (Answerer)

section Widens

variable {σ : Type} {answer : Answerer Reply σ} {settings : Settings} {feeds : List Feed}
  {requestId narrow wide : Nat} {value : Word} {instant : Int} {s : σ} {check : History.Check}

/-- A value is judged by the stored history of a request with a feed. -/
theorem run_checkAt_of_stored {granularity : Float} {raw : Bytes} {h : History}
    (hunit : Feed.granularity? feeds requestId = some granularity)
    (hget : (answer (.get (Key.priceHistory requestId)) s).1 = .ok (some raw))
    (hraw : History.decode? raw = some h) :
    ((checkAt settings feeds requestId value instant).outcome.run answer s).1 =
      .ok (h.check (approximate value) instant (signed64 settings.timeDelta) settings.threshold
        granularity) := by
  rw [checkAt, hunit]
  simp only [run_andThen, outcome_get, Program.run_ask, Program.run_done, hget, mapError_ok, hraw]
  rfl

/-- Without one it is not judged at all. -/
theorem stored_of_run_checkAt
    (hcheck : ((checkAt settings feeds requestId value instant).outcome.run answer s).1 =
      .ok (some check)) :
    ∃ granularity raw h, Feed.granularity? feeds requestId = some granularity ∧
      (answer (.get (Key.priceHistory requestId)) s).1 = .ok (some raw) ∧
      History.decode? raw = some h := by
  rw [checkAt] at hcheck
  cases hunit : Feed.granularity? feeds requestId with
  | none =>
    rw [hunit] at hcheck
    cases hcheck
  | some granularity =>
    simp only [hunit, run_andThen, outcome_get, Program.run_ask, Program.run_done] at hcheck
    generalize answer (.get (Key.priceHistory requestId)) s = given at hcheck ⊢
    obtain ⟨reply, s'⟩ := given
    cases reply with
    | error e => cases hcheck
    | ok record =>
      cases record with
      | none => cases hcheck
      | some raw =>
        simp only [mapError_ok] at hcheck
        cases hraw : History.decode? raw with
        | none =>
          rw [hraw] at hcheck
          cases hcheck
        | some h => exact ⟨granularity, raw, h, rfl, rfl, hraw⟩

/-- Whatever is stored and asked, a value that is judged by the samples within the first distance is
also judged by those within the second one, which are these and maybe more. -/
def Widens (narrow wide : Nat) : Prop :=
  ∀ (σ : Type) (answer : Answerer Reply σ) (s : σ) (settings : Settings) (feeds : List Feed)
    (requestId : Nat) (value : Word) (instant : Int) (check : History.Check),
    ((checkAt { settings with timeDelta := narrow } feeds requestId value instant).outcome.run
        answer s).1 = .ok (some check) →
      ∃ wider, ((checkAt { settings with timeDelta := wide } feeds requestId value
          instant).outcome.run answer s).1 = .ok (some wider) ∧
        check.evidence.Sublist wider.evidence

theorem widens_of_le (hle : signed64 narrow ≤ signed64 wide) : Widens narrow wide := by
  intro σ answer s settings feeds requestId value instant check hcheck
  obtain ⟨granularity, raw, h, hunit, hget, hraw⟩ := stored_of_run_checkAt hcheck
  rw [run_checkAt_of_stored hunit hget hraw, Except.ok.injEq] at hcheck
  obtain ⟨wider, hwider, hsub⟩ := History.check_widened hle hcheck
  exact ⟨wider, (run_checkAt_of_stored hunit hget hraw).trans (congrArg Except.ok hwider), hsub⟩

end Widens

section Stored

def hundred : Sample := ⟨1000, 100.0, "X"⟩

/-- What comes of one hundred at the instant of the only sample. -/
theorem run_checkAt_hundred (delta : Nat) :
    ((checkAt { timeDelta := delta } [disputedFeed] 1 100 1000).outcome.run
        (World.answer Chain.Ledger.answer) (keeping [hundred])).1 =
      .ok ((History.mk [hundred]).check (approximate 100) 1000 (signed64 delta) 0.01 1.0) := by
  have hget : (keeping [hundred]).store.get (Key.priceHistory 1) =
      .ok (some (History.encode ⟨[hundred]⟩)) := by
    rw [Proxy.Local.get_of_records rfl, Table.get?, if_pos rfl]
  refine run_checkAt_of_stored rfl (congrArg World.stored hget) ?_
  refine History.decode?_of_finite (List.pairwise_singleton _ _) ?_ ?_
  · simp [hundred, Sample.IsDated]
  · rw [List.forall_mem_singleton]
    rfl

/-- The sample of an instant is within every distance, but for one that is read as a negative
number. -/
theorem check_hundred {delta : Int} (hdelta : 0 ≤ delta) :
    ∃ check, (History.mk [hundred]).check (approximate 100) 1000 delta 0.01 1.0 = some check ∧
      check.evidence = [(100.0, 1000)] ∧ check.within = true :=
  ⟨_, History.check_alone hundred hdelta, rfl, rfl⟩

theorem check_hundred_of_neg {delta : Int} (hdelta : delta < 0) :
    (History.mk [hundred]).check (approximate 100) 1000 delta 0.01 1.0 = none := by
  have hnone : (History.mk [hundred]).around 1000 delta = [] :=
    (History.around_own hundred delta).trans (if_neg (not_le.2 hdelta))
  rw [History.check, hnone]

/-- A greater distance loses nothing just when it is not read as a negative number, unless the other
one is read so as well. -/
theorem widens_iff {narrow wide : Nat} (hle : narrow ≤ wide) (hwide : wide < 2 ^ 64) :
    Widens narrow wide ↔ wide < 2 ^ 63 ∨ 2 ^ 63 ≤ narrow := by
  rw [← signed64_le_iff hle hwide]
  refine ⟨fun hwidens => ?_, widens_of_le⟩
  by_contra hlt
  -- Only the greater distance is read as a negative number.
  obtain ⟨hnarrow, hnegative⟩ : narrow < 2 ^ 63 ∧ 2 ^ 63 ≤ wide := by
    rw [signed64_le_iff hle hwide] at hlt
    omega
  have hnarrow : 0 ≤ signed64 narrow := by
    rw [signed64_eq_self hnarrow]
    exact Int.natCast_nonneg _
  obtain ⟨check, hcheck, -⟩ := check_hundred hnarrow
  obtain ⟨wider, hwider, -⟩ := hwidens _ _ (keeping [hundred]) {} [disputedFeed] 1 100 1000 check
    ((run_checkAt_hundred narrow).trans (congrArg Except.ok hcheck))
  rw [run_checkAt_hundred, check_hundred_of_neg (signed64_neg hnegative hwide)] at hwider
  cases hwider

/-- An hour shows all that five minutes show. -/
theorem widens_hour : 300 ≤ 3600 ∧ 3600 < 2 ^ 64 ∧ Widens 300 3600 := by
  have hle : 300 ≤ 3600 := by decide
  have hwide : 3600 < 2 ^ 64 := by decide
  exact ⟨hle, hwide, (widens_iff hle hwide).2 (.inl (by decide))⟩

/-- The greatest distance that can be set shows nothing of what is within five minutes. -/
theorem exists_nothing_shown :
    ({ dispute := { timeDelta := 300 } } : Config).fault? = none ∧
      ({ dispute := { timeDelta := 2 ^ 64 - 1 } } : Config).fault? = none ∧
      (∃ check, ((checkAt { timeDelta := 300 } [disputedFeed] 1 100 1000).outcome.run
          (World.answer Chain.Ledger.answer) (keeping [hundred])).1 = .ok (some check) ∧
        check.evidence = [(100.0, 1000)] ∧ check.within = true) ∧
      ((checkAt { timeDelta := 2 ^ 64 - 1 } [disputedFeed] 1 100 1000).outcome.run
        (World.answer Chain.Ledger.answer) (keeping [hundred])).1 = .ok none := by
  have hdelta : 0 ≤ signed64 300 := by decide
  obtain ⟨check, hcheck, hshown⟩ := check_hundred hdelta
  refine ⟨by decide +kernel, by decide +kernel,
    ⟨check, (run_checkAt_hundred 300).trans (congrArg Except.ok hcheck), hshown⟩, ?_⟩
  rw [run_checkAt_hundred, check_hundred_of_neg (by decide)]

end Stored

end Dispute
end PriceOracle
