import PriceOracle.Config.Basic
import PriceOracle.Proofs.Calendar
import PriceOracle.Proofs.Feed.Median
import PriceOracle.Proofs.Feed.Record
import PriceOracle.Proofs.Feed.Reload

/-!
# PriceOracle.Proofs.Feed.Retention

What a run leaves of the stored history. The samples of the last `retention` seconds stay, and the
new one comes to them, as long as the instant that is so many seconds ago can be told
(`cutoff_eq`). Otherwise samples are kept from an instant that has not come yet, and the run drops
its own sample. A last sample that is too far in the past seems to be later than the new one, which
is refused then (`admits_iff_of_due`).

* `retains_extend`: a run takes its sample if it is due, and then drops what is too old.
* `retention_account`: when the stored history is what it should be after a run.
* `exists_dropped`: a setting with which it is not.

What is stored is told as a text here, and a history is what was read of one. The reader of numbers
is taken to read the nearest double. Nothing rests on a price that is written being read as the
same one.
-/

namespace PriceOracle

namespace Tracker

open Program (Answerer)

section Cutoff

variable {now : Int} {retention : Nat}

theorem cutoff_eq_wrapped64 (now : Int) (retention : Nat) :
    cutoff now retention = Calendar.wrapped64 (now - retention) := by
  rw [cutoff, Calendar.signed64]
  exact Int.sub_bmod_bmod

/-- Samples are kept from so many seconds ago, if that instant is one of 64 bits. -/
theorem cutoff_eq (hnow : now < 2 ^ 63) (hretention : (retention : Int) ≤ now + 2 ^ 63) :
    cutoff now retention = now - retention := by
  rw [cutoff_eq_wrapped64]
  exact Calendar.wrapped64_eq_self ⟨by omega, by omega⟩

/-- Otherwise they are kept from an instant that has not come yet. -/
theorem lt_cutoff (hnow : -2 ^ 63 ≤ now) (hretention : retention < 2 ^ 64)
    (h : ¬(retention : Int) ≤ now + 2 ^ 63) : now < cutoff now retention := by
  rw [cutoff_eq_wrapped64, Calendar.wrapped64_of_lt (by omega) (by omega)]
  omega

end Cutoff

section Extend

variable {h : History} {s : Sample} {before : Int}

/-- Is there no sample yet, or is the last one at least a second older? -/
def IsDue (h : History) (s : Sample) : Prop :=
  ∀ last ∈ h.samples.getLast?, last.timestamp + 1 ≤ s.timestamp

theorem admits_eq_true_iff (hdates : ∀ x ∈ h.samples, x.IsDated) (hs : s.IsDated) :
    h.admits s = true ↔ ∀ last ∈ h.samples.getLast?,
      1 ≤ s.timestamp - last.timestamp ∧ s.timestamp - last.timestamp < 2 ^ 63 ∨
        s.timestamp - last.timestamp < -2 ^ 63 := by
  unfold History.admits
  cases hlast : h.samples.getLast? with
  | none => simp
  | some last =>
    have hdated : last.IsDated := hdates last (List.mem_of_getLast? hlast)
    simp only [Option.mem_some_iff, forall_eq', decide_eq_true_eq]
    exact Calendar.one_le_elapsed_iff hdated hs

/-- A sample that is due is taken just when the time since the last one fits in 64 bits. -/
theorem admits_iff_of_due (hdates : ∀ x ∈ h.samples, x.IsDated) (hs : s.IsDated)
    (hdue : IsDue h s) : h.admits s = true ↔ h.Measures s := by
  rw [admits_eq_true_iff hdates hs]
  refine forall₂_congr fun last hlast => ?_
  have hlate := hdue last hlast
  unfold Calendar.IsSigned64
  omega

theorem samples_extend (hadmits : h.admits s = true) :
    (extend s before h).samples = (h.samples ++ [s]).filter fun x => before ≤ x.timestamp := by
  rw [extend, History.record?, if_pos hadmits]
  rfl

theorem samples_extend_of_refused (hrefuses : ¬h.admits s = true) :
    (extend s before h).samples = h.samples.filter fun x => before ≤ x.timestamp := by
  rw [extend, History.record?, if_neg hrefuses]
  rfl

theorem filter_sublist_extend (s : Sample) (before : Int) (h : History) :
    (h.samples.filter fun x => before ≤ x.timestamp).Sublist (extend s before h).samples := by
  by_cases hadmits : h.admits s = true
  · rw [samples_extend hadmits]
    exact (List.sublist_append_left _ _).filter _
  · rw [samples_extend_of_refused hadmits]

theorem le_of_mem_extend {x : Sample} (hx : x ∈ (extend s before h).samples) :
    before ≤ x.timestamp := of_decide_eq_true (List.mem_filter.1 hx).2

/-- A sample that is due is later than all others. One that is refused is not among them then. -/
theorem admits_of_mem_extend (hordered : h.IsOrdered) (hdue : IsDue h s)
    (hmem : s ∈ (extend s before h).samples) : h.admits s = true := by
  by_contra hrefuses
  rw [samples_extend_of_refused hrefuses] at hmem
  have hmem : s ∈ h.samples := (List.mem_filter.1 hmem).1
  cases hlast : h.samples.getLast? with
  | none => exact List.ne_nil_of_mem hmem (List.getLast?_eq_none_iff.1 hlast)
  | some last =>
    have hlate := hdue last hlast
    have hle := hordered.le_last hlast s hmem
    omega

/-- What a history should be after a run that takes a sample and keeps those of the last
`retention` seconds. -/
structure Retains (retention : Nat) (s : Sample) (h h' : History) : Prop where
  kept : (h.samples.filter fun x => s.timestamp - retention ≤ x.timestamp).Sublist h'.samples
  taken : IsDue h s → s ∈ h'.samples
  unpruned : h.admits s = true → s ∈ h'.samples
  recent : ∀ x ∈ h'.samples, s.timestamp - retention ≤ x.timestamp

theorem retains_extend (retention : Nat) (hdue : IsDue h s → h.admits s = true) :
    Retains retention s h (extend s (s.timestamp - retention) h) := by
  have hmem (hadmits : h.admits s = true) :
      s ∈ (extend s (s.timestamp - retention) h).samples := by
    rw [samples_extend hadmits, List.mem_filter, decide_eq_true_iff]
    exact ⟨List.mem_append_right _ (List.mem_singleton_self s), by omega⟩
  exact ⟨filter_sublist_extend s _ h, fun h => hmem (hdue h), hmem, fun _ => le_of_mem_extend⟩

end Extend

section Runs

variable {χ : Type} {answerChain : Answerer Chain.Call.Answer χ} {feed : Feed} {retention : Nat}
  {w : World χ}

/-- The history of a feed is stored and can be read. -/
def Stores (feed : Feed) (w : World χ) (h : History) : Prop :=
  ∃ record, w.store.get (Key.priceHistory feed.requestId) = .ok record ∧
    historyOf record = some h

theorem Stores.sound {h : History} (hstores : Stores feed w h) :
    h.IsOrdered ∧ ∀ s ∈ h.samples, s.IsDated ∧ s.price.isFinite = true := by
  obtain ⟨record, -, hrecord⟩ := hstores
  cases record with
  | none =>
    cases hrecord
    exact ⟨List.Pairwise.nil, fun s hs => absurd hs List.not_mem_nil⟩
  | some raw => exact History.sound_of_decode? hrecord

/-- A record of a history is stored, and it has nothing in it that cannot be read. -/
def Records (feed : Feed) (w : World χ) (h : History) : Prop :=
  w.store.get (Key.priceHistory feed.requestId) = .ok (some h.encode) ∧
    ∀ s ∈ h.samples, s.IsDated ∧ s.price.isFinite = true

variable {price : Float} {h h' : History}

/-- The history that a run records when it takes a price. -/
def recorded (feed : Feed) (retention : Nat) (w : World χ) (price : Float) (h : History) :
    History := extend ⟨w.now, price, feed.symbol⟩ (cutoff w.now retention) h

theorem get_recorded (retention : Nat) (hprice : priceOf answerChain feed w = some price)
    (hstores : Stores feed w h) :
    (runOf answerChain feed retention w).2.store.get (Key.priceHistory feed.requestId) =
      .ok (some (recorded feed retention w price h).encode) := by
  obtain ⟨record, hget, hrecord⟩ := hstores
  exact get_runOf hprice hget hrecord

theorem isDated_recorded (hnow : IsDated w) (hstores : Stores feed w h) :
    ∀ x ∈ (recorded feed retention w price h).samples, x.IsDated := by
  intro x hx
  obtain hx | rfl := mem_extend hx
  · exact (hstores.sound.2 x hx).1
  · exact hnow

/-- Whatever record there is after a run, it is of the samples that the run has recorded. -/
theorem mem_of_records (hnow : IsDated w) (hprice : priceOf answerChain feed w = some price)
    (hstores : Stores feed w h)
    (hrecords : Records feed (runOf answerChain feed retention w).2 h') {x : Sample} :
    x ∈ h'.samples ↔ x ∈ (recorded feed retention w price h).samples := by
  obtain ⟨hget, hsound⟩ := hrecords
  rw [get_recorded retention hprice hstores, Except.ok.injEq, Option.some.injEq] at hget
  have hread := History.decode?_encode fun x hx => (hsound x hx).1
  rw [if_pos (List.all_eq_true.2 fun x hx => (hsound x hx).2), ← hget,
    History.decode?_encode (isDated_recorded hnow hstores),
    Option.ite_none_right_eq_some, Option.some.injEq] at hread
  rw [← History.mem_ofSamples, ← hread.2, History.mem_ofSamples]

/-- What is recorded by a run that takes a price is as it should be. -/
def Retained (answerChain : Answerer Chain.Call.Answer χ) (feed : Feed) (retention : Nat)
    (w : World χ) (price : Float) (h : History) : Prop :=
  ∃ h', Records feed (runOf answerChain feed retention w).2 h' ∧
    Retains retention ⟨w.now, price, feed.symbol⟩ h h'

theorem retained_of_le (hnow : IsDated w) (hprice : priceOf answerChain feed w = some price)
    (hstores : Stores feed w h) (hretention : (retention : Int) ≤ w.now + 2 ^ 63)
    (hdue : IsDue h ⟨w.now, price, feed.symbol⟩ → h.admits ⟨w.now, price, feed.symbol⟩ = true)
    (hfinite : h.admits ⟨w.now, price, feed.symbol⟩ = true → price.isFinite = true) :
    Retained answerChain feed retention w price h := by
  have hget := get_recorded retention hprice hstores
  refine ⟨recorded feed retention w price h, ⟨hget, fun x hx => ?_⟩, ?_⟩
  · refine ⟨isDated_recorded hnow hstores x hx, ?_⟩
    by_cases hadmits : h.admits ⟨w.now, price, feed.symbol⟩ = true
    · obtain hx | rfl := mem_extend hx
      · exact (hstores.sound.2 x hx).2
      · exact hfinite hadmits
    · rw [recorded, samples_extend_of_refused hadmits] at hx
      exact (hstores.sound.2 x (List.mem_filter.1 hx).1).2
  · rw [recorded, cutoff_eq hnow.2 hretention]
    exact retains_extend retention hdue

/-- A run that ends well has taken a price, and has found a history. If the new sample is due, what
is recorded afterwards is as it should be just when the price is finite, the instant from which on
samples are kept is one of 64 bits, and so is the time since the last sample. If it is not due, it is
enough that this instant is one, and that the price is finite should the sample be taken
nevertheless. -/
theorem retention_account (hretention : retention < 2 ^ 64) (hnow : IsDated w)
    (hrun : (runOf answerChain feed retention w).1 = .ok ()) :
    ∃ price h, priceOf answerChain feed w = some price ∧ Stores feed w h ∧
      (IsDue h ⟨w.now, price, feed.symbol⟩ →
        (Retained answerChain feed retention w price h ↔
          price.isFinite = true ∧ (retention : Int) ≤ w.now + 2 ^ 63 ∧
            h.Measures ⟨w.now, price, feed.symbol⟩)) ∧
      (¬IsDue h ⟨w.now, price, feed.symbol⟩ → (retention : Int) ≤ w.now + 2 ^ 63 →
        (h.admits ⟨w.now, price, feed.symbol⟩ = true → price.isFinite = true) →
          Retained answerChain feed retention w price h) := by
  obtain ⟨price, record, h, hprice, hget, hrecord⟩ := runOf_eq_ok_iff.1 hrun
  have hstores : Stores feed w h := ⟨record, hget, hrecord⟩
  obtain ⟨hordered, hsound⟩ := hstores.sound
  refine ⟨price, h, hprice, hstores, fun hdue => ?_, fun hnot hle hfinite => ?_⟩
  · have hadmits := admits_iff_of_due (s := ⟨w.now, price, feed.symbol⟩)
      (fun x hx => (hsound x hx).1) hnow hdue
    constructor
    · rintro ⟨h', hrecords, hretains⟩
      have htaken := hretains.taken hdue
      have hmem := (mem_of_records hnow hprice hstores hrecords).1 htaken
      refine ⟨(hrecords.2 _ htaken).2, ?_, hadmits.1 (admits_of_mem_extend hordered hdue hmem)⟩
      by_contra hgreat
      -- The new sample would be older than what is kept.
      have hlt := lt_cutoff hnow.1 hretention hgreat
      have hle := le_of_mem_extend hmem
      exact hlt.not_ge hle
    · rintro ⟨hfinite, hle, hmeasures⟩
      exact retained_of_le hnow hprice hstores hle (fun _ => hadmits.2 hmeasures) fun _ => hfinite
  · exact retained_of_le hnow hprice hstores hle (fun hdue => absurd hdue hnot) hfinite

theorem stores_offering (x : Float) : Stores (offered 1) (offering x 0) .empty := ⟨none, rfl, rfl⟩

theorem isDue_empty (s : Sample) : IsDue .empty s := nofun

/-- The first sample of a feed stays for an hour. -/
theorem retention_account_hour :
    3600 < 2 ^ 64 ∧ IsDated (offering 100.0 0) ∧
      (runOf noChain (offered 1) 3600 (offering 100.0 0)).1 = .ok () ∧
      Retained noChain (offered 1) 3600 (offering 100.0 0) 100.0 .empty := by
  have hretention : 3600 < 2 ^ 64 := by decide
  have hnow := isDated_offering 100.0 0
  obtain ⟨hprice, hrun, -⟩ := run_offered (x := 100.0) (by decide +kernel) 3600
  obtain ⟨price, h, hprice', ⟨record, hget, hrecord⟩, hdue, -⟩ :=
    retention_account hretention hnow hrun
  cases hprice.symm.trans hprice'
  cases hget
  cases hrecord
  refine ⟨hretention, hnow, hrun, (hdue (isDue_empty _)).2 ⟨by decide +kernel, ?_, nofun⟩⟩
  rw [now_offering]
  norm_num

/-- With the greatest number of seconds that can be set, a run drops the sample that it has just
taken. -/
theorem exists_dropped :
    ({ service := { retention := 2 ^ 64 - 1, feeds := [offered 1] } } : Config).fault? = none ∧
      priceOf noChain (offered 1) (offering 100.0 0) = some 100.0 ∧
      (runOf noChain (offered 1) (2 ^ 64 - 1) (offering 100.0 0)).1 = .ok () ∧
      Stores (offered 1) (offering 100.0 0) .empty ∧
      IsDue .empty ⟨(offering 100.0 0).now, 100.0, "ETH/USD"⟩ ∧
      Records (offered 1) (runOf noChain (offered 1) (2 ^ 64 - 1) (offering 100.0 0)).2 .empty ∧
      ¬Retained noChain (offered 1) (2 ^ 64 - 1) (offering 100.0 0) 100.0 .empty := by
  have hnow := isDated_offering 100.0 0
  have hstores := stores_offering 100.0
  obtain ⟨hprice, hrun, -⟩ := run_offered (x := 100.0) (by decide +kernel) (2 ^ 64 - 1)
  have hrecorded : recorded (offered 1) (2 ^ 64 - 1) (offering 100.0 0) 100.0 .empty = .empty := by
    have hcutoff : cutoff 0 (2 ^ 64 - 1) = 1 := by decide
    rw [recorded, now_offering, hcutoff]
    rfl
  have hget : (runOf noChain (offered 1) (2 ^ 64 - 1) (offering 100.0 0)).2.store.get
      (Key.priceHistory 1) = .ok (some (History.encode .empty)) := by
    have hfound := get_recorded (2 ^ 64 - 1) hprice hstores
    rwa [hrecorded] at hfound
  refine ⟨by decide +kernel, hprice, hrun, hstores, isDue_empty _,
    ⟨hget, fun x hx => absurd hx List.not_mem_nil⟩, ?_⟩
  rintro ⟨h', hrecords, hretains⟩
  have hmem := (mem_of_records hnow hprice hstores hrecords).1 (hretains.taken (isDue_empty _))
  rw [hrecorded] at hmem
  exact List.not_mem_nil hmem

end Runs

end Tracker
end PriceOracle
