import PriceOracle.Proofs.Feed.Edits
import PriceOracle.Proofs.Proxy.Local

/-!
# PriceOracle.Proofs.Feed.Reload

A history that is written down and read back. Reading puts its samples in order, so that a history
of finite prices comes back sample by sample just when it is in order, and after edits it is as long
as the times between samples are numbers of 64 bits (`edits_reload`). A sample that is too far in
the past seems to be later than the last one, and goes elsewhere when the history is read
(`exists_reordered`). A single price that is not finite spoils the record: it is still the text of a
JSON array with an item for each sample, but no history is read from it.
-/

namespace PriceOracle

namespace Json

variable {j : Json}

theorem bounds_of_signed? {i : Int} (h : signed? j = some i) : -(2 ^ 63 : Int) ≤ i ∧ i < 2 ^ 63 := by
  unfold signed? integerIn? at h
  split at h
  · split at h
    · next hrange =>
      cases h
      have hbound : Nat.pow 2 63 = 9223372036854775808 := rfl
      rw [hbound] at hrange
      omega
    · cases h
  · cases h

theorem finite_of_double? {x : Float} (h : double? j = some x) : x.isFinite = true := by
  unfold double? at h
  split at h
  · split at h
    · next hfinite =>
      cases h
      exact hfinite
    · cases h
  · cases h

end Json

/-- A sample that was read is of an instant of 64 bits and has a finite price. -/
theorem Sample.sound_of_ofJson? {j : Json} {s : Sample} (h : ofJson? j = some s) :
    s.IsDated ∧ s.price.isFinite = true := by
  unfold ofJson? at h
  split at h
  · simp only [Option.bind_eq_bind, Option.bind_eq_some_iff, Option.some.injEq] at h
    obtain ⟨timestamp, htime, price, hprice, source, -, rfl⟩ := h
    obtain ⟨_, -, htime⟩ := Option.bind_eq_some_iff.1 htime
    obtain ⟨_, -, hprice⟩ := Option.bind_eq_some_iff.1 hprice
    exact ⟨Json.bounds_of_signed? htime, Json.finite_of_double? hprice⟩
  · cases h

namespace History

variable {h : History} {given : List Sample} {start : History} {es : List Edit}

theorem mem_edits {s : Sample} (hs : s ∈ (h.edits es).samples) :
    s ∈ h.samples ∨ Edit.record s ∈ es := by
  induction es generalizing h with
  | nil => exact .inl hs
  | cons e later ih =>
    obtain hs | hs := ih (h := h.edit e) hs
    · cases e with
      | prune before => exact .inl (List.mem_filter.1 hs).1
      | record x =>
        by_cases hx : (h.record? x).isSome = true
        · rw [samples_record hx, List.mem_append, List.mem_singleton] at hs
          obtain hs | rfl := hs
          · exact .inl hs
          · exact .inr List.mem_cons_self
        · rw [edit_refused hx] at hs
          exact .inl hs
    · exact .inr (List.mem_cons_of_mem e hs)

theorem exists_of_mem_mapM {items : List Json} {samples : List Sample}
    (h : items.mapM Sample.ofJson? = some samples) {s : Sample} (hs : s ∈ samples) :
    ∃ j, Sample.ofJson? j = some s := by
  induction items generalizing samples with
  | nil =>
    cases h
    cases hs
  | cons j rest ih =>
    simp only [List.mapM_cons, Option.bind_eq_bind, Option.bind_eq_some_iff] at h
    obtain ⟨x, hx, others, hothers, h⟩ := h
    cases h
    obtain rfl | hs := List.mem_cons.1 hs
    · exact ⟨j, hx⟩
    · exact ih hothers hs

/-- What is read of a record is in order and of finite prices, whoever has written it. -/
theorem sound_of_decode? {raw : Bytes} (hraw : decode? raw = some h) :
    h.IsOrdered ∧ ∀ s ∈ h.samples, s.IsDated ∧ s.price.isFinite = true := by
  obtain ⟨j, -, hj⟩ := Option.bind_eq_some_iff.1 hraw
  obtain ⟨samples, hsamples, rfl⟩ := Option.map_eq_some_iff.1 hj
  refine ⟨isOrdered_ofSamples samples, fun s hs => ?_⟩
  unfold Json.list? at hsamples
  split at hsamples
  · obtain ⟨item, hitem⟩ := exists_of_mem_mapM hsamples (mem_ofSamples.1 hs)
    exact Sample.sound_of_ofJson? hitem
  · cases hsamples

/-- What was written down is JSON, with an item for each sample. -/
theorem parseBytes_encode (h : History) : ∃ items : List Json,
    Json.parseBytes h.encode = some (.array items) ∧ items.length = h.samples.length := by
  refine ⟨_, Json.parseBytes_print h.toJson, ?_⟩
  rw [echoItems_map, List.length_map]

/-- What should become of a history that is written down and read back. -/
structure Reloads (h : History) : Prop where
  array : ∃ items : List Json,
    Json.parseBytes h.encode = some (.array items) ∧ items.length = h.samples.length
  same : (∀ s ∈ h.samples, s.price.isFinite = true) → decode? h.encode = some h
  spoilt : (∃ s ∈ h.samples, s.price.isFinite = false) → decode? h.encode = none
  /-- A tracker that finds a spoilt record in a store leaves it there. -/
  refused : (∃ s ∈ h.samples, s.price.isFinite = false) →
    ∀ (l : Proxy.Local) (key : String) (s : Sample) (before : Int),
      l.get key = .ok (some h.encode) → l.update key (Tracker.extendRecord key s before) =
        (.error (.malformed key .unreadable), l)

theorem decode?_of_spoilt (hdates : ∀ s ∈ h.samples, s.IsDated)
    (hspoilt : ∃ s ∈ h.samples, s.price.isFinite = false) : decode? h.encode = none := by
  obtain ⟨s, hs, hinfinite⟩ := hspoilt
  rw [decode?_encode hdates, if_neg]
  intro hall
  rw [List.all_eq_true.1 hall s hs] at hinfinite
  cases hinfinite

theorem update_of_unreadable {raw : Bytes} (hraw : decode? raw = none) {l : Proxy.Local}
    {key : String} (hget : l.get key = .ok (some raw)) (s : Sample) (before : Int) :
    l.update key (Tracker.extendRecord key s before) =
      (.error (.malformed key .unreadable), l) := by
  simp only [Proxy.Local.update_of_get hget, Tracker.extendRecord, hraw]

theorem reloads_iff (hdates : ∀ s ∈ h.samples, s.IsDated) :
    h.Reloads ↔ ((∀ s ∈ h.samples, s.price.isFinite = true) → h.IsOrdered) := by
  have hread (hfinite : ∀ s ∈ h.samples, s.price.isFinite = true) :
      decode? h.encode = some (ofSamples h.samples) := by
    rw [decode?_encode hdates, if_pos (List.all_eq_true.2 hfinite)]
  constructor
  · intro hreloads hfinite
    have hsame := hreloads.same hfinite
    rw [hread hfinite, Option.some.injEq] at hsame
    exact ofSamples_eq_self_iff.1 hsame
  · intro hordered
    refine ⟨parseBytes_encode h, fun hfinite => ?_, decode?_of_spoilt hdates, fun hspoilt => ?_⟩
    · rw [hread hfinite, ofSamples_samples (hordered hfinite)]
    · intro l key s before hget
      exact update_of_unreadable (decode?_of_spoilt hdates hspoilt) hget s before

/-- After any edits a history is read back as it was just when it is in the order of time, and it is
as long as the times between samples are numbers of 64 bits. If some price is not finite, its text
is JSON, but no history, and the record stays as it is. -/
theorem edits_reload (hb : Begins given start) (hgiven : ∀ s ∈ given, s.IsDated)
    (hes : ∀ s, Edit.record s ∈ es → s.IsDated) :
    ((start.edits es).Reloads ↔
      ((∀ s ∈ (start.edits es).samples, s.price.isFinite = true) →
        (start.edits es).IsOrdered)) ∧
    (Measured start es → (start.edits es).IsOrdered) := by
  obtain rfl := hb.eq
  have hdates : ∀ s ∈ ((ofSamples given).edits es).samples, s.IsDated := by
    intro s hs
    obtain hs | hs := mem_edits hs
    · exact hgiven s (mem_ofSamples.1 hs)
    · exact hes s hs
  exact ⟨reloads_iff hdates, isOrdered_edits (isOrdered_ofSamples given)⟩

/-- The latest sample and the earliest one that can be dated, the former with another one of its
instant. -/
def extremes : List Sample :=
  [⟨2 ^ 63 - 1, 0.1, "ETH/€"⟩, ⟨-2 ^ 63, -0.0, "\"\\"⟩, ⟨2 ^ 63 - 1, 5e-324, "\x00"⟩]

/-- They come back, and do not when a price that is not finite was recorded between them. -/
theorem edits_reload_extremes :
    Begins extremes (ofSamples extremes) ∧ (∀ s ∈ extremes, s.IsDated) ∧
      decode? ((ofSamples extremes).edits [.prune 0]).encode =
        some ((ofSamples extremes).edits [.prune 0]) ∧
      decode? (edits .empty [.record ⟨1, infinity, "ETH/€"⟩]).encode = none := by
  have hdates : ∀ s ∈ extremes, s.IsDated := by simp [extremes, Sample.IsDated]
  have hgiven : ∀ s ∈ extremes, s.price.isFinite = true := by
    simp only [extremes, List.forall_mem_cons]
    decide +kernel
  refine ⟨.given extremes, hdates, ?_, ?_⟩
  · have hnone : ∀ s, Edit.record s ∈ [Edit.prune 0] → s.IsDated := by simp
    obtain ⟨hreloads, hordered⟩ := edits_reload (.given extremes) hdates hnone
    refine (hreloads.2 fun _ => hordered ⟨trivial, trivial⟩).same fun s hs => ?_
    obtain hs | hs := mem_edits hs
    · exact hgiven s (mem_ofSamples.1 hs)
    · simp at hs
  · have hinfinite : infinity.isFinite = false := by decide +kernel
    have hdated : ∀ s, Edit.record s ∈ [Edit.record ⟨1, infinity, "ETH/€"⟩] → s.IsDated := by
      simp [Sample.IsDated]
    obtain ⟨hreloads, hordered⟩ := edits_reload .new (by simp) hdated
    have hmeasured : Measured .empty [.record ⟨1, infinity, "ETH/€"⟩] := ⟨nofun, trivial⟩
    exact (hreloads.2 fun _ => hordered hmeasured).spoilt ⟨_, List.mem_singleton_self _, hinfinite⟩

def firstSecond : Sample := ⟨-2 ^ 63, 2.0, "X"⟩

def lastSecond : Sample := ⟨2 ^ 63 - 1, 1.0, "X"⟩

/-- The sample of the first second is taken after that of the last one, and stands before it when
the history is read back. -/
theorem exists_reordered :
    Begins [lastSecond] (ofSamples [lastSecond]) ∧
      (∀ s ∈ [firstSecond, lastSecond], s.IsDated ∧ s.price.isFinite = true) ∧
      (edits (ofSamples [lastSecond]) [.record firstSecond]).samples = [lastSecond, firstSecond] ∧
      decode? (edits (ofSamples [lastSecond]) [.record firstSecond]).encode =
        some ⟨[firstSecond, lastSecond]⟩ ∧
      ¬(edits (ofSamples [lastSecond]) [.record firstSecond]).Reloads := by
  have hsound : ∀ s ∈ [firstSecond, lastSecond], s.IsDated ∧ s.price.isFinite = true := by
    simp only [List.forall_mem_cons, firstSecond, lastSecond, Sample.IsDated]
    decide +kernel
  have hedits : edits (ofSamples [lastSecond]) [.record firstSecond] =
      ⟨[lastSecond, firstSecond]⟩ := by
    rw [ofSamples, List.mergeSort_singleton]
    rfl
  have hdates : ∀ s ∈ [lastSecond, firstSecond], s.IsDated := fun s hs => (hsound s (by grind)).1
  have hfinite : ∀ s ∈ [lastSecond, firstSecond], s.price.isFinite = true :=
    fun s hs => (hsound s (by grind)).2
  rw [hedits]
  refine ⟨.given _, hsound, rfl, ?_, fun hreloads => ?_⟩
  · rw [decode?_encode hdates, if_pos (List.all_eq_true.2 hfinite)]
    simp [ofSamples, List.mergeSort, List.MergeSort.Internal.splitInTwo, firstSecond, lastSecond]
  · have hordered := (reloads_iff hdates).1 hreloads hfinite
    simp [IsOrdered, firstSecond, lastSecond] at hordered

end History
end PriceOracle
