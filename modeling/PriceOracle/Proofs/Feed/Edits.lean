import PriceOracle.Proofs.Calendar
import PriceOracle.Proofs.Chain.Ledger
import PriceOracle.Proofs.Feed.History

/-!
# PriceOracle.Proofs.Feed.Edits

A history that is recorded in and pruned, over and over. Its samples are those that it began with
and those that it took since, in this order, but for the ones that were dropped by a later edit.

* `samples_edits`: nothing else is lost, and nothing comes twice.
* `pairwise_edits`: the samples stay in the order of time, as long as the times between them are
  numbers of 64 bits.
* `edits_account`: both, whatever the history began with.
-/

namespace PriceOracle
namespace History

inductive Edit where
  | record (s : Sample)
  /-- Drop the samples before an instant. -/
  | prune (before : Int)

/-- The history after an edit. A sample that is not far enough from the last one is refused. -/
def edit (h : History) : Edit → History
  | .record s => (h.record? s).getD h
  | .prune before => h.prune before

def edits (h : History) (es : List Edit) : History := es.foldl edit h

/-- Is the time since the last sample a number of 64 bits, if the edit asks for it? -/
def Edit.IsMeasured (h : History) : Edit → Prop
  | .record s => h.Measures s
  | .prune _ => True

/-- Is it so for each of some edits, one after another? -/
def Measured : History → List Edit → Prop
  | _, [] => True
  | h, e :: later => e.IsMeasured h ∧ Measured (h.edit e) later

/-- Is the sample kept by an edit that comes after it? -/
def Edit.keeps (s : Sample) : Edit → Bool
  | .record _ => true
  | .prune before => before ≤ s.timestamp

/-- A sample with the edits that come after it. -/
abbrev Entry := Sample × List Edit

def Entry.isKept (e : Entry) : Bool := e.2.all (Edit.keeps e.1)

/-- What is left of samples after the edits that come after them. -/
def remaining (entries : List Entry) : List Sample := (entries.filter Entry.isKept).map (·.1)

/-- The samples that are taken in the course of some edits. -/
def taken (h : History) : List Edit → List Entry
  | [] => []
  | .record s :: later =>
    if (h.record? s).isSome then (s, later) :: taken (h.edit (.record s)) later
    else taken (h.edit (.record s)) later
  | .prune before :: later => taken (h.prune before) later

section Record

variable {h : History} {s : Sample}

theorem admits_iff (hmeasures : h.Measures s) : h.admits s = true ↔
    h.samples = [] ∨ ∃ last, h.samples.getLast? = some last ∧ last.timestamp + 1 ≤ s.timestamp := by
  unfold admits
  split
  · next last hlast =>
    have hne : h.samples ≠ [] := by
      intro hnil
      rw [hnil] at hlast
      cases hlast
    rw [decide_eq_true_eq, Calendar.elapsed_eq (hmeasures last hlast)]
    simp only [hlast, hne, spacing, Option.some.injEq, exists_eq_left', false_or]
    omega
  · next hlast => simp only [List.getLast?_eq_none_iff.1 hlast, true_or]

theorem isSome_record? : (h.record? s).isSome = true ↔ h.admits s = true := by
  unfold record?
  split
  · next hadmits => simp only [hadmits, Option.isSome_some]
  · next hadmits => simp only [hadmits, Option.isSome_none, Bool.false_eq_true]

theorem samples_record (hs : (h.record? s).isSome = true) :
    (h.edit (.record s)).samples = h.samples ++ [s] := by
  rw [edit, record?, if_pos (isSome_record?.1 hs), Option.getD_some]

theorem edit_refused (hs : ¬(h.record? s).isSome = true) : h.edit (.record s) = h := by
  rw [edit, Option.not_isSome_iff_eq_none.1 hs, Option.getD_none]

theorem IsOrdered.le_last (hordered : h.IsOrdered) {last : Sample}
    (hlast : h.samples.getLast? = some last) : ∀ x ∈ h.samples, x.timestamp ≤ last.timestamp := by
  obtain ⟨samples⟩ := h
  unfold IsOrdered at hordered
  obtain ⟨front, rfl⟩ := List.getLast?_eq_some_iff.1 hlast
  obtain ⟨-, -, hbefore⟩ := List.pairwise_append.1 hordered
  intro x hx
  obtain hx | hx := List.mem_append.1 hx
  · exact hbefore x hx last (List.mem_singleton_self last)
  · rw [List.mem_singleton.1 hx]

/-- A sample that is taken is later than all others. -/
theorem IsOrdered.lt_of_admits (hordered : h.IsOrdered) (hmeasures : h.Measures s)
    (hadmits : h.admits s = true) : ∀ x ∈ h.samples, x.timestamp < s.timestamp := by
  intro x hx
  obtain hnil | ⟨last, hlast, hlate⟩ := (admits_iff hmeasures).1 hadmits
  · rw [hnil] at hx
    cases hx
  · have hle := hordered.le_last hlast x hx
    omega

end Record

section Samples

variable {h : History} {es : List Edit}

theorem remaining_append (xs ys : List Entry) :
    remaining (xs ++ ys) = remaining xs ++ remaining ys := by
  rw [remaining, List.filter_append, List.map_append, remaining, remaining]

theorem remaining_map (samples : List Sample) (later : List Edit) :
    remaining (samples.map (·, later)) = samples.filter fun s => later.all (Edit.keeps s) := by
  rw [remaining, List.filter_map, List.map_map]
  exact List.map_id _

/-- Of several edits the first one drops its samples first. -/
theorem remaining_cons_edit (samples : List Sample) (e : Edit) (later : List Edit) :
    remaining (samples.map (·, e :: later)) =
      remaining ((samples.filter (Edit.keeps · e)).map (·, later)) := by
  rw [remaining_map, remaining_map, List.filter_filter]
  simp only [List.all_cons, Bool.and_comm]

theorem filter_keeps_record (samples : List Sample) (s : Sample) :
    samples.filter (Edit.keeps · (.record s)) = samples :=
  List.filter_eq_self.2 fun _ _ => rfl

/-- The samples after some edits: those before them and those that were taken, in this order, as far
as no later edit has dropped them. -/
theorem samples_edits (h : History) (es : List Edit) :
    (h.edits es).samples = remaining (h.samples.map (·, es) ++ taken h es) := by
  induction es generalizing h with
  | nil =>
    rw [edits, List.foldl_nil, taken, List.append_nil, remaining,
      List.filter_eq_self.2 (by simp [Entry.isKept]), List.map_map]
    exact (List.map_id _).symm
  | cons e later ih =>
    have hstep : (h.edits (e :: later)).samples =
        remaining ((h.edit e).samples.map (·, later) ++ taken (h.edit e) later) := ih (h.edit e)
    rw [hstep, remaining_append, remaining_append, remaining_cons_edit]
    cases e with
    | prune before => rfl
    | record s =>
      rw [filter_keeps_record, taken]
      by_cases hs : (h.record? s).isSome = true
      · rw [if_pos hs, samples_record hs, List.map_append, remaining_append, List.append_assoc,
          ← remaining_append, List.map_singleton, List.singleton_append]
      · rw [if_neg hs, edit_refused hs]

/-- An edit keeps the samples in an order in which later samples come after earlier ones. -/
theorem pairwise_edit {r : Int → Int → Prop} (hr : ∀ a b, a < b → r a b) (hordered : h.IsOrdered)
    (hpairs : h.samples.Pairwise fun a b => r a.timestamp b.timestamp) {e : Edit}
    (hmeasured : e.IsMeasured h) :
    (h.edit e).samples.Pairwise fun a b => r a.timestamp b.timestamp := by
  cases e with
  | prune before => exact hpairs.filter _
  | record s =>
    by_cases hs : (h.record? s).isSome = true
    · rw [samples_record hs]
      refine List.pairwise_append.2 ⟨hpairs, List.pairwise_singleton _ _, ?_⟩
      rintro x hx y hy
      rw [List.mem_singleton.1 hy]
      exact hr _ _ (hordered.lt_of_admits hmeasured (isSome_record?.1 hs) x hx)
    · rwa [edit_refused hs]

theorem isOrdered_edit (hordered : h.IsOrdered) {e : Edit} (hmeasured : e.IsMeasured h) :
    (h.edit e).IsOrdered :=
  pairwise_edit (r := (· ≤ ·)) (fun _ _ => le_of_lt) hordered hordered hmeasured

theorem pairwise_edits {r : Int → Int → Prop} (hr : ∀ a b, a < b → r a b) (hordered : h.IsOrdered)
    (hpairs : h.samples.Pairwise fun a b => r a.timestamp b.timestamp)
    (hmeasured : Measured h es) :
    (h.edits es).samples.Pairwise fun a b => r a.timestamp b.timestamp := by
  induction es generalizing h with
  | nil => exact hpairs
  | cons e later ih =>
    obtain ⟨he, hlater⟩ := hmeasured
    exact ih (isOrdered_edit hordered he) (pairwise_edit hr hordered hpairs he) hlater

theorem isOrdered_edits (hordered : h.IsOrdered) (hmeasured : Measured h es) :
    (h.edits es).IsOrdered :=
  pairwise_edits (r := (· ≤ ·)) (fun _ _ => le_of_lt) hordered hordered hmeasured

end Samples

section OfSamples

variable {samples : List Sample}

theorem times_trans (a b c : Sample) :
    decide (a.timestamp ≤ b.timestamp) = true → decide (b.timestamp ≤ c.timestamp) = true →
      decide (a.timestamp ≤ c.timestamp) = true := by
  simp only [decide_eq_true_eq]
  omega

theorem times_total (a b : Sample) :
    (decide (a.timestamp ≤ b.timestamp) || decide (b.timestamp ≤ a.timestamp)) = true := by
  simp only [Bool.or_eq_true, decide_eq_true_eq]
  omega

theorem isOrdered_ofSamples (samples : List Sample) : (ofSamples samples).IsOrdered :=
  (List.pairwise_mergeSort times_trans times_total samples).imp of_decide_eq_true

theorem mem_ofSamples {s : Sample} : s ∈ (ofSamples samples).samples ↔ s ∈ samples :=
  (List.mergeSort_perm samples _).mem_iff

theorem ofSamples_eq_self_iff {h : History} : ofSamples h.samples = h ↔ h.IsOrdered := by
  constructor
  · intro hsame
    rw [← hsame]
    exact isOrdered_ofSamples h.samples
  · exact ofSamples_samples

/-- The samples of one instant keep their order. -/
theorem filter_ofSamples (samples : List Sample) (instant : Int) :
    (ofSamples samples).samples.filter (·.timestamp = instant) =
      samples.filter (·.timestamp = instant) := by
  rw [ofSamples, ← Chain.Ledger.mergeSort_filter times_trans times_total]
  refine List.mergeSort_of_pairwise (List.pairwise_of_forall_mem_list fun a ha b hb => ?_)
  have ha := of_decide_eq_true (List.mem_filter.1 ha).2
  have hb := of_decide_eq_true (List.mem_filter.1 hb).2
  rw [ha, hb, decide_eq_true_eq]

/-- Samples of different instants are in the strict order of time. -/
theorem strict_ofSamples (hdistinct : (samples.map (·.timestamp)).Nodup) :
    (ofSamples samples).samples.Pairwise fun a b => a.timestamp < b.timestamp := by
  have hperm : (ofSamples samples).samples.Perm samples := List.mergeSort_perm _ _
  have hne : (ofSamples samples).samples.Pairwise fun a b => a.timestamp ≠ b.timestamp :=
    List.pairwise_map.1 ((hperm.map _).nodup_iff.2 hdistinct)
  exact (isOrdered_ofSamples samples).imp₂ (fun _ _ hle hne => lt_of_le_of_ne hle hne) hne

end OfSamples

/-- What a history can begin with: nothing, samples in any order, or a record of such. -/
inductive Begins : List Sample → History → Prop where
  | new : Begins [] .empty
  | given (samples : List Sample) : Begins samples (ofSamples samples)
  | read {raw : Bytes} {j : Json} {samples : List Sample} {h : History} :
      Json.parseBytes raw = some j → Json.list? Sample.ofJson? j = some samples →
      decode? raw = some h → Begins samples h

theorem Begins.eq {samples : List Sample} {h : History} (hb : Begins samples h) :
    h = ofSamples samples := by
  cases hb with
  | new => rw [ofSamples, List.mergeSort_nil, empty]
  | given => rfl
  | read hraw hj hread =>
    rw [decode?, hraw, Option.bind_some, ofJson?, hj, Option.map_some, Option.some.injEq] at hread
    exact hread.symm

theorem edits_snoc (h : History) (es : List Edit) (e : Edit) :
    h.edits (es ++ [e]) = (h.edits es).edit e := by
  rw [edits, List.foldl_append]
  rfl

/-- After any edits a history consists of the samples that it began with, in the order of time, and
of those that it took since, less those that a later edit has dropped. As long as the times between
samples are numbers of 64 bits, it stays in the order of time, strictly so when no two samples of
the beginning are of one instant, and it takes a sample just when it is empty or its last sample is
at least a second older. A sample that is taken is appended, and one that is refused changes
nothing. -/
theorem edits_account {given : List Sample} {start : History} (hb : Begins given start)
    (es : List Edit) :
    (∃ front : List Sample, front.Perm given ∧
      front.Pairwise (fun a b => a.timestamp ≤ b.timestamp) ∧
      (∀ instant : Int, front.filter (·.timestamp = instant) =
        given.filter (·.timestamp = instant)) ∧
      (start.edits es).samples = remaining (front.map (·, es) ++ taken start es)) ∧
    (Measured start es →
      (start.edits es).samples.Pairwise (fun a b => a.timestamp ≤ b.timestamp) ∧
      ((given.map (·.timestamp)).Nodup →
        (start.edits es).samples.Pairwise fun a b => a.timestamp < b.timestamp)) ∧
    ∀ s : Sample,
      ((start.edits es).Measures s →
        (((start.edits es).record? s).isSome = true ↔ (start.edits es).samples = [] ∨
          ∃ last, (start.edits es).samples.getLast? = some last ∧
            last.timestamp + 1 ≤ s.timestamp)) ∧
      (((start.edits es).record? s).isSome = true →
        (start.edits (es ++ [.record s])).samples = (start.edits es).samples ++ [s]) ∧
      (¬((start.edits es).record? s).isSome = true →
        start.edits (es ++ [.record s]) = start.edits es) := by
  obtain rfl := hb.eq
  have hordered := isOrdered_ofSamples given
  refine ⟨⟨(ofSamples given).samples, List.mergeSort_perm _ _, hordered, filter_ofSamples given,
    samples_edits _ es⟩, fun hmeasured => ⟨?_, fun hdistinct => ?_⟩,
    fun s => ⟨fun hmeasures => ?_, fun hs => ?_, fun hs => ?_⟩⟩
  · exact isOrdered_edits hordered hmeasured
  · exact pairwise_edits (fun _ _ => id) hordered (strict_ofSamples hdistinct) hmeasured
  · exact isSome_record?.trans (admits_iff hmeasures)
  · rw [edits_snoc]
    exact samples_record hs
  · rw [edits_snoc]
    exact edit_refused hs

/-- A second sample of one instant is refused; once all samples are dropped, an older one is
taken. -/
def emptying : List Edit :=
  [.record ⟨100, 1.0, "ETH/USD"⟩, .record ⟨100, 2.0, "ETH/USD"⟩, .prune 101,
    .record ⟨50, 3.0, "ETH/USD"⟩]

theorem edits_account_emptying : Begins [] .empty ∧ Measured .empty emptying ∧
    (taken .empty emptying).map (·.1.timestamp) = [100, 50] ∧
    (edits .empty emptying).samples = [⟨50, 3.0, "ETH/USD"⟩] ∧
    (edits .empty emptying).samples.Pairwise fun a b => a.timestamp < b.timestamp := by
  have hmeasured : Measured .empty emptying := by
    simp only [Measured, emptying, Edit.IsMeasured]
    decide
  obtain ⟨⟨front, hperm, -, -, hsamples⟩, hordered, -⟩ := edits_account .new emptying
  rw [List.perm_nil.1 hperm] at hsamples
  exact ⟨.new, hmeasured, rfl, hsamples, (hordered hmeasured).2 List.nodup_nil⟩

end History
end PriceOracle
