import PriceOracle.Feed.Tracker
import PriceOracle.Proofs.Json.Print

/-!
# PriceOracle.Proofs.Feed.History

The record of a history. A history whose prices are all finite is read back as it was; one price
that is not finite makes the whole record unreadable (`decode?_encode`).
-/

namespace PriceOracle

namespace Sample

/-- Is the instant a signed number of 64 bits? -/
def IsDated (s : Sample) : Prop := -(2 ^ 63 : Int) ≤ s.timestamp ∧ s.timestamp < 2 ^ 63

variable {s : Sample}

theorem echo_toJson (hs : s.IsDated) :
    Json.echo s.toJson = .object [("timestamp", .number (.integer s.timestamp)),
      ("price", (Json.Number.double s.price).echo), ("source", .string s.source)] := by
  have hinteger : Json.Number.isInteger64 s.timestamp = true := by
    obtain ⟨hlow, hhigh⟩ := hs
    rw [Json.Number.isInteger64, Bool.and_eq_true, decide_eq_true_eq, decide_eq_true_eq]
    simp only [Nat.pow_eq]
    omega
  rw [toJson, Json.echo]
  simp only [Json.echoFields, Json.echo, Json.echo_integer hinteger]

theorem signed?_timestamp (hs : s.IsDated) :
    Json.signed? (.number (.integer s.timestamp)) = some s.timestamp := by
  obtain ⟨hlow, hhigh⟩ := hs
  rw [Json.signed?, Json.integerIn?, if_pos]
  simp only [Nat.pow_eq]
  omega

/-- What is read of the text of a sample. -/
theorem ofJson?_echo (hs : s.IsDated) :
    ofJson? (Json.echo s.toJson) = if s.price.isFinite then some s else none := by
  rw [echo_toJson hs]
  show (do
    let timestamp ← Json.signed? (.number (.integer s.timestamp))
    let price ← Json.double? (Json.Number.double s.price).echo
    let source ← Json.string? (.string s.source)
    some (⟨timestamp, price, source⟩ : Sample)) = _
  rw [signed?_timestamp hs]
  cases hprice : s.price.isFinite with
  | true =>
    rw [Json.echo_finite hprice]
    simp [Json.double?, Json.string?, Json.Number.toFloat, hprice]
  | false =>
    rw [Json.echo_not_finite hprice]
    rfl

end Sample

namespace History

variable {h : History} {samples : List Sample}

theorem echoItems_map (samples : List Sample) :
    Json.echoItems (samples.map Sample.toJson) =
      samples.map fun s => Json.echo s.toJson := by
  induction samples with
  | nil => rfl
  | cons s rest ih => rw [List.map_cons, Json.echoItems, ih, List.map_cons]

theorem mapM_ofJson? (hdates : ∀ s ∈ samples, s.IsDated) :
    (samples.map fun s => Json.echo s.toJson).mapM Sample.ofJson? =
      if samples.all (·.price.isFinite) then some samples else none := by
  induction samples with
  | nil => rfl
  | cons s rest ih =>
    obtain ⟨hs, hrest⟩ := List.forall_mem_cons.1 hdates
    rw [List.map_cons, List.mapM_cons, Sample.ofJson?_echo hs, ih hrest, List.all_cons]
    cases s.price.isFinite
    · rfl
    · cases rest.all (·.price.isFinite) <;> rfl

theorem decode?_encode (hdates : ∀ s ∈ h.samples, s.IsDated) :
    decode? h.encode =
      if h.samples.all (·.price.isFinite) then some (ofSamples h.samples) else none := by
  rw [decode?, encode, Json.parseBytes_print, Option.bind_some, toJson, Json.echo, ofJson?,
    Json.list?, echoItems_map, mapM_ofJson? hdates]
  split <;> rfl

/-- Samples that come one after another. -/
def IsOrdered (h : History) : Prop := h.samples.Pairwise fun a b => a.timestamp ≤ b.timestamp

theorem ofSamples_samples (hordered : h.IsOrdered) : ofSamples h.samples = h := by
  have hsorted : h.samples.Pairwise fun a b => decide (a.timestamp ≤ b.timestamp) = true :=
    hordered.imp fun hab => decide_eq_true hab
  rw [ofSamples, List.mergeSort_of_pairwise hsorted]

/-- A history of finite prices is read back as it was. -/
theorem decode?_of_finite (hordered : h.IsOrdered) (hdates : ∀ s ∈ h.samples, s.IsDated)
    (hfinite : ∀ s ∈ h.samples, s.price.isFinite = true) : decode? h.encode = some h := by
  rw [decode?_encode hdates, if_pos (List.all_eq_true.2 hfinite), ofSamples_samples hordered]

end History
end PriceOracle
