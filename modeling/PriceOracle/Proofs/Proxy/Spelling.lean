import PriceOracle.Proofs.Json.Record
import PriceOracle.Proofs.Proxy.Message

/-!
# PriceOracle.Proofs.Proxy.Spelling

How a message may be spelled: its fields in any order and with others among them, or their values in
an array; escapes and blanks are a matter of the text. Whatever the spelling, a message that is
written again has one text, which is left as it is.

* `Request.ofText?_iff`, `Response.ofText?_iff`: all texts that are read as a message.
* `texts_settle`: reading and writing again, and again.
-/

namespace PriceOracle
namespace Proxy

open Json (Spells ofName record?_iff record?_missing_iff isBare_iff tagged?_iff tagged?_object
  tagged?_array)

theorem required_string?_iff {field : Option Json} {s : String} :
    Json.required Json.string? field = some s ↔ field = some (.string s) := by
  cases field with
  | none => simp [Json.required]
  | some j => cases j <;> simp [Json.required, Json.string?]

namespace Request

variable {j : Json} {r : Request}

def kind : Request → String
  | .get _ => "get"
  | .put _ _ => "put"
  | .close => "close"

def fields : Request → List (String × Json)
  | .get key => [("key", .string key)]
  | .put key value => [("key", .string key), ("value", .string value)]
  | .close => []

/-- Does a value spell the request? -/
def IsSpelled (r : Request) (j : Json) : Prop :=
  j.sound = true ∧ Spells (("op", .string r.kind) :: r.fields) j

theorem getOfJson?_iff : getOfJson? j = some r ↔ "get" = r.kind ∧ Spells r.fields j := by
  constructor
  · intro h
    unfold getOfJson? at h
    split at h
    · next key b hrecord =>
      obtain ⟨k, hk, rfl⟩ := Option.map_eq_some_iff.1 h
      rw [required_string?_iff.1 hk] at hrecord
      exact ⟨rfl, record?_iff.1 ⟨b, hrecord⟩⟩
    · cases h
  · rintro ⟨hkind, hspells⟩
    cases r with
    | get key =>
      obtain ⟨b, hrecord⟩ := record?_iff.2 hspells
      have hrecord : Json.record? ["key"] j = some ⟨[some (.string key)], b⟩ := hrecord
      rw [getOfJson?, hrecord]
      rfl
    | put | close => exact absurd hkind (by simp [kind])

theorem putOfJson?_iff : putOfJson? j = some r ↔ "put" = r.kind ∧ Spells r.fields j := by
  constructor
  · intro h
    unfold putOfJson? at h
    split at h
    · next key value b hrecord =>
      obtain ⟨k, hk, h⟩ := Option.bind_eq_some_iff.1 h
      obtain ⟨v, hv, h⟩ := Option.bind_eq_some_iff.1 h
      cases h
      rw [required_string?_iff.1 hk, required_string?_iff.1 hv] at hrecord
      exact ⟨rfl, record?_iff.1 ⟨b, hrecord⟩⟩
    · cases h
  · rintro ⟨hkind, hspells⟩
    cases r with
    | put key value =>
      obtain ⟨b, hrecord⟩ := record?_iff.2 hspells
      have hrecord : Json.record? ["key", "value"] j =
          some ⟨[some (.string key), some (.string value)], b⟩ := hrecord
      rw [putOfJson?, hrecord]
      rfl
    | get | close => exact absurd hkind (by simp [kind])

theorem close_iff : Json.isBare j = true ∧ .close = r ↔ "close" = r.kind ∧ Spells r.fields j := by
  cases r <;> simp [kind, fields, isBare_iff]

/-- A request is read of its kind and of what spells its fields. -/
theorem ofJson?_eq_some : ofJson? j = some r ↔
    ∃ body, Json.tagged? "op" j = some (r.kind, body) ∧ Spells r.fields body := by
  unfold ofJson?
  split
  · next body htagged => simp [htagged, getOfJson?_iff]
  · next body htagged => simp [htagged, putOfJson?_iff]
  · next body htagged => simp [htagged, close_iff]
  · next hget hput hclose =>
    refine ⟨nofun, fun ⟨body, htagged, _⟩ => ?_⟩
    cases r with
    | get key => exact absurd htagged (hget body)
    | put key value => exact absurd htagged (hput body)
    | close => exact absurd htagged (hclose body)

/-- All texts that are read as a request. -/
theorem ofText?_iff {s : String} :
    ofText? s = some r ↔ ∃ j, Json.parse s = some j ∧ r.IsSpelled j := by
  have htag : ∀ f ∈ r.fields, f.1 ≠ "op" := by
    cases r <;> simp [fields]
  rw [ofText?, Option.bind_eq_some_iff]
  simp only [ofJson?_eq_some, tagged?_iff htag, IsSpelled]

/-- A text that is read as a request and written again. -/
def rewrite? (s : String) : Option String := (ofText? s).map text

end Request

namespace Response

variable {j : Json} {r : Response}

def kind : Response → String
  | .value _ => "value"
  | .ack => "ack"
  | .error _ => "error"

def fields : Response → List (String × Json)
  | .value v => [("value", optional v)]
  | .ack => []
  | .error message => [("message", .string message)]

/-- An object that leaves out the value of a response without one. -/
def IsShort (r : Response) (j : Json) : Prop :=
  r = .value none ∧ ∃ all, j = .object all ∧ ofName "value" all = []

/-- Does a value spell the response? -/
def IsSpelled (r : Response) (j : Json) : Prop :=
  j.sound = true ∧ (Spells (("type", .string r.kind) :: r.fields) j ∨
    r.IsShort j ∧ Spells [("type", .string "value")] j)

theorem required_nullable_iff {field : Option Json} {v : Option String} :
    Json.required (Json.nullable Json.string?) field = some v ↔ field = some (optional v) := by
  cases field with
  | none => simp [Json.required]
  | some j =>
    cases v <;> cases j <;> simp [Json.required, Json.nullable, Json.string?, optional]

theorem valueOfJson?_iff : valueOfJson? j = some r ↔
    "value" = r.kind ∧ (Spells r.fields j ∨ r.IsShort j) := by
  constructor
  · intro h
    unfold valueOfJson? at h
    split at h
    · next hrecord =>
      cases h
      exact ⟨rfl, .inr ⟨rfl, record?_missing_iff.1 hrecord⟩⟩
    · next field b _ hrecord =>
      obtain ⟨v, hv, rfl⟩ := Option.map_eq_some_iff.1 h
      rw [required_nullable_iff.1 hv] at hrecord
      exact ⟨rfl, .inl (record?_iff.1 ⟨b, hrecord⟩)⟩
    · cases h
  · rintro ⟨hkind, hspells | ⟨rfl, hmissing⟩⟩
    · cases r with
      | value v =>
        obtain ⟨b, hrecord⟩ := record?_iff.2 hspells
        have hrecord : Json.record? ["value"] j = some ⟨[some (optional v)], b⟩ := hrecord
        rw [valueOfJson?, hrecord]
        exact congrArg (Option.map Response.value) (required_nullable_iff.2 rfl)
      | ack | error => exact absurd hkind (by simp [kind])
    · rw [valueOfJson?, record?_missing_iff.2 hmissing]

theorem errorOfJson?_iff : errorOfJson? j = some r ↔
    "error" = r.kind ∧ (Spells r.fields j ∨ r.IsShort j) := by
  constructor
  · intro h
    unfold errorOfJson? at h
    split at h
    · next message b hrecord =>
      obtain ⟨m, hm, rfl⟩ := Option.map_eq_some_iff.1 h
      rw [required_string?_iff.1 hm] at hrecord
      exact ⟨rfl, .inl (record?_iff.1 ⟨b, hrecord⟩)⟩
    · cases h
  · rintro ⟨hkind, hspells | ⟨rfl, -⟩⟩
    · cases r with
      | error message =>
        obtain ⟨b, hrecord⟩ := record?_iff.2 hspells
        have hrecord : Json.record? ["message"] j = some ⟨[some (.string message)], b⟩ := hrecord
        rw [errorOfJson?, hrecord]
        rfl
      | value | ack => exact absurd hkind (by simp [kind])
    · exact absurd hkind (by simp [kind])

theorem ack_iff : Json.isBare j = true ∧ .ack = r ↔
    "ack" = r.kind ∧ (Spells r.fields j ∨ r.IsShort j) := by
  cases r <;> simp [kind, fields, isBare_iff, IsShort]

/-- A response is read of its kind and of what spells its fields, all but a missing value. -/
theorem ofJson?_eq_some : ofJson? j = some r ↔ ∃ body,
    Json.tagged? "type" j = some (r.kind, body) ∧ (Spells r.fields body ∨ r.IsShort body) := by
  unfold ofJson?
  split
  · next body htagged => simp [htagged, valueOfJson?_iff]
  · next body htagged => simp [htagged, ack_iff]
  · next body htagged => simp [htagged, errorOfJson?_iff]
  · next hvalue hack herror =>
    refine ⟨nofun, fun ⟨body, htagged, _⟩ => ?_⟩
    cases r with
    | value v => exact absurd htagged (hvalue body)
    | ack => exact absurd htagged (hack body)
    | error message => exact absurd htagged (herror body)

/-- The value is left out beside the kind just when it is left out of all fields. -/
theorem tagged?_isShort :
    (∃ body, Json.tagged? "type" j = some (r.kind, body) ∧ r.IsShort body) ↔
      j.sound = true ∧ r.IsShort j ∧ Spells [("type", .string "value")] j := by
  cases j with
  | object all =>
    have hmissing : ofName "value" (all.filter (·.1 ≠ "type")) = ofName "value" all :=
      Json.ofName_filter_ne (by simp)
    simp only [tagged?_object, and_assoc, exists_and_left, exists_eq_left, IsShort,
      Json.object.injEq, exists_eq_left', hmissing, Spells, List.forall_mem_singleton]
    refine and_congr_right fun _ => ⟨?_, ?_⟩
    · rintro ⟨hkind, rfl, hnone⟩
      exact ⟨rfl, hnone, hkind⟩
    · rintro ⟨rfl, hnone, hkind⟩
      exact ⟨hkind, rfl, hnone⟩
  | array items => simp [tagged?_array, IsShort]
  | _ => simp [Json.tagged?, IsShort]

/-- All texts that are read as a response. -/
theorem ofText?_iff {s : String} :
    ofText? s = some r ↔ ∃ j, Json.parse s = some j ∧ r.IsSpelled j := by
  have htag : ∀ f ∈ r.fields, f.1 ≠ "type" := by
    cases r <;> simp [fields]
  rw [ofText?, Option.bind_eq_some_iff]
  refine exists_congr fun j => and_congr_right fun _ => ?_
  rw [ofJson?_eq_some, IsSpelled, and_or_left, ← tagged?_iff htag, ← tagged?_isShort, ← exists_or]
  simp only [and_or_left]

/-- A text that is read as a response and written again. -/
def rewrite? (s : String) : Option String := (ofText? s).map text

end Response

/-- A message comes back from its text, whatever characters are in it. A text is read as a message
just when it spells it, and when it is written again, it is read as the same message and not
changed any more. -/
theorem texts_settle :
    (∀ r : Request, Request.ofText? r.text = some r) ∧
    (∀ r : Response, Response.ofText? r.text = some r) ∧
    (∀ (s : String) (r : Request),
      Request.ofText? s = some r ↔ ∃ j, Json.parse s = some j ∧ r.IsSpelled j) ∧
    (∀ (s : String) (r : Response),
      Response.ofText? s = some r ↔ ∃ j, Json.parse s = some j ∧ r.IsSpelled j) ∧
    (∀ s t : String, Request.rewrite? s = some t →
      Request.ofText? t = Request.ofText? s ∧ Request.rewrite? t = some t) ∧
    ∀ s t : String, Response.rewrite? s = some t →
      Response.ofText? t = Response.ofText? s ∧ Response.rewrite? t = some t := by
  refine ⟨Request.ofText?_text, Response.ofText?_text, fun s r => Request.ofText?_iff,
    fun s r => Response.ofText?_iff, fun s t h => ?_, fun s t h => ?_⟩
  · obtain ⟨r, hr, rfl⟩ := Option.map_eq_some_iff.1 h
    rw [Request.rewrite?, Request.ofText?_text, hr]
    exact ⟨rfl, rfl⟩
  · obtain ⟨r, hr, rfl⟩ := Option.map_eq_some_iff.1 h
    rw [Response.rewrite?, Response.ofText?_text, hr]
    exact ⟨rfl, rfl⟩

end Proxy
end PriceOracle
