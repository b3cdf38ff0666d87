import PriceOracle.Proofs.Proxy.Local
import PriceOracle.Proofs.Proxy.Net

/-!
# PriceOracle.Proofs.Proxy.Server

All that the server says to one client, whatever it sends. Each text is answered, in the state in
which the texts before have left the store, up to the first request to close; then the server leaves.
The store is changed by the puts that make sense, and by nothing else.

* `take_text`: what comes of one text.
* `served_serve`: what comes of all frames, by induction on them.
* `serve_account`: the answers and the store.
-/

namespace PriceOracle
namespace Proxy
namespace Server

/-- Does the text ask the server to close? -/
def leaves (s : String) : Bool := Request.ofText? s = some .close

/-- What is to be written, if the text asks for that and the value makes sense. -/
def write? (s : String) : Option (String × Bytes) :=
  match Request.ofText? s with
  | some (.put key value) => (Hex.decode value).toOption.map (key, ·)
  | _ => none

/-- The texts of a client, as long as it stays. -/
def texts (frames : List Frame) : List String :=
  (frames.takeWhile (· ≠ .close)).filterMap Frame.text?

/-- The texts before the first request to close. -/
def stayed (texts : List String) : List String := texts.takeWhile fun s => !leaves s

/-- The texts up to the first request to close. -/
def heeded (texts : List String) : List String := stayed texts ++ (texts.find? leaves).toList

/-- The store after some writing. -/
def written (l : Local) (writes : List (String × Bytes)) : Local :=
  writes.foldl (fun l w => (l.put w.1 w.2).2) l

/-- The answer to a text, by what it asks and by what the store says to that. A text that is no
request is answered by an error of any words. -/
inductive Answers (l : Local) (s : String) : Response → Prop where
  | noRequest {message : String} : Request.ofText? s = none → Answers l s (.error message)
  | found {key : String} {record : Option Bytes} : Request.ofText? s = some (.get key) →
      l.get key = .ok record → Answers l s (.value (record.map Hex.encode))
  | unread {key : String} {e : Store.Error} : Request.ofText? s = some (.get key) →
      l.get key = .error e → Answers l s (.error e.message)
  | put {key value : String} {bytes : Bytes} : Request.ofText? s = some (.put key value) →
      Hex.decode value = .ok bytes → (l.put key bytes).1 = .ok () → Answers l s .ack
  | unwritten {key value : String} {bytes : Bytes} {e : Store.Error} :
      Request.ofText? s = some (.put key value) → Hex.decode value = .ok bytes →
      (l.put key bytes).1 = .error e → Answers l s (.error e.message)
  | badHex {key value : String} {fault : Hex.Fault} :
      Request.ofText? s = some (.put key value) → Hex.decode value = .error fault →
      Answers l s (.error (badHexMessage key fault))
  | close : Request.ofText? s = some .close → Answers l s .ack

/-- Texts are answered one after another, each in the store that the ones before have left. -/
inductive Served : Local → List String → List Response → Local → Prop where
  | nil (l : Local) : Served l [] [] l
  | cons {l l' : Local} {s : String} {rest : List String} {r : Response} {rs : List Response} :
      Answers l s r → Served (written l (write? s).toList) rest rs l' →
      Served l (s :: rest) (r :: rs) l'

/-- The text is no request, or asks to put a value that is no hexadecimal text. -/
def IsMalformed (s : String) : Prop :=
  Request.ofText? s = none ∨
    ∃ key value, Request.ofText? s = some (.put key value) ∧ ¬Hex.IsPaired value

section Text

variable {s : String}

theorem leaves_iff : leaves s = true ↔ Request.ofText? s = some .close := decide_eq_true_iff

theorem write?_of_leaves (h : leaves s = true) : write? s = none := by
  rw [write?, leaves_iff.1 h]

/-- What comes of one text: an answer, what it asks to write, and whether the server stays. -/
theorem take_text (l : Local) (s : String) : ∃ r,
    take l (.text s) = ⟨some r, !leaves s, written l (write? s).toList⟩ ∧ Answers l s r := by
  simp only [take, leaves, write?]
  cases hs : Request.ofText? s with
  | none => exact ⟨_, rfl, .noRequest hs⟩
  | some request =>
    cases request with
    | close => exact ⟨_, rfl, .close hs⟩
    | get key =>
      simp only [execute]
      cases hget : l.get key with
      | ok record => exact ⟨_, rfl, .found hs hget⟩
      | error e => exact ⟨_, rfl, .unread hs hget⟩
    | put key value =>
      simp only [execute]
      cases hvalue : Hex.decode value with
      | error fault => exact ⟨_, rfl, .badHex hs hvalue⟩
      | ok bytes =>
        have hwritten : written l ((Except.ok bytes : Except Hex.Fault Bytes).toOption.map
            (key, ·)).toList = (l.put key bytes).2 := rfl
        simp only [hwritten]
        obtain ⟨result, l', hput⟩ : ∃ result l', l.put key bytes = (result, l') := ⟨_, _, rfl⟩
        cases result with
        | ok =>
          refine ⟨_, ?_, .put hs hvalue (congrArg Prod.fst hput)⟩
          rw [hput]
          rfl
        | error e =>
          refine ⟨_, ?_, .unwritten hs hvalue (congrArg Prod.fst hput)⟩
          rw [hput]
          rfl

theorem take_of_isMalformed (h : IsMalformed s) (l : Local) :
    ∃ message, take l (.text s) = ⟨some (.error message), true, l⟩ := by
  rw [take]
  obtain hs | ⟨key, value, hs, hvalue⟩ := h
  · rw [hs]
    exact ⟨_, rfl⟩
  · rw [← Hex.exists_decode_iff, not_exists] at hvalue
    rw [hs]
    simp only [execute]
    cases hdecode : Hex.decode value with
    | ok bytes => exact absurd hdecode (hvalue bytes)
    | error fault => exact ⟨_, rfl⟩

end Text

section Frames

variable {l l' : Local} {rs : List Response} {frames : List Frame}

theorem heeded_cons (s : String) (rest : List String) :
    heeded (s :: rest) = if leaves s then [s] else s :: heeded rest := by
  cases hs : leaves s <;> simp [heeded, stayed, hs]

theorem served_serve (l : Local) (frames : List Frame) :
    Served l (heeded (texts frames)) (serve l frames).1 (serve l frames).2 := by
  induction frames generalizing l with
  | nil => exact .nil l
  | cons frame rest ih =>
    cases frame with
    | binary | ping => exact ih l
    | close => exact .nil l
    | text s =>
      obtain ⟨r, htake, hanswers⟩ := take_text l s
      have htexts : texts (.text s :: rest) = s :: texts rest := rfl
      simp only [htexts, heeded_cons, serve, htake]
      cases leaves s with
      | true => exact .cons hanswers (.nil _)
      | false => exact .cons hanswers (ih _)

theorem Served.length_eq {texts : List String} (h : Served l texts rs l') :
    rs.length = texts.length := by
  induction h with
  | nil => rfl
  | cons _ _ ih => exact congrArg (· + 1) ih

theorem Served.store_eq {texts : List String} (h : Served l texts rs l') :
    l' = written l (texts.filterMap write?) := by
  induction h with
  | nil => rfl
  | @cons l _ s rest _ _ _ _ ih =>
    rw [ih, written, written, ← List.foldl_append]
    cases hs : write? s with
    | none => rw [List.filterMap_cons_none hs]; rfl
    | some w => rw [List.filterMap_cons_some hs]; rfl

/-- A request to close writes nothing. -/
theorem filterMap_heeded (texts : List String) :
    (heeded texts).filterMap write? = (stayed texts).filterMap write? := by
  rw [heeded, List.filterMap_append]
  cases hfind : texts.find? leaves with
  | none => exact List.append_nil _
  | some s =>
    have hs := write?_of_leaves (List.find?_some hfind)
    rw [Option.toList_some, List.filterMap_cons_none hs]
    exact List.append_nil _

theorem records?_written {records : Store.Records} (h : l.records? = some records)
    (writes : List (String × Bytes)) :
    (written l writes).records? = some (Table.putAll records writes) := by
  induction writes generalizing l records with
  | nil => exact h
  | cons w writes ih => exact ih (Local.put_of_records h w.1 w.2).2

/-- Who has been let go is not heard any more. -/
theorem serve_append (h : ∃ s ∈ texts frames, leaves s = true) (l : Local) (more : List Frame) :
    serve l (frames ++ more) = serve l frames := by
  induction frames generalizing l with
  | nil =>
    obtain ⟨s, hmem, -⟩ := h
    cases hmem
  | cons frame rest ih =>
    cases frame with
    | binary | ping => exact ih h l
    | close =>
      obtain ⟨s, hmem, -⟩ := h
      cases hmem
    | text s =>
      obtain ⟨r, htake, -⟩ := take_text l s
      rw [List.cons_append]
      simp only [serve, htake]
      cases hs : leaves s with
      | true => rfl
      | false =>
        obtain ⟨s', hmem, hs'⟩ := h
        obtain rfl | hmem := List.mem_cons.1 hmem
        · cases hs.symm.trans hs'
        · rw [ih ⟨s', hmem, hs'⟩]

/-- The server answers the texts of a client up to the first request to close, each in the store
that the ones before have left, and nothing after it. The store is what the puts before have made of
it, as far as their values are hexadecimal texts; a text that makes no sense is answered by an
error, and all stays as it is. -/
theorem serve_account (l : Local) (frames : List Frame) :
    Served l (heeded (texts frames)) (serve l frames).1 (serve l frames).2 ∧
      (serve l frames).1.length = (heeded (texts frames)).length ∧
      ((∃ s ∈ texts frames, leaves s = true) →
        ∀ more, serve l (frames ++ more) = serve l frames) ∧
      (serve l frames).2 = written l ((stayed (texts frames)).filterMap write?) ∧
      (∀ records, l.records? = some records → (serve l frames).2.records? =
        some (Table.putAll records ((stayed (texts frames)).filterMap write?))) ∧
      ∀ s, IsMalformed s → ∀ l', ∃ message,
        take l' (.text s) = ⟨some (.error message), true, l'⟩ := by
  have hserved := served_serve l frames
  have hstore : (serve l frames).2 = written l ((stayed (texts frames)).filterMap write?) := by
    rw [hserved.store_eq, filterMap_heeded]
  refine ⟨hserved, hserved.length_eq, fun h more => serve_append h l more, hstore,
    fun records hrecords => ?_, fun s hs l' => take_of_isMalformed hs l'⟩
  rw [hstore]
  exact records?_written hrecords _

end Frames
end Server
end Proxy
end PriceOracle
