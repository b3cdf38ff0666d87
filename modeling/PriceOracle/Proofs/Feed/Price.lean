import PriceOracle.Feed.Price
import PriceOracle.Proofs.Json.Record
import PriceOracle.Proofs.Text.Count

/-!
# PriceOracle.Proofs.Feed.Price

The price at the end of a path. A segment leads from a value to one of its parts (`Part`), or the
value has no such part for one reason (`Blocked`); a path leads through parts to a value (`Leads`),
or gets stuck where the first part is missing (`Stuck`). What comes behind that place does not
matter.

* `follow_eq_ok_iff`, `follow_eq_error_iff`: following a path finds the value, or the reason.
* `extract_append`: a path can be cut anywhere.
* `extract_account`: what is extracted, when it fails, and which numbers are prices.
-/

namespace PriceOracle
namespace Price

/-- What a segment leads to: the item of an array at the position that it denotes, and the first
field of an object that it names. -/
inductive Part : Json → String → Json → Prop where
  | item {items : List Json} {segment : String} {i : Nat} {v : Json}
      (hindex : Count.Denotes segment i) (hitem : items[i]? = some v) :
      Part (.array items) segment v
  | field {front back : List (String × Json)} {segment : String} {v : Json}
      (hfirst : ∀ f ∈ front, f.1 ≠ segment) :
      Part (.object (front ++ (segment, v) :: back)) segment v

/-- Why a segment leads nowhere. -/
inductive Blocked : Json → String → Fault → Prop where
  | noIndex {items : List Json} {segment : String} {fault : Count.Fault}
      (hread : Count.read segment = .error fault) :
      Blocked (.array items) segment (.noIndex segment fault)
  | outOfBounds {items : List Json} {segment : String} {i : Nat}
      (hindex : Count.Denotes segment i) (hlength : items.length ≤ i) :
      Blocked (.array items) segment (.outOfBounds i)
  | missing {fields : List (String × Json)} {segment : String}
      (hnone : ∀ f ∈ fields, f.1 ≠ segment) : Blocked (.object fields) segment (.missing segment)
  | leaf {j : Json} {segment : String} (harray : ∀ items, j ≠ .array items)
      (hobject : ∀ fields, j ≠ .object fields) : Blocked j segment (.leaf j segment)

/-- What a path leads to. -/
inductive Leads : Json → List String → Json → Prop where
  | here {j : Json} : Leads j [] j
  | into {j v u : Json} {segment : String} {rest : List String} (hpart : Part j segment v)
      (hrest : Leads v rest u) : Leads j (segment :: rest) u

/-- Where a path gets stuck, and why. -/
inductive Stuck : Json → List String → Fault → Prop where
  | here {j : Json} {segment : String} {rest : List String} {fault : Fault}
      (hblocked : Blocked j segment fault) : Stuck j (segment :: rest) fault
  | later {j v : Json} {segment : String} {rest : List String} {fault : Fault}
      (hpart : Part j segment v) (hrest : Stuck v rest fault) : Stuck j (segment :: rest) fault

/-- The number that a value is, or that is written in it. -/
inductive Holds : Json → Float → Prop where
  | number {n : Json.Number} : Holds (.number n) n.toFloat
  | text {s : String} {x : Float} (hread : Decimal.read? s.toList = some x) : Holds (.string s) x

section Descend

variable {j v : Json} {segment : String} {fault : Fault}

theorem descend_eq_ok_iff : descend j segment = .ok v ↔ Part j segment v := by
  constructor
  · intro h
    unfold descend at h
    split at h
    · split at h
      · cases h
      next i hi =>
      split at h
      · next hitem =>
        cases h
        exact .item (Count.read_eq_ok_iff.1 hi) hitem
      · cases h
    · split at h
      · next hfield =>
        cases h
        obtain ⟨front, back, rfl, hfirst⟩ := Json.lookup_eq_some_iff_append.1 hfield
        exact .field hfirst
      · cases h
    · cases h
  · intro h
    cases h with
    | item hindex hitem => simp only [descend, Count.read_eq_ok_iff.2 hindex, hitem]
    | field hfirst =>
      simp only [descend, Json.lookup_eq_some_iff_append.2 ⟨_, _, rfl, hfirst⟩]

theorem descend_eq_error_iff : descend j segment = .error fault ↔ Blocked j segment fault := by
  constructor
  · intro h
    unfold descend at h
    split at h
    · split at h
      · next hread =>
        cases h
        exact .noIndex hread
      next i hi =>
      split at h
      · cases h
      · next hitem =>
        cases h
        exact .outOfBounds (Count.read_eq_ok_iff.1 hi) (List.getElem?_eq_none_iff.1 hitem)
    · split at h
      · cases h
      · next hfield =>
        cases h
        exact .missing (Json.lookup_eq_none_iff_forall.1 hfield)
    · next harray hobject =>
      cases h
      exact .leaf harray hobject
  · intro h
    cases h with
    | noIndex hread => simp only [descend, hread]
    | outOfBounds hindex hlength =>
      simp only [descend, Count.read_eq_ok_iff.2 hindex, List.getElem?_eq_none hlength]
    | missing hnone => simp only [descend, Json.lookup_eq_none_iff_forall.2 hnone]
    | leaf harray hobject =>
      unfold descend
      split
      · next items => exact absurd rfl (harray items)
      · next fields => exact absurd rfl (hobject fields)
      · rfl

end Descend

section Follow

variable {j v : Json} {p : List String} {fault : Fault} {x : Float}

theorem extract_append (j : Json) (p q : List String) :
    extract j (p ++ q) = (follow j p).bind (extract · q) := by
  induction p generalizing j with
  | nil => rfl
  | cons segment p ih =>
    rw [List.cons_append, extract, follow, follow]
    cases descend j segment with
    | error fault => rfl
    | ok v => exact ih v

theorem follow_eq_ok_iff : follow j p = .ok v ↔ Leads j p v := by
  induction p generalizing j with
  | nil =>
    rw [follow, Except.ok.injEq]
    constructor
    · rintro rfl
      exact .here
    · intro h
      cases h
      rfl
  | cons segment p ih =>
    rw [follow]
    constructor
    · intro h
      split at h
      · next u hu => exact .into (descend_eq_ok_iff.1 hu) (ih.1 h)
      · cases h
    · intro h
      cases h with
      | into hpart hrest =>
        rw [descend_eq_ok_iff.2 hpart]
        exact ih.2 hrest

theorem follow_eq_error_iff : follow j p = .error fault ↔ Stuck j p fault := by
  induction p generalizing j with
  | nil =>
    rw [follow]
    constructor
    · intro h
      cases h
    · intro h
      cases h
  | cons segment p ih =>
    rw [follow]
    constructor
    · intro h
      split at h
      · next u hu => exact .later (descend_eq_ok_iff.1 hu) (ih.1 h)
      · next hfault =>
        cases h
        exact .here (descend_eq_error_iff.1 hfault)
    · intro h
      cases h with
      | here hblocked => rw [descend_eq_error_iff.2 hblocked]
      | later hpart hrest =>
        rw [descend_eq_ok_iff.2 hpart]
        exact ih.2 hrest

theorem number?_eq_some_iff : number? v = some x ↔ Holds v x := by
  constructor
  · intro h
    unfold number? at h
    split at h
    · cases h
      exact .number
    · exact .text h
    · cases h
  · intro h
    cases h with
    | number => rfl
    | text hread => exact hread

theorem isPrice_eq_true_iff : isPrice x = true ↔ x.isFinite = true ∧ ¬x < 0.0 := by
  rw [isPrice, Bool.and_eq_true, Bool.not_eq_true', decide_eq_false_iff_not]

theorem ofJson_eq_ok_iff : ofJson v = .ok x ↔ number? v = some x ∧ isPrice x = true := by
  rw [ofJson]
  cases number? v with
  | none => simp
  | some y =>
    by_cases hy : isPrice y = true
    · simp only [hy, if_true, Except.ok.injEq, Option.some.injEq]
      constructor
      · rintro rfl
        exact ⟨rfl, hy⟩
      · exact fun h => h.1
    · simp only [hy, if_false, reduceCtorEq, Option.some.injEq, false_iff]
      rintro ⟨rfl, hx⟩
      exact hy hx

theorem isPrice_of_extract (h : extract j p = .ok x) : isPrice x = true := by
  rw [extract] at h
  split at h
  · exact (ofJson_eq_ok_iff.1 h).2
  · cases h

/-- A path can be cut anywhere: behind the value that its front leads to, the rest is a path of its
own. If the front leads nowhere, that alone is why there is no price. A price is what the value at
the end is or holds, if that is finite and not negative. -/
theorem extract_account (j : Json) (p : List String) :
    (∀ q x, extract j (p ++ q) = .ok x ↔ ∃ v, Leads j p v ∧ extract v q = .ok x) ∧
      ((¬∃ v, Leads j p v) ↔
        ∃ fault, Stuck j p fault ∧ ∀ q, extract j (p ++ q) = .error fault) ∧
      ∀ x, extract j p = .ok x ↔ ∃ v, Leads j p v ∧ Holds v x ∧ x.isFinite = true ∧ ¬x < 0.0 := by
  simp only [extract_append, ← follow_eq_ok_iff, ← follow_eq_error_iff, ← number?_eq_some_iff,
    ← isPrice_eq_true_iff, ← ofJson_eq_ok_iff]
  rw [extract]
  cases follow j p with
  | ok v => simp [Except.bind]
  | error fault => simp [Except.bind]

end Follow

end Price
end PriceOracle
