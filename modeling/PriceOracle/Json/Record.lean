import PriceOracle.Json.Parser

/-!
# PriceOracle.Json.Record

Records in JSON. A record is an object, in which unknown fields are skipped and no known field may
come twice, or an array of the fields in their order, of which the last ones may be missing.
Whether a missing field is a fault is for the reader of the record to say.

`tagged?` reads a record of one of several kinds: an object whose tag field names the kind, or an
array that starts with the name. Such a text is looked at as a whole before its kind is known, so
it has to be sound in every part.
-/

namespace PriceOracle
namespace Json

/-- The fields of a record in their order, `none` for a missing one. -/
structure Record where
  values : List (Option Json)
  /-- The record was an object. -/
  byName : Bool

def occurrences (name : String) (fields : List (String × Json)) : Nat :=
  fields.countP (·.1 = name)

def objectRecord? (names : List String) (fields : List (String × Json)) : Option Record :=
  if names.all (occurrences · fields ≤ 1) then
    some ⟨names.map (lookup · fields), true⟩
  else none

def arrayRecord? (names : List String) (items : List Json) : Option Record :=
  if items.length ≤ names.length then
    some ⟨items.map some ++ List.replicate (names.length - items.length) none, false⟩
  else none

/-- Read a value as a record with the given fields. -/
def record? (names : List String) : Json → Option Record
  | .object fields => objectRecord? names fields
  | .array items => arrayRecord? names items
  | _ => none

/-- The kind of a tagged record and the value that holds its fields. -/
def tagged? (tag : String) (j : Json) : Option (String × Json) :=
  if !j.sound then none
  else
    match j with
    | .object fields =>
      if occurrences tag fields = 1 then
        match lookup tag fields with
        | some (.string kind) => some (kind, .object (fields.filter (·.1 ≠ tag)))
        | _ => none
      else none
    | .array (.string kind :: items) => some (kind, .array items)
    | _ => none

/-- Nothing stands in the fields of a kind that has none. An object may hold unknown ones. -/
def isBare : Json → Bool
  | .object _ => true
  | .array items => items.isEmpty
  | _ => false

def string? : Json → Option String
  | .string s => some s
  | _ => none

def integerIn? (low high : Int) : Json → Option Int
  | .number (.integer i) => if low ≤ i ∧ i ≤ high then some i else none
  | _ => none

def natural? (bits : Nat) (j : Json) : Option Nat :=
  (integerIn? 0 (Nat.pow 2 bits - 1) j).map Int.toNat

def signed? (j : Json) : Option Int := integerIn? (-Nat.pow 2 63) (Nat.pow 2 63 - 1) j

def double? : Json → Option Float
  | .number n => if n.toFloat.isFinite then some n.toFloat else none
  | _ => none

def list? {α : Type} (item? : Json → Option α) : Json → Option (List α)
  | .array items => items.mapM item?
  | _ => none

def required {α : Type} (read : Json → Option α) (field : Option Json) : Option α :=
  field.bind read

def defaulted {α : Type} (default : α) (read : Json → Option α) : Option Json → Option α
  | none => some default
  | some j => read j

def nullable {α : Type} (read : Json → Option α) : Json → Option (Option α)
  | .null => some none
  | j => (read j).map some

end Json
end PriceOracle
