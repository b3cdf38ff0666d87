import PriceOracle.Decimal.Layout

/-!
# PriceOracle.Json.Basic

JSON values. A number is an integer of at most 64 bits or a double. The reader is lenient, since a
record may hold fields that nobody looks at: a number beyond the doubles is read as an infinity
and a text with half a surrogate pair as `torn`. `sound` says that a value has neither and is not
nested too deep, and `canonical` sorts the fields of every object, the last of equal names
winning.
-/

namespace PriceOracle
namespace Json

inductive Number where
  | integer (i : Int)
  | double (x : Float)

/-- Integers from the least signed to the greatest unsigned one of 64 bits. -/
def Number.isInteger64 (i : Int) : Bool := -(Nat.pow 2 63 : Int) ≤ i && i < Nat.pow 2 64

def Number.toFloat : Number → Float
  | .integer (.ofNat n) => Float.ofNat n
  | .integer (.negSucc n) => -(Float.ofNat (n + 1))
  | .double x => x

end Json

inductive Json where
  | null
  | bool (b : Bool)
  | number (n : Json.Number)
  | string (s : String)
  /-- A value whose text names half a surrogate pair. -/
  | torn
  | array (items : List Json)
  | object (fields : List (String × Json))

namespace Json

def deepest : Nat := 127

mutual

/-- Does the value consist of whole texts and finite numbers, nested at most `room` deep? -/
def soundWithin (room : Nat) : Json → Bool
  | .null => true
  | .bool _ => true
  | .number (.integer _) => true
  | .number (.double x) => x.isFinite
  | .string _ => true
  | .torn => false
  | .array items => 0 < room && soundItems (room - 1) items
  | .object fields => 0 < room && soundFields (room - 1) fields

def soundItems (room : Nat) : List Json → Bool
  | [] => true
  | j :: rest => soundWithin room j && soundItems room rest

def soundFields (room : Nat) : List (String × Json) → Bool
  | [] => true
  | (_, j) :: rest => soundWithin room j && soundFields room rest

end

def sound (j : Json) : Bool := soundWithin deepest j

/-- Put a field into fields that are sorted by name, replacing one of the same name. -/
def insertField (name : String) (j : Json) : List (String × Json) → List (String × Json)
  | [] => [(name, j)]
  | (n, k) :: rest =>
    if name < n then (name, j) :: (n, k) :: rest
    else if name = n then (name, j) :: rest
    else (n, k) :: insertField name j rest

mutual

/-- The value with the fields of every object sorted, the last of equal names winning. -/
def canonical : Json → Json
  | .array items => .array (canonicalItems items)
  | .object fields => .object (canonicalFields [] fields)
  | j => j

def canonicalItems : List Json → List Json
  | [] => []
  | j :: rest => canonical j :: canonicalItems rest

def canonicalFields (done : List (String × Json)) : List (String × Json) → List (String × Json)
  | [] => done
  | (name, j) :: rest => canonicalFields (insertField name (canonical j) done) rest

end

/-- The first field of that name. -/
def lookup (name : String) : List (String × Json) → Option Json
  | [] => none
  | (n, j) :: rest => if n = name then some j else lookup name rest

end Json
end PriceOracle
