import PriceOracle.Decimal.Layout
import PriceOracle.Decimal.Reading
import PriceOracle.Json.Printer
import PriceOracle.Text.Count
import PriceOracle.Text.Quoted

/-!
# PriceOracle.Feed.Price

The price in a JSON document. A path leads to it, by name through objects and by position through
arrays; at its end stands a number, or a text that holds one. Only a finite number that is not
negative is a price.
-/

namespace PriceOracle
namespace Price

inductive Fault where
  /-- An array needs a position. -/
  | noIndex (segment : String) (fault : Count.Fault)
  | outOfBounds (index : Nat)
  | missing (segment : String)
  /-- The path goes on, but the value has no parts. -/
  | leaf (value : Json) (segment : String)
  | notNumber (value : Json)
  | invalid (price : Float)

/-- A value without parts, by kind and content. -/
def describeLeaf : Json → String
  | .null => "Null"
  | .bool true => "Bool(true)"
  | .bool false => "Bool(false)"
  | .number n => "Number(" ++ n.text ++ ")"
  | .string s => "String(" ++ Text.quoted s ++ ")"
  | j => j.print

def Fault.message : Fault → String
  | .noIndex segment fault =>
    "array index expected, got " ++ Text.quoted segment ++ ": " ++ fault.message
  | .outOfBounds index => s!"index {index} out of bounds"
  | .missing segment => "missing field " ++ Text.quoted segment
  | .leaf value segment =>
    "cannot descend into " ++ describeLeaf value ++ " at " ++ Text.quoted segment
  | .notNumber value => "not a number: " ++ value.print
  | .invalid price => "invalid price " ++ Decimal.display price

def descend (j : Json) (segment : String) : Except Fault Json :=
  match j with
  | .array items =>
    match Count.read segment with
    | .error fault => .error (.noIndex segment fault)
    | .ok i =>
      match items[i]? with
      | some item => .ok item
      | none => .error (.outOfBounds i)
  | .object fields =>
    match Json.lookup segment fields with
    | some value => .ok value
    | none => .error (.missing segment)
  | _ => .error (.leaf j segment)

def follow (j : Json) : List String → Except Fault Json
  | [] => .ok j
  | segment :: rest =>
    match descend j segment with
    | .ok value => follow value rest
    | .error fault => .error fault

/-- The number that a value is or holds as a text. -/
def number? : Json → Option Float
  | .number n => some n.toFloat
  | .string s => Decimal.read? s.toList
  | _ => none

/-- Prices are finite and not negative. -/
def isPrice (x : Float) : Bool := x.isFinite && !(x < 0.0)

def ofJson (j : Json) : Except Fault Float :=
  match number? j with
  | none => .error (.notNumber j)
  | some x => if isPrice x then .ok x else .error (.invalid x)

def extract (j : Json) (path : List String) : Except Fault Float :=
  match follow j path with
  | .ok value => ofJson value
  | .error fault => .error fault

end Price
end PriceOracle
