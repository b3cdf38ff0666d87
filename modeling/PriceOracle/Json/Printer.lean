import PriceOracle.Json.Basic

/-!
# PriceOracle.Json.Printer

JSON text without blanks. Doubles are written with the fewest digits that read back, positionally
from 1e-5 up to below 1e16 and with a signed exponent outside; NaN and the infinities, which JSON
cannot name, become `null`.
-/

namespace PriceOracle
namespace Json

/-- How JSON text writes a double. -/
def doubleStyle : Decimal.Style where
  plainFrom := some (-5)
  plainBelow := some 16
  pointZero := true
  tie := .toEven

def Number.text : Number → String
  | .integer i => toString i
  | .double x => (Decimal.renderFinite doubleStyle x).getD "null"

/-- The two digits of a control character. -/
def controlDigits (n : Nat) : List Char :=
  [if n < 16 then '0' else '1', (Nat.toDigits 16 (n % 16)).headD '0']

/-- One character of a text, as it stands between quotes. -/
def escape (c : Char) : List Char :=
  if c = '"' then ['\\', '"']
  else if c = '\\' then ['\\', '\\']
  else if 0x20 ≤ c.toNat then [c]
  else if c = '\n' then ['\\', 'n']
  else if c = '\r' then ['\\', 'r']
  else if c = '\t' then ['\\', 't']
  else if c = '\x08' then ['\\', 'b']
  else if c = '\x0c' then ['\\', 'f']
  else ['\\', 'u', '0', '0'] ++ controlDigits c.toNat

def quote (s : String) : List Char := '"' :: s.toList.flatMap escape ++ ['"']

mutual

def chars : Json → List Char
  | .null => "null".toList
  | .bool true => "true".toList
  | .bool false => "false".toList
  | .number n => n.text.toList
  | .string s => quote s
  | .torn => "null".toList
  | .array items => '[' :: itemChars items ++ [']']
  | .object fields => '\x7b' :: fieldChars fields ++ ['\x7d']

def itemChars : List Json → List Char
  | [] => []
  | [j] => chars j
  | j :: k :: rest => chars j ++ ',' :: itemChars (k :: rest)

def fieldChars : List (String × Json) → List Char
  | [] => []
  | [(name, j)] => quote name ++ ':' :: chars j
  | (name, j) :: f :: rest => quote name ++ ':' :: chars j ++ ',' :: fieldChars (f :: rest)

end

def print (j : Json) : String := String.ofList (chars j)

end Json
end PriceOracle
