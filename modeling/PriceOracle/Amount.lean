import PriceOracle.Text.Numeral

/-!
# PriceOracle.Amount

Token amounts. An amount is a word that counts units of `10 ^ -18` token. It is written in whole
tokens, without zeros at the end of its decimals, and read from a numeral with at most one point;
decimals past the eighteenth are cut off unread.
-/

namespace PriceOracle
namespace Amount

/-- Decimals of a token. -/
def places : Nat := 18

def format (amount : Word) : String :=
  let whole := amount.toNat / Nat.pow 10 places
  let ds := Nat.toDigits 10 (amount.toNat % Nat.pow 10 places)
  let ds := List.replicate (places - ds.length) '0' ++ ds
  let kept := (ds.reverse.dropWhile (· = '0')).reverse
  if kept.isEmpty then toString whole else toString whole ++ "." ++ String.ofList kept

inductive Fault where
  /-- Nothing stands there, or a minus sign in front. -/
  | unreadable
  | stray (byte : UInt8)
  | tooLarge
  deriving Repr, DecidableEq

def Fault.ofNumeral : Numeral.Fault → Fault
  | .stray byte => .stray byte
  | .tooLarge => .tooLarge

def Fault.cause : Fault → String
  | .unreadable => ""
  | .stray byte => ": " ++ (Numeral.Fault.stray byte).message
  | .tooLarge => ": number does not fit in the integer size"

def point : UInt8 := 46

/-- The numeral without its first point, and how many bytes followed the point. -/
def splitPoint (text : Bytes) : Bytes × Nat :=
  let whole := text.takeWhile (· ≠ point)
  match text.dropWhile (· ≠ point) with
  | [] => (whole, 0)
  | _ :: decimals => (whole ++ decimals, decimals.length)

/-- The amount in a text without white space at its ends. Where the decimals are cut off inside a
character of several bytes, the first one of them is taken for a stray byte. This is an assumption:
a reader that cuts texts between characters only stops at such a text instead of refusing it. -/
def readTrimmed (text : Bytes) : Except Fault Word :=
  if text.isEmpty || text.head? = some 45 then .error .unreadable
  else
    let (digits, decimals) := splitPoint text
    match Numeral.readDecimal (digits.take (digits.length - (decimals - places))) with
    | .error e => .error (.ofNumeral e)
    | .ok units =>
      match Word.ofNat? (units.toNat * Nat.pow 10 (places - decimals)) with
      | some amount => .ok amount
      | none => .error .tooLarge

/-- The text that is read: the given one without the white space at its ends. -/
def trimmed (raw : String) : String := String.ofList (Text.trim raw.toList)

def parse (raw : String) : Except Fault Word := readTrimmed (Utf8.encode (trimmed raw))

def refusal (raw : String) (fault : Fault) : String :=
  "invalid amount " ++ Text.quoted (trimmed raw) ++ fault.cause

end Amount
end PriceOracle
