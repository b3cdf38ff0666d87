import PriceOracle.Word

/-!
# PriceOracle.Text.Numeral

Numerals of words. An underscore is skipped wherever it stands, so a text of underscores alone is
zero. The two bases are read in opposite directions, and a text with two faults shows it: the
reading ends at the fault it meets first.

* Base 16 is read from the last byte to the first. A numeral is too large when a digit other than
  zero stands beyond the 64 lowest places.
* Base 10 is read from the first byte to the last, nineteen digits at a time. The size is looked
  at after each full block of nineteen and at the end.
-/

namespace PriceOracle
namespace Numeral

/-- Why a text is no numeral of a word. -/
inductive Fault where
  | stray (byte : UInt8)
  | tooLarge
  deriving Repr, DecidableEq

/-- A stray byte is shown as the character of its number. -/
def Fault.message : Fault → String
  | .stray byte => "invalid digit: " ++ String.singleton (Char.ofNat byte.toNat)
  | .tooLarge => "the value is too large to fit the target type"

def underscore : UInt8 := 95

/-- Read hexadecimal digits from the lowest place up, the first of them standing at `place`. -/
def readHexUp (place value : Nat) : Bytes → Except Fault Nat
  | [] => .ok value
  | b :: rest =>
    if b = underscore then readHexUp place value rest
    else
      match Hex.value? b with
      | none => .error (.stray b)
      | some d =>
        if 64 ≤ place ∧ d ≠ 0 then .error .tooLarge
        else readHexUp (place + 1) (value + d * Nat.pow 16 place) rest

/-- The word with the given hexadecimal numeral. -/
def readHex (text : Bytes) : Except Fault Word :=
  (readHexUp 0 0 text.reverse).map (BitVec.ofNat 256)

/-- The value of a byte as a decimal digit. -/
def decimal? (b : UInt8) : Option Nat :=
  if 48 ≤ b && b ≤ 57 then some (b.toNat - 48) else none

/-- How many decimal digits are read between two looks at the size. -/
def blockSize : Nat := 19

/-- Read decimal digits onto `value`; `filled` of them have been read since the last look. -/
def readDecimalDown (filled value : Nat) : Bytes → Except Fault Nat
  | [] => if value < Nat.pow 2 256 then .ok value else .error .tooLarge
  | b :: rest =>
    if b = underscore then readDecimalDown filled value rest
    else
      match decimal? b with
      | none => .error (.stray b)
      | some d =>
        let value := value * 10 + d
        if filled + 1 = blockSize then
          if value < Nat.pow 2 256 then readDecimalDown 0 value rest else .error .tooLarge
        else readDecimalDown (filled + 1) value rest

/-- The word with the given decimal numeral. -/
def readDecimal (text : Bytes) : Except Fault Word :=
  (readDecimalDown 0 0 text).map (BitVec.ofNat 256)

/-- Read digits of a small base, the highest first. -/
def digits? (base value : Nat) : Bytes → Option Nat
  | [] => some value
  | b :: rest =>
    if b = underscore then digits? base value rest
    else
      match decimal? b with
      | some d => if d < base then digits? base (value * base + d) rest else none
      | none => none

/-- The word with a numeral whose base is told by a mark in front, base 10 if there is none. -/
def read? (text : String) : Option Word :=
  match Utf8.encode text with
  | 48 :: 120 :: rest | 48 :: 88 :: rest => (readHex rest).toOption
  | 48 :: 111 :: rest | 48 :: 79 :: rest => (digits? 8 0 rest).bind Word.ofNat?
  | 48 :: 98 :: rest | 48 :: 66 :: rest => (digits? 2 0 rest).bind Word.ofNat?
  | rest => (readDecimal rest).toOption

/-- Lower-case hexadecimal digits without leading zeros. -/
def hexChars (w : Word) : List Char := Nat.toDigits 16 w.toNat

end Numeral
end PriceOracle
