import PriceOracle.Store.Error

/-!
# PriceOracle.Store.Quantity

Words as records. A word is written as the mark `0x` and its hexadecimal digits without leading
zeros; the reader is more lenient, it skips white space around and every mark in front.
-/

namespace PriceOracle
namespace Quantity

def encode (w : Word) : Bytes := Utf8.encode (String.ofList ('0' :: 'x' :: Numeral.hexChars w))

def digits (text : String) : List Char := Hex.dropMarks (Text.trim text.toList)

def read (raw : Bytes) : Except Store.Fault Word :=
  match Utf8.decode raw with
  | .error e => .error (.text e)
  | .ok text =>
    let ds := digits text
    if ds.isEmpty then .error .empty
    else (Numeral.readHex (Utf8.encode (String.ofList ds))).mapError .numeral

/-- The word in the record under a key. -/
def decode (key : String) (raw : Bytes) : Except Store.Error Word :=
  (read raw).mapError (.malformed key)

end Quantity
end PriceOracle
