import PriceOracle.Hash.Keccak
import PriceOracle.Word

/-!
# PriceOracle.Account.Checksum

Addresses with a checksum in the case of their letters: a letter is a capital when the digit at its
place in the hash of the lower-case digits is eight or more.
-/

namespace PriceOracle
namespace Address

def digits (a : Address) : List Char := Hex.encodeChars a.toBytes

/-- Is the hexadecimal digit eight or more? -/
def isHigh (c : Char) : Bool := !('0' ≤ c && c ≤ '7')

/-- Write the letters at high places as capitals. -/
def capitals (s places : List Char) : List Char :=
  List.zipWith (fun c place => if isHigh place then c.toUpper else c) s places

/-- All 40 digits after the mark `0x`, with the checksum. -/
def checksum (a : Address) : String :=
  let places := Hex.encodeChars (Keccak.hash (Utf8.encode (String.ofList a.digits)))
  "0x" ++ String.ofList (capitals a.digits places)

end Address
end PriceOracle
