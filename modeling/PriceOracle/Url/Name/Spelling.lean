import PriceOracle.Text.Blank
import PriceOracle.Url.Name.Table

/-!
# PriceOracle.Url.Name.Spelling

How a name is spelled, so that two names that are meant to be the same are the same: in small
letters, and in plain ones where there are other forms of them.
-/

namespace PriceOracle
namespace Url
namespace Name

/-- Marks that stand in no name. -/
def reserved : List Char := " #%/:<>?@[\\]^|".toList

def isReserved (c : Char) : Bool := c.toNat < 0x20 || c.toNat = 0x7F || reserved.contains c

def isAscii (c : Char) : Bool := c.toNat < 0x80

/-- The character of ASCII that another one is a form of. -/
def letter? (n : Nat) : Option Char :=
  letterRows.findSome? fun (first, count, c) =>
    if first ≤ n && n < first + count then some (Char.ofNat (c.toNat + (n - first))) else none

/-- The text that a character stands for. -/
def text? (n : Nat) : Option (List Char) :=
  textRows.findSome? fun (first, texts) =>
    if first ≤ n then texts[n - first]?.map String.toList else none

/-- How a character is spelled in a name, if it can stand in one. A reserved mark can, when another
mark makes it one that is not. -/
def spell? (c : Char) : Option (List Char) :=
  let n := c.toNat
  if isAscii c then some [c.toLower]
  else if Text.inRanges refusedRanges n then none
  else if Text.inRanges droppedRanges n then some []
  else some (((letter? n).map fun l => [l]) <|> text? n |>.getD [c])

/-- Is it a form of another character beyond ASCII? -/
def isVariant (c : Char) : Bool :=
  variantRanges.any fun (first, last, step) =>
    first ≤ c.toNat && c.toNat ≤ last && (c.toNat - first) % step = 0

/-- Is the character spelled by itself, and no form of another one? -/
def isPlain (c : Char) : Bool := spell? c = some [c] && !isVariant c

end Name
end Url
end PriceOracle
