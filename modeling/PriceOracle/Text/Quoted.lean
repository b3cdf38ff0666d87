import PriceOracle.Text.Blank
import PriceOracle.Text.Hidden

/-!
# PriceOracle.Text.Quoted

Text in quotes, as error messages show it. A backslash and the quote in use are written after a
backslash, the usual controls by their letter, any other hidden character by its number in
braces; everything else stands for itself.
-/

namespace PriceOracle
namespace Text

/-- Lower-case hexadecimal digits of a number. -/
def hexDigits (n : Nat) : List Char := Nat.toDigits 16 n

def isHidden (c : Char) : Bool := inRanges hiddenRanges c.toNat

/-- One character between quotes of the kind `quote`. -/
def escapeChar (quote : Char) (c : Char) : List Char :=
  if c == quote || c == '\\' then ['\\', c]
  else if c == '\n' then ['\\', 'n']
  else if c == '\r' then ['\\', 'r']
  else if c == '\t' then ['\\', 't']
  else if c == '\x00' then ['\\', '0']
  else if 0x20 ≤ c.toNat && c.toNat < 0x7F then [c]
  else if isHidden c then ['\\', 'u', '\x7b'] ++ hexDigits c.toNat ++ ['\x7d']
  else [c]

def quoted (s : String) : String :=
  String.ofList ('"' :: s.toList.flatMap (escapeChar '"') ++ ['"'])

def quotedChar (c : Char) : String :=
  String.ofList ('\'' :: escapeChar '\'' c ++ ['\''])

end Text
end PriceOracle
