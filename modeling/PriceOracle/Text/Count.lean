/-!
# PriceOracle.Text.Count

Counts of 64 bits as text: decimal digits, after a plus sign at most.
-/

namespace PriceOracle
namespace Count

inductive Fault where
  | empty
  | stray
  | tooLarge
  deriving Repr, DecidableEq

def Fault.message : Fault → String
  | .empty => "cannot parse integer from empty string"
  | .stray => "invalid digit found in string"
  | .tooLarge => "number too large to fit in target type"

/-- Read decimal digits onto `value`, as far as 64 bits go. -/
def readDigits (value : Nat) : List Char → Except Fault Nat
  | [] => .ok value
  | c :: rest =>
    if c.isDigit then
      let value := value * 10 + (c.toNat - 48)
      if value < Nat.pow 2 64 then readDigits value rest else .error .tooLarge
    else .error .stray

def read (text : String) : Except Fault Nat :=
  match text.toList with
  | [] => .error .empty
  | ['+'] => .error .stray
  | '+' :: rest => readDigits 0 rest
  | rest => readDigits 0 rest

end Count
end PriceOracle
