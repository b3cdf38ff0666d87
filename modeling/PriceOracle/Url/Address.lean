import PriceOracle.Text.Hex

/-!
# PriceOracle.Url.Address

Hosts that are named by numbers. A short address has up to four numbers with points between them,
the last of which fills all the bytes that are left. A long one has eight groups of 16 bits, of
which a run of zeros may be left out, and the last two may be written as a short address.
-/

namespace PriceOracle
namespace Url
namespace Address

/-- The parts between the places of a character. -/
def parts (c : Char) (s : List Char) : List (List Char) := s.splitOnP (· = c)

/-- The value of a digit in some base up to 16. -/
def digit? (base : Nat) (c : Char) : Option Nat :=
  if c.toNat < 0x80 then (Hex.value? (UInt8.ofNat c.toNat)).filter (· < base) else none

/-- The number with digits in a base. No digits are zero. -/
def natural? (base : Nat) (s : List Char) : Option Nat :=
  s.foldlM (fun n c => (digit? base c).map (n * base + ·)) 0

/-- A number of a short address: in base 16 behind `0x`, in base 8 behind another zero. -/
def number? : List Char → Option Nat
  | [] => none
  | '0' :: 'x' :: rest | '0' :: 'X' :: rest => natural? 16 rest
  | '0' :: c :: rest => natural? 8 (c :: rest)
  | s => natural? 10 s

/-- The parts between points, without an empty last one. -/
def numberedParts (s : List Char) : List (List Char) :=
  let all := parts '.' s
  if 1 < all.length && all.getLast? = some [] then all.dropLast else all

/-- Is a name meant as a short address? Its last part tells. -/
def isNumbered (s : List Char) : Bool :=
  (numberedParts s).getLast?.any fun last =>
    (!last.isEmpty && last.all Char.isDigit) || (number? last).isSome

def short? (s : List Char) : Option Nat := do
  let numbers ← (numberedParts s).mapM number?
  let last ← numbers.getLast?
  let bytes := numbers.dropLast
  let room := Nat.pow 256 (4 - bytes.length)
  if 4 < numbers.length || bytes.any (255 < ·) || room ≤ last then none
  else some (bytes.foldl (fun n b => 256 * n + b) 0 * room + last)

/-- A group of a long address has one to four digits. -/
def group? (s : List Char) : Option Nat :=
  if s.isEmpty || 4 < s.length then none else natural? 16 s

/-- A byte in decimal digits without a needless zero. -/
def byte? (s : List Char) : Option Nat :=
  if s.isEmpty || (1 < s.length && s.head? = some '0') then none
  else (natural? 10 s).filter (· < 256)

/-- The two groups that a short address inside of a long one stands for. -/
def pair? (s : List Char) : Option (List Nat) :=
  match (parts '.' s).mapM byte? with
  | some [a, b, c, d] => some [256 * a + b, 256 * c + d]
  | _ => none

/-- The groups in parts between colons. Only the very last one may be a short address. -/
def groups? (mayEndShort : Bool) : List (List Char) → Option (List Nat)
  | [] => some []
  | [s] => if mayEndShort && s.contains '.' then pair? s else (group? s).map fun g => [g]
  | s :: rest => do some ((← group? s) :: (← groups? mayEndShort rest))

/-- The groups in a text, which may be empty. -/
def groupsIn? (mayEndShort : Bool) (s : List Char) : Option (List Nat) :=
  if s.isEmpty then some [] else groups? mayEndShort (parts ':' s)

/-- The text in front of the first two colons in a row, and what is behind them. -/
def gap? : List Char → Option (List Char × List Char)
  | [] => none
  | ':' :: ':' :: rest => some ([], rest)
  | c :: rest => (gap? rest).map fun (front, behind) => (c :: front, behind)

/-- How many groups a long address has. -/
def longSize : Nat := 8

/-- The groups of the long address in a text. -/
def long? (s : List Char) : Option (List Nat) :=
  match gap? s with
  | none => (groupsIn? true s).filter (·.length = longSize)
  | some (front, behind) => do
    let front ← groupsIn? false front
    let behind ← groupsIn? true behind
    let given := front.length + behind.length
    if given < longSize then some (front ++ List.replicate (longSize - given) 0 ++ behind) else none

end Address
end Url
end PriceOracle
