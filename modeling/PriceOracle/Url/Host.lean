import PriceOracle.Url.Address
import PriceOracle.Url.Name.Script
import PriceOracle.Url.Name.Spelling
import PriceOracle.Url.Punycode

/-!
# PriceOracle.Url.Host

The host in a URL: a name, an address, or, behind a scheme that the web does not know, any text
without the marks that have a meaning in URLs.
-/

namespace PriceOracle
namespace Url

inductive Host where
  | name (spelled : List Char)
  | short (address : Nat)
  | long (groups : List Nat)
  | other (text : List Char)
  deriving Repr, DecidableEq

namespace Name

/-- What stands in front of a label in ASCII that stands for another one. -/
def coded : List Char := ['x', 'n', '-', '-']

def isCodable (label : List Char) : Bool :=
  !label.all isAscii && label.all isPlain && compose label = label && !coded.isPrefixOf label

/-- A code has no more characters than that. -/
def longestCode : Nat := 2000

/-- A label that is to be written in code has no more characters than that. -/
def longestLabel : Nat := 1000

def meaning? (label : List Char) : Option (List Char) :=
  if coded.isPrefixOf label then
    let code := label.drop coded.length
    if code.length ≤ longestCode then (Punycode.decode? code).filter isCodable else none
  else if label.all isAscii || label.length ≤ longestLabel then some label
  else none

/-- Does nothing in a label depend on what stands in front of it? -/
def isWhole (label : List Char) : Bool := !label.head?.any isMark && joinersFit label

/-- Do all labels of a name that has been spelled mean something? -/
def isSound (spelled : List Char) : Bool :=
  match (Address.parts '.' spelled).mapM meaning? with
  | none => false
  | some labels => labels.all isWhole && (!labels.any isLeftward || labels.all isSteady)

end Name

namespace Host

/-- Bytes, with a percent sign and two digits read as the byte with that number. -/
def unescape : Bytes → Bytes
  | 0x25 :: h :: l :: rest =>
    match Hex.value? h, Hex.value? l with
    | some h, some l => UInt8.ofNat (16 * h + l) :: unescape rest
    | _, _ => 0x25 :: unescape (h :: l :: rest)
  | b :: rest => b :: unescape rest
  | [] => []

def spelled? (s : List Char) : Option (List Char) :=
  match Utf8.decode (unescape (Utf8.encode (String.ofList s))) with
  | .ok text => do
    let name := Name.compose (← text.toList.mapM Name.spell?).flatten
    if name.any Name.isReserved then none else some name
  | .error _ => none

/-- The host with a name or a short address. -/
def named? (s : List Char) : Option Host :=
  match spelled? s with
  | none | some [] => none
  | some spelled =>
    if !Name.isSound spelled then none
    else if Address.isNumbered spelled then (Address.short? spelled).map .short
    else some (.name spelled)

/-- The host in brackets, of which the first one has been read. -/
def bracketed? (s : List Char) : Option Host :=
  if s.getLast? = some ']' then (Address.long? s.dropLast).map .long else none

/-- The host behind a scheme of the web. -/
def ofText? : List Char → Option Host
  | '[' :: rest => bracketed? rest
  | s => named? s

/-- Marks that stand in no host of any kind. -/
def marks : List Char := "\x00\t\n\r #/:<>?@[\\]^|".toList

def anyOfText? : List Char → Option Host
  | '[' :: rest => bracketed? rest
  | s => if s.any marks.contains then none else some (.other s)

def shortText (n : Nat) : List Char :=
  [n / 16777216 % 256, n / 65536 % 256, n / 256 % 256, n % 256].map (fun b => Nat.toDigits 10 b)
    |> List.intersperse ['.'] |> List.flatten

/-- The host as a text, a long address without its brackets. -/
def text : Host → String
  | .name spelled => String.ofList spelled
  | .short n => String.ofList (shortText n)
  | .long groups =>
    String.ofList ((groups.map (Nat.toDigits 16 ·)).intersperse [':']).flatten
  | .other text => String.ofList text

end Host
end Url
end PriceOracle
