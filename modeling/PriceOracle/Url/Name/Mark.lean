import PriceOracle.Url.Name.MarkTable

/-!
# PriceOracle.Url.Name.Mark

Marks and the characters they belong to. `compose` writes a text with marks in one way: marks stand
in the order of their classes, and none is left beside a character that it becomes one with.
-/

namespace PriceOracle
namespace Url
namespace Name

/-- The class under which a table lists a number. -/
def classIn? (table : List (Nat × Nat × Nat)) (n : Nat) : Option Nat :=
  table.findSome? fun (first, last, k) => if first ≤ n && n ≤ last then some k else none

/-- Is it a mark without a place of its own? -/
def isLight (c : Char) : Bool := (classIn? lightMarks c.toNat).isSome

def markClass? (c : Char) : Option Nat :=
  classIn? lightMarks c.toNat <|> classIn? spacingMarks c.toNat

def isMark (c : Char) : Bool := (markClass? c).isSome

/-- The class of a mark. Other characters have the class zero. -/
def markClass (c : Char) : Nat := (markClass? c).getD 0

/-- The class of the marks that take the vowel from a letter. -/
def virama : Nat := 9

/-- The first syllable of Hangul, the parts that syllables begin, go on and end with, and how many
there are of each. No ending counts as one, which has the number before the first one. -/
def firstSyllable : Nat := 0xAC00

def firstBeginning : Nat := 0x1100

def firstMiddle : Nat := 0x1161

def noEnding : Nat := 0x11A7

def beginnings : Nat := 19

def middles : Nat := 21

def endings : Nat := 28

/-- Is it a number of that many from the first one on? -/
def isAmong (first count n : Nat) : Bool := first ≤ n && n < first + count

def isSyllable (n : Nat) : Bool := isAmong firstSyllable (beginnings * middles * endings) n

/-- The syllable that two parts become. -/
def syllable? (a b : Nat) : Option Nat :=
  if isAmong firstBeginning beginnings a && isAmong firstMiddle middles b then
    some (firstSyllable + ((a - firstBeginning) * middles + (b - firstMiddle)) * endings)
  else if isSyllable a && (a - firstSyllable) % endings = 0 &&
      isAmong (noEnding + 1) (endings - 1) b then
    some (a + (b - noEnding))
  else none

/-- The two parts of a syllable. -/
def syllableParts? (n : Nat) : Option (Nat × Nat) :=
  let k := n - firstSyllable
  if !isSyllable n then none
  else if k % endings ≠ 0 then some (n - k % endings, noEnding + k % endings)
  else some (firstBeginning + k / endings / middles, firstMiddle + k / endings % middles)

/-- What two characters become, if they become one. -/
def union? (a b : Char) : Option Char :=
  (syllable? a.toNat b.toNat <|> unions.findSome? fun (n, fronts) =>
    if n = b.toNat then fronts.lookup a.toNat else none).map Char.ofNat

/-- The two characters that a character is the union of. -/
def parts? (c : Char) : Option (Char × Char) :=
  (syllableParts? c.toNat <|> unions.findSome? fun (n, fronts) =>
    (fronts.find? (·.2 = c.toNat)).map fun front => (front.1, n)).map
      fun (a, b) => (Char.ofNat a, Char.ofNat b)

/-- No character has more marks than this one by one. -/
def maxMarks : Nat := 4

/-- A character as the first one of a text that has no unions in it. -/
def takeApart : Nat → Char → List Char
  | 0, c => [c]
  | depth + 1, c =>
    match parts? c with
    | some (a, b) => takeApart depth a ++ [b]
    | none => [c]

/-- Puts a character behind a text, whose latest character is the first one. A mark stands in front
of marks of greater classes. -/
def place (c : Char) : List Char → List Char
  | [] => [c]
  | b :: before =>
    if markClass c ≠ 0 && markClass c < markClass b then b :: place c before else c :: b :: before

/-- A text with the marks behind each character in the order of their classes. -/
def inOrder (s : List Char) : List Char := (s.foldl (fun before c => place c before) []).reverse

/-- Makes unions of the characters of a text, which follows a character with marks, the latest one
first. A mark does not reach over another one of its class. -/
def uniteAfter (base : Option Char) (marks : List Char) : List Char → List Char
  | [] => base.toList ++ marks.reverse
  | c :: rest =>
    let reaches := marks.head?.all (markClass · < markClass c)
    match if reaches then base.bind (union? · c) else none with
    | some whole => uniteAfter (some whole) marks rest
    | none =>
      if markClass c = 0 then base.toList ++ marks.reverse ++ uniteAfter (some c) [] rest
      else uniteAfter base (c :: marks) rest

/-- The one way to write a text with marks, in which all that can be one is one. -/
def compose (s : List Char) : List Char :=
  uniteAfter none [] (inOrder (s.flatMap (takeApart maxMarks)))

end Name
end Url
end PriceOracle
