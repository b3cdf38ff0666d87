import PriceOracle.Text.Blank
import PriceOracle.Url.Name.Mark
import PriceOracle.Url.Name.ScriptTable

/-!
# PriceOracle.Url.Name.Script

Rules for labels that are written in some scripts: a label with letters from right to left should
look the same wherever it stands, and a joiner should stand only where it makes a difference.
-/

namespace PriceOracle
namespace Url
namespace Name

open Text (inRanges)

inductive Direction where
  | rightward
  | leftward
  | leftwardDigit
  | digit
  | neutral
  /-- Like the character before it. -/
  | mark
  deriving Repr, DecidableEq

def Direction.of (c : Char) : Direction :=
  let n := c.toNat
  if n < 0x80 then if c.isAlpha then .rightward else if c.isDigit then .digit else .neutral
  else if inRanges leftwardRanges n then .leftward
  else if inRanges leftwardDigitRanges n then .leftwardDigit
  else if inRanges digitRanges n then .digit
  else if inRanges neutralRanges n then .neutral
  else if isLight c then .mark
  else .rightward

/-- Is anything in the label written from right to left? -/
def isLeftward (label : List Char) : Bool :=
  (label.map Direction.of).any fun d => d = .leftward || d = .leftwardDigit

/-- Does the last one but the marks have one of those directions? -/
def endsIn (allowed ds : List Direction) : Bool :=
  ((ds.reverse.dropWhile (· = .mark)).head?).any allowed.contains

/-- Does a label look the same wherever it stands? -/
def isSteady (label : List Char) : Bool :=
  let ds := label.map Direction.of
  match ds.head? with
  | none => true
  | some .leftward =>
    !ds.contains .rightward && endsIn [.leftward, .digit, .leftwardDigit] ds &&
      !(ds.contains .digit && ds.contains .leftwardDigit)
  | some .rightward =>
    !ds.contains .leftward && !ds.contains .leftwardDigit && endsIn [.rightward, .digit] ds
  | some _ => false

/-- The sign that joins its neighbours. -/
def joiner : Char := '\u200D'

/-- The sign that keeps its neighbours apart. -/
def nonJoiner : Char := '\u200C'

def joinsBehind (c : Char) : Bool :=
  inRanges bothJoiningRanges c.toNat || inRanges foreJoiningRanges c.toNat

def joinsBefore (c : Char) : Bool :=
  inRanges bothJoiningRanges c.toNat || inRanges backJoiningRanges c.toNat

/-- Do letters come together, past any marks, that would join each other? `before` is the text in
front, the latest character first. -/
def wouldJoin (before rest : List Char) : Bool :=
  ((before.dropWhile isLight).head?).any joinsBehind &&
    ((rest.dropWhile isLight).head?).any joinsBefore

/-- Does each joiner in a text make a difference? `before` is the text in front of it, the latest
character first. -/
def joinersFitAfter (before : List Char) : List Char → Bool
  | [] => true
  | c :: rest =>
    let afterVirama := before.head?.any (markClass · = virama)
    (if c = joiner then afterVirama
      else if c = nonJoiner then afterVirama || wouldJoin before rest
      else true) && joinersFitAfter (c :: before) rest

def joinersFit (label : List Char) : Bool := joinersFitAfter [] label

end Name
end Url
end PriceOracle
