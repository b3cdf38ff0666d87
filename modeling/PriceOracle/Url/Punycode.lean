/-!
# PriceOracle.Url.Punycode

Labels in ASCII that stand for labels beyond it. In front stand the characters of ASCII, and behind
the last dash, for each further character, how far it is from the one before in an enumeration of
all characters at all positions. The distances are numerals with digits that count 36 or fewer; how
much a digit counts is adapted to the distances so far.
-/

namespace PriceOracle
namespace Url
namespace Punycode

/-- The value of a digit: letters first, then decimal digits. -/
def digit? (c : Char) : Option Nat :=
  if 'a' ≤ c ∧ c ≤ 'z' then some (c.toNat - 'a'.toNat)
  else if 'A' ≤ c ∧ c ≤ 'Z' then some (c.toNat - 'A'.toNat)
  else if '0' ≤ c ∧ c ≤ '9' then some (c.toNat - '0'.toNat + 26)
  else none

/-- Digits below that are the last of a numeral. -/
def threshold (place bias : Nat) : Nat :=
  if place ≤ bias then 1 else if bias + 26 ≤ place then 26 else place - bias

/-- Read a numeral whose next digit stands at `place` and counts `weight`. -/
def readNumeral (bias place weight value : Nat) : List Char → Option (Nat × List Char)
  | [] => none
  | c :: rest =>
    match digit? c with
    | none => none
    | some d =>
      if d < threshold place bias then some (value + d * weight, rest)
      else
        readNumeral bias (place + 36) (weight * (36 - threshold place bias)) (value + d * weight)
          rest

theorem length_readNumeral {bias : Nat} {s : List Char} :
    ∀ {place weight value : Nat} {r : Nat × List Char},
      readNumeral bias place weight value s = some r → r.2.length < s.length := by
  induction s with
  | nil => intro place weight value r h; simp [readNumeral] at h
  | cons c rest ih =>
    intro place weight value r h
    rw [readNumeral] at h
    split at h
    · simp at h
    · split at h
      · cases h; simp
      · have := ih h
        simp only [List.length_cons]
        omega

/-- Divide by 35 until the number is small, and count 36 for each time. -/
def shrink (delta count : Nat) : Nat × Nat :=
  if 455 < delta then shrink (delta / 35) (count + 36) else (delta, count)
termination_by delta
decreasing_by omega

/-- The bias after a distance, when there are that many characters. -/
def adapt (delta size : Nat) (isFirst : Bool) : Nat :=
  let delta := if isFirst then delta / 700 else delta / 2
  let (delta, count) := shrink (delta + delta / size) 0
  count + 36 * delta / (delta + 38)

/-- Is there a character with that number? -/
def isScalar (n : Nat) : Bool := n < 0xD800 || (0xDFFF < n && n < 0x110000)

/-- Put further characters into those that are `done`. The last one had the number `n`, and the
search goes on at the index `i`. -/
def readFrom (bias n i : Nat) (done : List Char) (s : List Char) : Option (List Char) :=
  match s with
  | [] => some done
  | c :: rest =>
    match h : readNumeral bias 36 1 i (c :: rest) with
    | none => none
    | some (place, others) =>
      have := length_readNumeral h
      let size := done.length + 1
      let n := n + place / size
      if isScalar n then
        readFrom (adapt (place - i) size (i = 0)) n (place % size + 1)
          (done.insertIdx (place % size) (Char.ofNat n)) others
      else none
termination_by s.length
decreasing_by exact this

/-- The characters in front of the last dash and what is behind it. A dash at the very beginning
does not count. -/
def split (s : List Char) : List Char × List Char :=
  let behind := (s.reverse.takeWhile (· ≠ '-')).reverse
  let front := s.take (s.length - behind.length - 1)
  if front.isEmpty then ([], s) else (front, behind)

/-- The label that a label in ASCII stands for. -/
def decode? (s : List Char) : Option (List Char) :=
  let (front, behind) := split s
  if front.all (·.toNat < 0x80) then readFrom 72 0x80 0 front behind else none

end Punycode
end Url
end PriceOracle
