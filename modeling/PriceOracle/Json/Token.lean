import PriceOracle.Decimal.Reading
import PriceOracle.Json.Basic

/-!
# PriceOracle.Json.Token

JSON text cut into tokens: marks, and scalar values. A text in quotes is read by `readText`; any
other scalar is a maximal run of characters that are neither blank nor a mark nor a quote, and
`literal?` says which value it names.

A numeral that is no integer is read as the double nearest to it, so that a double that was written
in its shortest form is read back. This is an assumption: a reader that rounds after each of several
steps may come to a neighbour of that double.
-/

namespace PriceOracle
namespace Json

inductive Token where
  | beginArray
  | endArray
  | beginObject
  | endObject
  | comma
  | colon
  | scalar (value : Json)

def isSpace (c : Char) : Bool := c = ' ' || c = '\n' || c = '\t' || c = '\r'

def mark? (c : Char) : Option Token :=
  if c = '[' then some .beginArray
  else if c = ']' then some .endArray
  else if c = '\x7b' then some .beginObject
  else if c = '\x7d' then some .endObject
  else if c = ',' then some .comma
  else if c = ':' then some .colon
  else none

/-- A character that continues a scalar without quotes. -/
def isPlain (c : Char) : Bool := !isSpace c && c != '"' && (mark? c).isNone

def digits? (s : List Char) : Option Nat :=
  if s.isEmpty || !s.all Char.isDigit then none else some (Decimal.natOfDigits s)

/-- An integer that fits is kept as one; minus zero and everything else is a double. -/
def integerLiteral (negative : Bool) (n : Nat) : Number :=
  let i : Int := if negative then -(n : Int) else n
  if Number.isInteger64 i && !(negative && n = 0) then .integer i
  else .double (Decimal.nearest negative n 0)

/-- A numeral: no needless zero in front, digits on both sides of the point, a signed exponent. -/
def number? (s : List Char) : Option Number :=
  let (negative, body) : Bool × List Char :=
    match s with
    | '-' :: r => (true, r)
    | r => (false, r)
  let whole := body.takeWhile Char.isDigit
  let rest := body.dropWhile Char.isDigit
  if whole.isEmpty || (1 < whole.length && whole.head? = some '0') then none
  else
    match rest with
    | [] => some (integerLiteral negative (Decimal.natOfDigits whole))
    | c :: r =>
      let places := if c = '.' then r.takeWhile Char.isDigit else []
      let tail := if c = '.' then r.dropWhile Char.isDigit else c :: r
      if c = '.' && places.isEmpty then none
      else
        let digits := Decimal.natOfDigits (whole ++ places)
        match tail with
        | [] => some (.double (Decimal.nearest negative digits (-(places.length : Int))))
        | e :: r =>
          if e = 'e' ∨ e = 'E' then
            (Decimal.exponent? r).map fun exp =>
              .double (Decimal.nearest negative digits (exp - (places.length : Int)))
          else none

/-- The scalar that a run of plain characters names. -/
def literal? (s : List Char) : Option Json :=
  if s = ['n', 'u', 'l', 'l'] then some .null
  else if s = ['t', 'r', 'u', 'e'] then some (.bool true)
  else if s = ['f', 'a', 'l', 's', 'e'] then some (.bool false)
  else (number? s).map .number

def hexValue? (c : Char) : Option Nat :=
  if '0' ≤ c ∧ c ≤ '9' then some (c.toNat - 48)
  else if 'a' ≤ c ∧ c ≤ 'f' then some (c.toNat - 87)
  else if 'A' ≤ c ∧ c ≤ 'F' then some (c.toNat - 55)
  else none

/-- The 16-bit unit of four hexadecimal digits. -/
def unit? (a b c d : Char) : Option Nat := do
  let a ← hexValue? a
  let b ← hexValue? b
  let c ← hexValue? c
  let d ← hexValue? d
  some (((a * 16 + b) * 16 + c) * 16 + d)

/-- The unit of an escape in front of the text, when it is the second half of a pair. -/
def lowHalf? : List Char → Option Nat
  | '\\' :: 'u' :: a :: b :: c :: d :: _ =>
    match unit? a b c d with
    | some u => if 0xDC00 ≤ u ∧ u ≤ 0xDFFF then some u else none
    | none => none
  | _ => none

def letterEscape? (c : Char) : Option Char :=
  if c = '"' ∨ c = '\\' ∨ c = '/' then some c
  else if c = 'b' then some '\x08'
  else if c = 'f' then some '\x0c'
  else if c = 'n' then some '\n'
  else if c = 'r' then some '\r'
  else if c = 't' then some '\t'
  else none

/-- A quoted text that has been read: its characters, unless it is torn, and what follows it. -/
abbrev TextRead := Option (List Char) × List Char

def TextRead.push (c : Char) (r : TextRead) : TextRead := (r.1.map (c :: ·), r.2)

def TextRead.tear (r : TextRead) : TextRead := (none, r.2)

/-- Read up to the closing quote. `skip` characters belong to an escape that has been read. -/
def readTextFrom : (skip : Nat) → List Char → Option TextRead
  | _, [] => none
  | skip + 1, _ :: rest => readTextFrom skip rest
  | 0, c :: rest =>
    if c = '"' then some (some [], rest)
    else if c.toNat < 0x20 then none
    else if c = '\\' then
      match rest with
      | [] => none
      | e :: tail =>
        if e = 'u' then
          match tail with
          | a :: b :: c :: d :: more =>
            match unit? a b c d with
            | none => none
            | some u =>
              if 0xD800 ≤ u ∧ u ≤ 0xDBFF then
                match lowHalf? more with
                | some v =>
                  let c := Char.ofNat (0x10000 + (u - 0xD800) * 0x400 + (v - 0xDC00))
                  (readTextFrom 11 rest).map (·.push c)
                | none => (readTextFrom 5 rest).map (·.tear)
              else if 0xDC00 ≤ u ∧ u ≤ 0xDFFF then (readTextFrom 5 rest).map (·.tear)
              else (readTextFrom 5 rest).map (·.push (Char.ofNat u))
          | _ => none
        else
          match letterEscape? e with
          | some l => (readTextFrom 1 rest).map (·.push l)
          | none => none
    else (readTextFrom 0 rest).map (·.push c)

/-- Read a text up to its closing quote. -/
def readText (s : List Char) : Option TextRead := readTextFrom 0 s

theorem readTextFrom_shorter (skip : Nat) (s : List Char) (r : TextRead)
    (h : readTextFrom skip s = some r) : r.2.length < s.length := by
  induction s generalizing skip r with
  | nil => cases skip <;> simp [readTextFrom] at h
  | cons c rest ih =>
    have bound : ∀ (k : Nat) (f : TextRead → TextRead), (∀ r, (f r).2 = r.2) →
        (readTextFrom k rest).map f = some r → r.2.length < (c :: rest).length := by
      intro k f hf hr
      obtain ⟨r', h', rfl⟩ := Option.map_eq_some_iff.1 hr
      have := ih k r' h'
      rw [hf, List.length_cons]
      omega
    have hpush : ∀ (c : Char) (r : TextRead), (r.push c).2 = r.2 := fun _ _ => rfl
    have htear : ∀ r : TextRead, r.tear.2 = r.2 := fun _ => rfl
    cases skip with
    | succ k =>
      rw [readTextFrom] at h
      have := ih k r h
      rw [List.length_cons]
      omega
    | zero =>
      rw [readTextFrom.eq_def] at h
      simp only at h
      repeat' split at h
      all_goals first
        | exact bound _ _ (hpush _) h
        | exact bound _ _ htear h
        | (cases h <;> simp)

def tokens (s : List Char) : Option (List Token) :=
  match s with
  | [] => some []
  | c :: rest =>
    if isSpace c then tokens rest
    else if c = '"' then
      match h : readText rest with
      | none => none
      | some r =>
        have : r.2.length < rest.length := readTextFrom_shorter 0 rest r h
        let value := r.1.elim .torn fun cs => .string (String.ofList cs)
        (tokens r.2).map (.scalar value :: ·)
    else
      match mark? c with
      | some t => (tokens rest).map (t :: ·)
      | none =>
        match literal? (c :: rest.takeWhile isPlain) with
        | none => none
        | some value => (tokens (rest.dropWhile isPlain)).map (.scalar value :: ·)
termination_by s.length
decreasing_by
  all_goals simp only [List.length_cons]
  · omega
  · omega
  · omega
  · have := (List.dropWhile_sublist isPlain : (rest.dropWhile isPlain).Sublist rest).length_le
    omega

end Json
end PriceOracle
