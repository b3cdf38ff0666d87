import PriceOracle.Hash.Keccak
import PriceOracle.Word

/-!
# PriceOracle.Abi

How calls of a contract are laid out in bytes. A function is named by the first four bytes of the
hash of its signature. Its arguments have a head of one word each; the head of a text is the place
of its tail, which holds the length and the text, filled up to whole words. Reading takes words by
their position and is lenient: bytes after the last word that is needed are not looked at.
-/

namespace PriceOracle
namespace Abi

inductive Argument where
  | word (w : Word)
  | text (s : String)
  deriving Repr, DecidableEq

/-- A function or an event: its name and the types of its arguments. -/
structure Signature where
  name : String
  types : List String
  deriving Repr, DecidableEq

namespace Signature

def text (s : Signature) : String := s.name ++ "(" ++ ",".intercalate s.types ++ ")"

def hash (s : Signature) : Bytes := Keccak.hash (Utf8.encode s.text)

/-- What an event is found by. -/
def topic (s : Signature) : Word := Word.ofBytes s.hash

/-- What a function is called by. -/
def selector (s : Signature) : Bytes := s.hash.take 4

end Signature

def wordSize : Nat := 32

/-- Bytes with zeros after them up to whole words. -/
def padded (bytes : Bytes) : Bytes :=
  bytes ++ List.replicate ((wordSize - bytes.length % wordSize) % wordSize) 0

def numberBytes (n : Nat) : Bytes := Word.toBytes (BitVec.ofNat 256 n)

def Argument.tail : Argument → Bytes
  | .word _ => []
  | .text s =>
    let bytes := Utf8.encode s
    numberBytes bytes.length ++ padded bytes

/-- The head of an argument whose tail is at `place`. -/
def Argument.head (place : Nat) : Argument → Bytes
  | .word w => w.toBytes
  | .text _ => numberBytes place

/-- The heads of arguments, the first tail of which is at `place`. -/
def heads (place : Nat) : List Argument → Bytes
  | [] => []
  | a :: rest => a.head place ++ heads (place + a.tail.length) rest

def encode (arguments : List Argument) : Bytes :=
  heads (wordSize * arguments.length) arguments ++ arguments.flatMap Argument.tail

def call (s : Signature) (arguments : List Argument) : Bytes := s.selector ++ encode arguments

/-- The bytes from a place on, if there are so many. -/
def slice? (data : Bytes) (place length : Nat) : Option Bytes :=
  if place + length ≤ data.length then some ((data.drop place).take length) else none

def word? (data : Bytes) (position : Nat) : Option Word :=
  (slice? data (wordSize * position) wordSize).map Word.ofBytes

/-- The number at a place, if it has at most 64 bits. -/
def place? (data : Bytes) (place : Nat) : Option Nat :=
  match slice? data place wordSize with
  | some bytes =>
    let n := natOfBytes bytes
    if n < Nat.pow 2 64 then some n else none
  | none => none

/-- The bytes of the text whose head is at a position. -/
def text? (data : Bytes) (position : Nat) : Option Bytes := do
  let tail ← place? data (wordSize * position)
  let length ← place? data tail
  slice? data (tail + wordSize) length

/-- The words at neighbouring positions. -/
def words? (data : Bytes) (position count : Nat) : Option (Vector Word count) :=
  if wordSize * (position + count) ≤ data.length then
    some (Vector.ofFn fun i => (word? data (position + i)).getD 0)
  else none

/-- Any word but zero is true. -/
def isTrue (w : Word) : Bool := w ≠ 0

end Abi
end PriceOracle
