import PriceOracle.Hash.Block

/-!
# PriceOracle.Hash.Sha1

SHA-1: five words are mixed with the 80 words that each block is stretched to.
-/

namespace PriceOracle
namespace Sha1

open Block (turnLeft)

structure Words where
  a : UInt32
  b : UInt32
  c : UInt32
  d : UInt32
  e : UInt32

def start : Words := ⟨0x67452301, 0xEFCDAB89, 0x98BADCFE, 0x10325476, 0xC3D2E1F0⟩

/-- The next word of a stretched block. -/
def nextWord (w : Array UInt32) (i : Nat) : UInt32 :=
  turnLeft
    (w.getD (i - 3) 0 ^^^ w.getD (i - 8) 0 ^^^ w.getD (i - 14) 0 ^^^ w.getD (i - 16) 0) 1

def stretch (block : Array UInt32) : Array UInt32 :=
  (List.range' 16 64).foldl (fun w i => w.push (nextWord w i)) block

/-- How three words are joined in a step, and what is added. Each quarter of the steps has its own
way. -/
def join (i : Nat) (b c d : UInt32) : UInt32 :=
  if i < 20 then ((b &&& c) ||| (~~~b &&& d)) + 0x5A827999
  else if i < 40 then (b ^^^ c ^^^ d) + 0x6ED9EBA1
  else if i < 60 then ((b &&& c) ||| (b &&& d) ||| (c &&& d)) + 0x8F1BBCDC
  else (b ^^^ c ^^^ d) + 0xCA62C1D6

def step (w : Array UInt32) (s : Words) (i : Nat) : Words :=
  ⟨turnLeft s.a 5 + join i s.b s.c s.d + s.e + w.getD i 0, s.a, turnLeft s.b 30, s.c, s.d⟩

def mix (s : Words) (block : Array UInt32) : Words :=
  let t := (List.range 80).foldl (step (stretch block)) s
  ⟨s.a + t.a, s.b + t.b, s.c + t.c, s.d + t.d, s.e + t.e⟩

def hash (message : Bytes) : Bytes :=
  let s := Block.digest mix .highFirst start message
  [s.a, s.b, s.c, s.d, s.e].flatMap fun w => Block.bytesOfNat .highFirst 4 w.toNat

end Sha1
end PriceOracle
