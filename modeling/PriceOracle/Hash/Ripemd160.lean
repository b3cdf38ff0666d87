import PriceOracle.Hash.Block

/-!
# PriceOracle.Hash.Ripemd160

RIPEMD-160: five words are mixed with each block in two lines of 80 steps, which take the words of
the block in different orders and are joined at the end.
-/

namespace PriceOracle
namespace Ripemd160

open Block (turnLeft)

/-- The mixing functions; the left line uses them forwards and the right line backwards. -/
def blend (part : Nat) (x y z : UInt32) : UInt32 :=
  match part with
  | 0 => x ^^^ y ^^^ z
  | 1 => (x &&& y) ||| (~~~x &&& z)
  | 2 => (x ||| ~~~y) ^^^ z
  | 3 => (x &&& z) ||| (y &&& ~~~z)
  | _ => x ^^^ (y ||| ~~~z)

/-- What a line of steps goes by: which word of the block it takes, how far it turns, and what it
adds in each of its five parts. -/
structure Line where
  picks : Array Nat
  turns : Array UInt32
  adds : Array UInt32
  /-- The mixing function of a part. -/
  blend : Nat → UInt32 → UInt32 → UInt32 → UInt32

def left : Line where
  picks := #[0, 1, 2, 3, 4, 5, 6, 7, 8, 9, 10, 11, 12, 13, 14, 15,
    7, 4, 13, 1, 10, 6, 15, 3, 12, 0, 9, 5, 2, 14, 11, 8,
    3, 10, 14, 4, 9, 15, 8, 1, 2, 7, 0, 6, 13, 11, 5, 12,
    1, 9, 11, 10, 0, 8, 12, 4, 13, 3, 7, 15, 14, 5, 6, 2,
    4, 0, 5, 9, 7, 12, 2, 10, 14, 1, 3, 8, 11, 6, 15, 13]
  turns := #[11, 14, 15, 12, 5, 8, 7, 9, 11, 13, 14, 15, 6, 7, 9, 8,
    7, 6, 8, 13, 11, 9, 7, 15, 7, 12, 15, 9, 11, 7, 13, 12,
    11, 13, 6, 7, 14, 9, 13, 15, 14, 8, 13, 6, 5, 12, 7, 5,
    11, 12, 14, 15, 14, 15, 9, 8, 9, 14, 5, 6, 8, 6, 5, 12,
    9, 15, 5, 11, 6, 8, 13, 12, 5, 12, 13, 14, 11, 8, 5, 6]
  adds := #[0x00000000, 0x5A827999, 0x6ED9EBA1, 0x8F1BBCDC, 0xA953FD4E]
  blend part := blend part

def right : Line where
  picks := #[5, 14, 7, 0, 9, 2, 11, 4, 13, 6, 15, 8, 1, 10, 3, 12,
    6, 11, 3, 7, 0, 13, 5, 10, 14, 15, 8, 12, 4, 9, 1, 2,
    15, 5, 1, 3, 7, 14, 6, 9, 11, 8, 12, 2, 10, 0, 4, 13,
    8, 6, 4, 1, 3, 11, 15, 0, 5, 12, 2, 13, 9, 7, 10, 14,
    12, 15, 10, 4, 1, 5, 8, 7, 6, 2, 13, 14, 0, 3, 9, 11]
  turns := #[8, 9, 9, 11, 13, 15, 15, 5, 7, 7, 8, 11, 14, 14, 12, 6,
    9, 13, 15, 7, 12, 8, 9, 11, 7, 7, 12, 7, 6, 15, 13, 11,
    9, 7, 15, 11, 8, 6, 6, 14, 12, 13, 5, 14, 13, 13, 7, 5,
    15, 5, 8, 11, 14, 14, 6, 14, 6, 9, 12, 9, 12, 5, 15, 8,
    8, 5, 12, 9, 12, 5, 14, 6, 8, 13, 6, 5, 15, 13, 11, 11]
  adds := #[0x50A28BE6, 0x5C4DD124, 0x6D703EF3, 0x7A6D76E9, 0x00000000]
  blend part := blend (4 - part)

structure Words where
  a : UInt32
  b : UInt32
  c : UInt32
  d : UInt32
  e : UInt32

def start : Words := ⟨0x67452301, 0xEFCDAB89, 0x98BADCFE, 0x10325476, 0xC3D2E1F0⟩

def step (line : Line) (block : Array UInt32) (s : Words) (i : Nat) : Words :=
  let part := i / 16
  let sum := s.a + line.blend part s.b s.c s.d + block.getD (line.picks.getD i 0) 0 +
    line.adds.getD part 0
  ⟨s.e, turnLeft sum (line.turns.getD i 0) + s.e, s.b, turnLeft s.c 10, s.d⟩

def steps (line : Line) (block : Array UInt32) (s : Words) : Words :=
  (List.range 80).foldl (step line block) s

def mix (s : Words) (block : Array UInt32) : Words :=
  let l := steps left block s
  let r := steps right block s
  ⟨s.b + l.c + r.d, s.c + l.d + r.e, s.d + l.e + r.a, s.e + l.a + r.b, s.a + l.b + r.c⟩

def hash (message : Bytes) : Bytes :=
  let s := Block.digest mix .lowFirst start message
  [s.a, s.b, s.c, s.d, s.e].flatMap fun w => Block.bytesOfNat .lowFirst 4 w.toNat

end Ripemd160
end PriceOracle
