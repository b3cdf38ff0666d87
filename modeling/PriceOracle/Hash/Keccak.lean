import PriceOracle.Text.Utf8

/-!
# PriceOracle.Hash.Keccak

Keccak-256 as the chain uses it. The sponge has 25 lanes of 64 bits, 17 of which take up input; a
message is padded with a one bit after its end and another at the end of its last block.
-/

namespace PriceOracle
namespace Keccak

/-- The lanes; the one in column `x` and row `y` stands at `x + 5 * y`. -/
abbrev Lanes := Vector UInt64 25

def roundConstants : List UInt64 :=
  [0x0000000000000001, 0x0000000000008082, 0x800000000000808A, 0x8000000080008000,
   0x000000000000808B, 0x0000000080000001, 0x8000000080008081, 0x8000000000008009,
   0x000000000000008A, 0x0000000000000088, 0x0000000080008009, 0x000000008000000A,
   0x000000008000808B, 0x800000000000008B, 0x8000000000008089, 0x8000000000008003,
   0x8000000000008002, 0x8000000000000080, 0x000000000000800A, 0x800000008000000A,
   0x8000000080008081, 0x8000000000008080, 0x0000000080000001, 0x8000000080008008]

/-- How far each lane is turned. -/
def turns : Vector Nat 25 :=
  #v[0, 1, 62, 28, 27, 36, 44, 6, 55, 20, 3, 10, 43, 25, 39, 41, 45, 15, 21, 8, 18, 2, 61, 56, 14]

def turnLeft (w : UInt64) (n : Nat) : UInt64 :=
  if n = 0 then w else (w <<< UInt64.ofNat n) ||| (w >>> UInt64.ofNat (64 - n))

/-- The lane in a column and a row, counted around. -/
def lane (s : Lanes) (x y : Nat) : UInt64 := s.get ⟨x % 5 + 5 * (y % 5), by omega⟩

/-- The parity of a column. -/
def column (s : Lanes) (x : Nat) : UInt64 :=
  lane s x 0 ^^^ lane s x 1 ^^^ lane s x 2 ^^^ lane s x 3 ^^^ lane s x 4

/-- Add the parities of the neighbouring columns. -/
def theta (s : Lanes) : Lanes :=
  let parity : Vector UInt64 5 := Vector.ofFn fun x => column s x
  let d : Vector UInt64 5 := Vector.ofFn fun x =>
    parity.get ⟨(x.val + 4) % 5, by omega⟩ ^^^
      turnLeft (parity.get ⟨(x.val + 1) % 5, by omega⟩) 1
  Vector.ofFn fun i => s[i] ^^^ d.get ⟨i.val % 5, by omega⟩

/-- Turn the lanes and move them to their new places. -/
def rhoPi (s : Lanes) : Lanes :=
  let turned : Lanes := Vector.ofFn fun i => turnLeft s[i] turns[i]
  Vector.ofFn fun i => lane turned (i.val % 5 + 3 * (i.val / 5)) (i.val % 5)

/-- The step that is not linear. -/
def chi (s : Lanes) : Lanes :=
  Vector.ofFn fun i =>
    let x := i.val % 5
    let y := i.val / 5
    s[i] ^^^ (~~~(lane s (x + 1) y) &&& lane s (x + 2) y)

def round (s : Lanes) (constant : UInt64) : Lanes :=
  let s := chi (rhoPi (theta s))
  s.set 0 (s[0] ^^^ constant)

def permute (s : Lanes) : Lanes := roundConstants.foldl round s

/-- Bytes that a block takes. -/
def rate : Nat := 136

/-- The lane of eight bytes, the low one first. -/
def laneOfBytes (bytes : Bytes) : UInt64 :=
  bytes.foldr (fun b w => (w <<< 8) ||| b.toUInt64) 0

def bytesOfLane (w : UInt64) : Bytes :=
  (List.range 8).map fun i => (w >>> UInt64.ofNat (8 * i)).toUInt8

/-- What is behind the message in its last block. -/
def padding (length : Nat) : Bytes :=
  match rate - length % rate with
  | 1 => [0x81]
  | n => 0x01 :: List.replicate (n - 2) 0 ++ [0x80]

def absorb (s : Lanes) (block : Bytes) : Lanes :=
  permute (Vector.ofFn fun i => s[i] ^^^ laneOfBytes ((block.drop (8 * i.val)).take 8))

/-- Take up the blocks of a padded message. -/
def absorbAll (s : Lanes) : (blocks : Nat) → Bytes → Lanes
  | 0, _ => s
  | n + 1, bytes => absorbAll (absorb s (bytes.take rate)) n (bytes.drop rate)

def hash (message : Bytes) : Bytes :=
  let padded := message ++ padding message.length
  let s := absorbAll (Vector.replicate 25 0) (message.length / rate + 1) padded
  (s.toList.take 4).flatMap bytesOfLane

end Keccak
end PriceOracle
