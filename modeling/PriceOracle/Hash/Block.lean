import PriceOracle.Text.Utf8

/-!
# PriceOracle.Hash.Block

What the hashes with blocks of 64 bytes and words of 32 bits have in common: they turn words, pad
the message with a one bit, zeros and its length in bits, and mix in one block after another.
-/

namespace PriceOracle
namespace Block

def turnLeft (w : UInt32) (n : UInt32) : UInt32 := (w <<< n) ||| (w >>> (32 - n))

def turnRight (w : UInt32) (n : UInt32) : UInt32 := (w >>> n) ||| (w <<< (32 - n))

/-- Bytes of a block. -/
def size : Nat := 64

inductive Order where
  | lowFirst
  | highFirst
  deriving Repr, DecidableEq

def bytesOfNat (order : Order) (width n : Nat) : Bytes :=
  let low := (List.range width).map fun i => UInt8.ofNat (n / Nat.pow 256 i % 256)
  match order with
  | .lowFirst => low
  | .highFirst => low.reverse

/-- The word of four bytes. -/
def word (order : Order) (bytes : Bytes) : UInt32 :=
  let add (w : UInt32) (b : UInt8) : UInt32 := (w <<< 8) ||| b.toUInt32
  match order with
  | .lowFirst => bytes.reverse.foldl add 0
  | .highFirst => bytes.foldl add 0

/-- What is behind a message: it fills the last block. -/
def padding (order : Order) (length : Nat) : Bytes :=
  let zeros := (2 * size - 9 - length % size) % size
  0x80 :: List.replicate zeros 0 ++ bytesOfNat order 8 (length * 8)

def words (order : Order) (block : Bytes) : Array UInt32 :=
  (Array.range 16).map fun i => word order ((block.drop (4 * i)).take 4)

def mixAll {σ : Type} (mix : σ → Array UInt32 → σ) (order : Order) (s : σ) :
    (blocks : Nat) → Bytes → σ
  | 0, _ => s
  | n + 1, bytes =>
    mixAll mix order (mix s (words order (bytes.take size))) n (bytes.drop size)

def digest {σ : Type} (mix : σ → Array UInt32 → σ) (order : Order) (start : σ) (message : Bytes) :
    σ :=
  let padded := message ++ padding order message.length
  mixAll mix order start (padded.length / size) padded

end Block
end PriceOracle
