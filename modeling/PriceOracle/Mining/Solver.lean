import PriceOracle.Hash.Keccak
import PriceOracle.Hash.Ripemd160
import PriceOracle.Hash.Sha256
import PriceOracle.Word

/-!
# PriceOracle.Mining.Solver

The search for a nonce. A nonce solves a challenge when the hash of the challenge, the miner and
the decimal text of the nonce, read as a number, is a multiple of the difficulty. `seek` tries the
draws of a random source until one solves, the cap is reached, or the search is told to stop, which
it looks for before each draw.
-/

namespace PriceOracle
namespace Mining

def nonceBound : Nat := Nat.pow 2 125 - 1

abbrev Nonce := Fin nonceBound

def Nonce.text (n : Nonce) : String := toString n.val

def Nonce.ofNat (n : Nat) : Nonce := ⟨n % nonceBound, Nat.mod_lt n (by decide)⟩

/-- The hash of a candidate as a number. -/
def digest (challenge : Bytes) (miner : Address) (nonce : String) : Word :=
  let message := challenge ++ miner.toBytes ++ Utf8.encode nonce
  Word.ofBytes (Sha256.hash (Ripemd160.hash (Keccak.hash message)))

def verify (challenge : Bytes) (miner : Address) (nonce : String) (difficulty : Word) : Bool :=
  difficulty ≠ 0 && (digest challenge miner nonce).toNat % difficulty.toNat = 0

/-- The first of `left` draws, from the draw number `first` on, that is accepted before the search
is told to stop. -/
def seek (accepts : Nonce → Bool) (draw : Nat → Nonce) (stopped : Nat → Bool) (first : Nat) :
    (left : Nat) → Option Nonce
  | 0 => none
  | left + 1 =>
    if stopped first then none
    else if accepts (draw first) then some (draw first)
    else seek accepts draw stopped (first + 1) left

structure Solver where
  miner : Address
  /-- The most draws of one search. -/
  cap : Nat
  /-- May it search? -/
  canMine : Bool
  /-- Is it searching now? -/
  isMining : Bool
  deriving Repr, DecidableEq

def defaultCap : Nat := 100000000000

namespace Solver

def idle (miner : Address) (cap : Nat) : Solver := ⟨miner, cap, true, false⟩

def stop (s : Solver) : Solver := { s with canMine := false }

def resume (s : Solver) : Solver := { s with canMine := true }

/-- Search for a solution. `stopped n` says whether somebody has called `stop` before the draw
number `n`. -/
def solve (s : Solver) (challenge : Bytes) (difficulty : Word) (draw : Nat → Nonce)
    (stopped : Nat → Bool) : Option Nonce :=
  if difficulty = 0 || !s.canMine then none
  else seek (fun n => verify challenge s.miner n.text difficulty) draw stopped 0 s.cap

/-- What a search is for, and where its draws come from. -/
structure Task where
  challenge : Bytes
  difficulty : Word
  draw : Nat → Nonce

/-- Does a draw solve, for a difficulty that is not zero? -/
def Task.divides (task : Task) (miner : Address) (nonce : Nonce) : Bool :=
  (digest task.challenge miner nonce.text).toNat % task.difficulty.toNat = 0

inductive Search where
  | called
  /-- It may search, and is about to say that it does. -/
  | admitted
  /-- It is about to look whether it has been stopped, and then to try the draw with a number. -/
  | trying (n : Nat)
  /-- It is about to say that it searches no more. -/
  | leaving (answer : Option String)
  | answered (answer : Option String)
  deriving Repr, DecidableEq

/-- The next step of a search, which takes the flags once. -/
def Search.step (task : Task) (s : Solver) : Search → Search × Solver
  | .called => (if task.difficulty = 0 || !s.canMine then .answered none else .admitted, s)
  | .admitted => (.trying 0, { s with isMining := true })
  | .trying n =>
    (if s.cap ≤ n || !s.canMine then .leaving none
      else if task.divides s.miner (task.draw n) then .leaving (some (task.draw n).text)
      else .trying (n + 1), s)
  | .leaving answer => (.answered answer, { s with isMining := false })
  | .answered answer => (.answered answer, s)

end Solver
end Mining
end PriceOracle
