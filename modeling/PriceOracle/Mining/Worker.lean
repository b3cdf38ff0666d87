import PriceOracle.Mining.Gate
import PriceOracle.Mining.Solver

/-!
# PriceOracle.Mining.Worker

A mining worker, step by step. It looks what is to be solved, searches for a nonce while it keeps
an eye on the round, claims the challenge, submits the nonce and writes down the cost. The workers
of a crew share which challenge was claimed last: `claim` compares and sets it in one step, and a
challenge that was claimed last is not claimed again.

`Worker.turn` is what a worker does by itself: what it cannot know beforehand, the draws of its
search and the time, comes with a `Signal`. `Worker.step` is its next step in surroundings that
answer its questions.
-/

namespace PriceOracle
namespace Mining

open Node Node.Action Chain

structure Settings where
  /-- How many workers mine at a time. -/
  workers : Nat := 1
  cap : Nat := defaultCap
  gasLimit : Nat := 700000
  /-- Pause between looks when there is nothing to do, in milliseconds. -/
  idlePoll : Nat := 1000
  deriving Repr, DecidableEq

/-- What a submission costs at most, as far as a word goes. -/
def costOf (gasPrice : Word) (gasLimit : Nat) : Word := Word.saturating (gasPrice.toNat * gasLimit)

/-- The stored price of gas, or else the one of the chain. -/
def currentGasPrice : Action Word := do
  match ← getWord Key.gasPrice with
  | some price => return price
  | none => query .gasPrice

/-- Send a solution, if it can be paid for, and say what it costs. -/
def submit (account : Address) (gasLimit : Nat) (round : Round) (nonce : Nonce) : Action Word := do
  ensureSynced
  match ← getWord (Key.queryValue round.requestId) with
  | none => throw (.refused (.noValue round.requestId))
  | some value =>
    let price ← currentGasPrice
    let cost := costOf price gasLimit
    let balance ← query (.etherBalance account)
    if balance < cost then throw (.funds balance cost)
    let _ ← send (.submitSolution nonce.text (BitVec.ofNat 256 round.requestId) value)
    return cost

/-- Write down the cost of a submission, the latest ones going around through the slots. -/
def recordCost (count : Nat) (cost : Word) : Action Unit :=
  putWord (Key.gasCost (count % Key.gasCostSlots)) cost

inductive Phase where
  | ready
  | looking (rest : Program Reply (Except Failure (Option Round)))
  /-- It compares the round with the last claim. -/
  | weighing (round : Round)
  | searching (round : Round) (left : Nat)
  /-- It looks, in the middle of a search, whether the round is still the same. -/
  | polling (round : Round) (left : Nat) (rest : Program Reply (Except Failure (Option Round)))
  | claiming (round : Round) (nonce : Nonce)
  | submitting (round : Round) (nonce : Nonce) (rest : Program Reply (Except Failure Word))
  | recording (rest : Program Reply (Except Failure Unit))
  | resting
  | gone

/-- A question that a worker has asked, and what it is about to do when the answer comes. -/
structure Pending where
  op : Ask
  next : Reply op → Phase

/-- The question whose answer a worker waits for. -/
def Phase.pending? : Phase → Option Pending
  | .looking (.ask op next) => some ⟨op, fun r => .looking (next r)⟩
  | .polling round left (.ask op next) => some ⟨op, fun r => .polling round left (next r)⟩
  | .submitting round nonce (.ask op next) =>
    some ⟨op, fun r => .submitting round nonce (next r)⟩
  | .recording (.ask op next) => some ⟨op, fun r => .recording (next r)⟩
  | _ => none

/-- Is the worker about to take the store? -/
def Phase.isAccess (phase : Phase) : Bool := phase.pending?.any (·.op.isAccess)

/-- What reaches a worker from outside at a step. -/
inductive Signal where
  | go
  /-- The next draws of its search. -/
  | draws (nonces : List Nonce)
  /-- It is time for a poll or the end of a rest. -/
  | time

/-- What the workers of one start share. -/
structure Crew where
  account : Address
  settings : Settings
  lastClaimed : Option Word
  /-- How many solutions were taken. The count has no bound here; one of 64 bits starts anew after
  `2 ^ 64` of them, more than any chain takes. -/
  submissions : Nat
  /-- The workers have been told to stop. -/
  dismissed : Bool

namespace Worker

/-- Begin a search, if it has any chance. -/
def beginSearch (c : Crew) (round : Round) : Phase :=
  if round.difficulty = 0 ∨ c.settings.cap = 0 then .resting else .searching round c.settings.cap

def tryDraws (c : Crew) (round : Round) (left : Nat) (nonces : List Nonce) : Phase :=
  let accepts := fun n : Nonce =>
    verify round.challenge.toBytes c.account n.text round.difficulty
  match (nonces.take left).find? accepts with
  | some nonce => .claiming round nonce
  | none =>
    if left ≤ nonces.length then .resting else .searching round (left - nonces.length)

/-- Does a look in the middle of a search show another round? -/
def superseded (round : Round) : Except Failure (Option Round) → Bool
  | .ok (some latest) => latest.challenge ≠ round.challenge
  | _ => false

/-- Claim a challenge, unless it is the one that was claimed last. -/
def claim (c : Crew) (round : Round) (nonce : Nonce) : Phase × Crew :=
  if c.lastClaimed = some round.challenge then (.resting, c)
  else
    (.submitting round nonce (submit c.account c.settings.gasLimit round nonce).outcome,
      { c with lastClaimed := some round.challenge })

/-- What a worker does of its own accord. One that waits for an answer waits on. -/
def turn (signal : Signal) (phase : Phase) (c : Crew) : Phase × Crew :=
  match phase with
  | .ready => (if c.dismissed then .gone else .looking look.outcome, c)
  | .looking (.done (.ok (some round))) => (.weighing round, c)
  | .looking (.done _) => (.resting, c)
  | .weighing round =>
    (if c.lastClaimed = some round.challenge then .resting else beginSearch c round, c)
  | .searching round left =>
    if c.dismissed then (.gone, c)
    else
      match signal with
      | .go => (.searching round left, c)
      | .draws nonces => (tryDraws c round left nonces, c)
      | .time => (.polling round left readRound.outcome, c)
  | .polling round left (.done result) =>
    (if superseded round result then .ready else .searching round left, c)
  | .claiming round nonce => claim c round nonce
  | .submitting _ _ (.done (.ok cost)) =>
    (.recording (recordCost c.submissions cost).outcome,
      { c with submissions := c.submissions + 1 })
  | .submitting _ _ (.done (.error _)) => (.resting, c)
  | .recording (.done (.ok ())) => (.ready, c)
  | .recording (.done (.error _)) => (.resting, c)
  | .resting =>
    if c.dismissed then (.gone, c)
    else
      match signal with
      | .time => (.ready, c)
      | _ => (.resting, c)
  | phase => (phase, c)

/-- The next step of a worker: an answer to its question, or else what it does by itself. -/
def step {σ : Type} (answer : Program.Answerer Reply σ) (signal : Signal) (phase : Phase)
    (c : Crew) (s : σ) : Phase × Crew × σ :=
  match phase.pending? with
  | some question =>
    let (r, s) := answer question.op s
    (question.next r, c, s)
  | none =>
    let (phase, c) := turn signal phase c
    (phase, c, s)

end Worker
end Mining
end PriceOracle
