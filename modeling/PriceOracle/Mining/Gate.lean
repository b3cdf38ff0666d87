import PriceOracle.Node

/-!
# PriceOracle.Mining.Gate

What a miner reads from the store: whether it may mine, and what is to be solved.
-/

namespace PriceOracle
namespace Mining

open Node Node.Action Chain

/-- A word as a number of 64 bits, if it fits. -/
def narrow? (w : Word) : Option Nat := if w.toNat < Nat.pow 2 64 then some w.toNat else none

/-- The gate that a status code leads to, unless it is open. -/
def closedBy (code : Word) : Option Gate :=
  match narrow? code with
  | none => some (.unknown (Nat.pow 2 64 - 1))
  | some code =>
    match Stake.Status.ofCode? code with
    | none => some (.unknown code)
    | some status => if status.canMine then none else some (.status status)

/-- Fail unless the stored status says that the account may mine. -/
def checkGate : Action Unit := do
  match ← getWord Key.disputeStatus with
  | none => throw (.gate .missing)
  | some code =>
    match closedBy code with
    | some gate => throw (.gate gate)
    | none => return ()

/-- The round as it is stored, if all of it is there. -/
def readRound : Action (Option Round) := do
  match ← get Key.currentChallenge with
  | none => return none
  | some raw =>
    if raw.length ≠ 32 then throw (.nonsense (.challengeLength raw.length))
    let requestId ← getWord Key.currentRequestId
    let difficulty ← getWord Key.currentDifficulty
    match requestId, difficulty with
    | some requestId, some difficulty =>
      match narrow? requestId with
      | none => throw (.nonsense (.requestRange requestId))
      | some id => return some ⟨Word.ofBytes raw, id, difficulty⟩
    | _, _ => return none

/-- Whether there is something to mine, and what. -/
def look : Action (Option Round) := do
  checkGate
  readRound

end Mining
end PriceOracle
