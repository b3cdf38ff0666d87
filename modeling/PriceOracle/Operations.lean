import PriceOracle.Hash.Keccak
import PriceOracle.Node

/-!
# PriceOracle.Operations

What the owner of an account can do by hand. Each operation first makes sure that the chain is in
step; it sends at most one transaction, and none when its own condition does not hold.
-/

namespace PriceOracle
namespace Operations

open Node Node.Action

/-- The key of a number that the contract keeps under a name. -/
def settingKey (name : String) : Word := Word.ofBytes (Keccak.hash (Utf8.encode name))

/-- Fail unless the account has so many tokens. -/
def ensureTokens (account : Address) (needed : Word) : Action Unit := do
  let actual ← query (.tokenBalance account)
  if actual < needed then throw (.funds actual needed)

/-- Send a transaction if the stake of the account has one of some status codes. -/
def whenStatus (account : Address) (codes : List Nat) (act : Action Word) :
    Action (Option Word) := do
  ensureSynced
  let info ← query (.stake account)
  if codes.contains info.status then return some (← act) else return none

def deposit (account : Address) : Action (Option Word) :=
  whenStatus account [0, 2] do
    let actual ← query (.tokenBalance account)
    let needed ← query (.setting (settingKey "stakeAmount"))
    if actual < needed then throw (.funds actual needed)
    send .depositStake

/-- Ask for the stake to be given back. -/
def requestWithdraw (account : Address) : Action (Option Word) :=
  whenStatus account [1] (send .requestWithdraw)

def withdraw (account : Address) : Action (Option Word) :=
  whenStatus account [2] (send .withdrawStake)

/-- Send a transaction that spends tokens. -/
def spend (account : Address) (amount : Word) (t : Chain.Transaction) : Action Word := do
  ensureSynced
  ensureTokens account amount
  send t

def transfer (account recipient : Address) (amount : Word) : Action Word :=
  spend account amount (.transfer recipient amount)

def approve (account spender : Address) (amount : Word) : Action Word :=
  spend account amount (.approve spender amount)

/-- Add a tip to a request, so that it is mined sooner. -/
def addTip (account : Address) (requestId amount : Word) : Action Word :=
  spend account amount (.addTip requestId amount)

structure Balances where
  ether : Word
  token : Word
  deriving Repr, DecidableEq

def balances (account : Address) : Action Balances := do
  ensureSynced
  let ether ← query (.etherBalance account)
  let token ← query (.tokenBalance account)
  return ⟨ether, token⟩

/-- Dispute the value of one of the five miners of a round. -/
def beginDispute (account : Address) (requestId timestamp : Word) (minerIndex : Nat) :
    Action Word := do
  if 4 < minerIndex then throw (.refused (.minerIndex minerIndex))
  ensureSynced
  let fee ← query (.setting (settingKey "disputeFee"))
  ensureTokens account fee
  send (.beginDispute requestId timestamp (BitVec.ofNat 256 minerIndex))

/-- Vote on a dispute, unless the account has done so. -/
def vote (account : Address) (disputeId : Word) (supports : Bool) : Action (Option Word) := do
  ensureSynced
  if ← query (.hasVoted disputeId account) then return none
  return some (← send (.vote disputeId supports))

def stakeStatus (account : Address) : Action String := do
  ensureSynced
  let info ← query (.stake account)
  let time ← now
  return Stake.describe info time

end Operations
end PriceOracle
