import PriceOracle.Abi
import PriceOracle.Chain.Basic

/-!
# PriceOracle.Chain.Contract

The reporting contract: its functions and events, how calls of them are written, and how answers
are read. A number that the node keeps in 64 bits is read as the greatest such number when it does
not fit.
-/

namespace PriceOracle
namespace Chain
namespace Contract

open Abi

def balanceOf : Signature := ⟨"balanceOf", ["address"]⟩
def getStakerInfo : Signature := ⟨"getStakerInfo", ["address"]⟩
def getUintVar : Signature := ⟨"getUintVar", ["bytes32"]⟩
def getCurrentVariables : Signature := ⟨"getCurrentVariables", []⟩
def getSubmissionsByTimestamp : Signature := ⟨"getSubmissionsByTimestamp", ["uint256", "uint256"]⟩
def getMinersByRequestIdAndTimestamp : Signature :=
  ⟨"getMinersByRequestIdAndTimestamp", ["uint256", "uint256"]⟩
def getAllDisputeVars : Signature := ⟨"getAllDisputeVars", ["uint256"]⟩
def didVote : Signature := ⟨"didVote", ["uint256", "address"]⟩
def submitMiningSolution : Signature := ⟨"submitMiningSolution", ["string", "uint256", "uint256"]⟩
def depositStake : Signature := ⟨"depositStake", []⟩
def requestStakingWithdraw : Signature := ⟨"requestStakingWithdraw", []⟩
def withdrawStake : Signature := ⟨"withdrawStake", []⟩
def beginDispute : Signature := ⟨"beginDispute", ["uint256", "uint256", "uint256"]⟩
def vote : Signature := ⟨"vote", ["uint256", "bool"]⟩
def transfer : Signature := ⟨"transfer", ["address", "uint256"]⟩
def approve : Signature := ⟨"approve", ["address", "uint256"]⟩
def addTip : Signature := ⟨"addTip", ["uint256", "uint256"]⟩

def event : Event → Signature
  | .nonceSubmitted => ⟨"NonceSubmitted", ["address", "string", "uint256", "uint256", "bytes32"]⟩
  | .newDispute => ⟨"NewDispute", ["uint256", "uint256", "uint256", "address"]⟩

def flag (b : Bool) : Word := if b then 1 else 0

/-- The function that a transaction calls, with its arguments. -/
def ofTransaction : Transaction → Signature × List Argument
  | .submitSolution nonce requestId value =>
    (submitMiningSolution, [.text nonce, .word requestId, .word value])
  | .depositStake => (depositStake, [])
  | .requestWithdraw => (requestStakingWithdraw, [])
  | .withdrawStake => (withdrawStake, [])
  | .beginDispute requestId timestamp minerIndex =>
    (beginDispute, [.word requestId, .word timestamp, .word minerIndex])
  | .vote disputeId supports => (vote, [.word disputeId, .word (flag supports)])
  | .transfer recipient amount => (transfer, [.word recipient.toWord, .word amount])
  | .approve spender amount => (approve, [.word spender.toWord, .word amount])
  | .addTip requestId amount => (addTip, [.word requestId, .word amount])

def readWord (data : Bytes) : Option Word := word? data 0

def readStake (data : Bytes) : Option Stake.Info := do
  let status ← word? data 0
  let startTime ← word? data 1
  some ⟨status.capped64, startTime.capped64⟩

/-- The round is followed by a text and two numbers, which have to be there too. -/
def readRound (data : Bytes) : Option Round := do
  let ws ← words? data 0 6
  let _ ← text? data 3
  some ⟨ws[0], ws[1].capped64, ws[2]⟩

def readValues (data : Bytes) : Option (Vector Word reporters) := words? data 0 reporters

def readMiners (data : Bytes) : Option (Vector Address reporters) :=
  (words? data 0 reporters).map fun ws => ws.map Word.toAddress

/-- A hash, three flags, three addresses, nine numbers and the tally. -/
def readDisputeVars (data : Bytes) : Option DisputeVars := do
  let ws ← words? data 0 17
  let numbers ← words? data 7 9
  some ⟨isTrue ws[1], isTrue ws[2], ws[4].toAddress, ws[5].toAddress, numbers, ws[16]⟩

def readFlag (data : Bytes) : Option Bool := (word? data 0).map isTrue

end Contract
end Chain
end PriceOracle
