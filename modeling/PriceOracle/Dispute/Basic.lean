import PriceOracle.Chain.Basic
import PriceOracle.Failure
import PriceOracle.Feed.History

/-!
# PriceOracle.Dispute.Basic

Disputes about reported values, and the evidence on them: who reported what and when, and how the
disputed value compares with the samples that the node has kept. A voter should support a dispute
when the value lies outside of the bounds; `recommendsSupport` treats a value or a bound that is no
number as outside.
-/

namespace PriceOracle
namespace Dispute

structure Opening where
  disputeId : Word
  requestId : Word
  /-- When the disputed round was. -/
  timestamp : Word
  miner : Address
  deriving Repr, DecidableEq

namespace Opening

/-- Read a log: both ids are topics, the time and the miner are the first two words of the data. -/
def ofLog (log : Chain.Log) : Except Nonsense Opening :=
  match log.topics with
  | _ :: disputeId :: requestId :: _ =>
    if log.data.length < 64 then .error (.disputeData log.data.length)
    else
      .ok ⟨disputeId, requestId, Word.ofBytes (log.data.take 32),
        Address.ofBytes ((log.data.drop 44).take 20)⟩
  | topics => .error (.disputeTopics topics.length)

end Opening

/-- The miner whose solution a log is about. -/
def solverOf (log : Chain.Log) : Except Nonsense Address :=
  match log.topics with
  | _ :: miner :: _ => .ok miner.toAddress
  | _ => .error (.noMinerTopic log.block)

/-- What one of the five miners of a round reported. -/
structure Submission where
  miner : Address
  value : Word
  /-- The time of the block with the miner's solution. -/
  time : Int
  deriving Repr, DecidableEq

inductive Status where
  | inProgress
  | passed
  | rejected
  deriving Repr, DecidableEq

namespace Status

def of (vars : Chain.DisputeVars) : Status :=
  if !vars.executed then .inProgress else if vars.votePassed then .passed else .rejected

def describe : Status → String
  | .inProgress => "in progress"
  | .passed => "complete, successful"
  | .rejected => "complete, rejected"

end Status

/-- How to vote, and the data that says so. -/
structure Recommendation where
  support : Bool
  check : History.Check
  /-- The prices nearest to the disputed submission, with their times. -/
  nearest : List (Float × Int)

structure Report where
  disputeId : Word
  requestId : Word
  status : Status
  reportedMiner : Address
  reportingParty : Address
  createdAt : Int
  fee : Word
  disputedValue : Word
  minerSlot : Nat
  votes : Word
  quorum : Word
  tallyRatio : Float
  /-- Nothing when the submissions could not be found. -/
  submissions : List Submission
  recommendation : Option Recommendation

structure Settings where
  /-- Samples count up to this distance from a submission, in seconds. -/
  timeDelta : Nat := 300
  /-- How far beyond the samples a value may lie, as a part of them. -/
  threshold : Float := 0.01
  /-- How many blocks back disputes are looked for. -/
  lookback : Nat := 140000

/-- Should a dispute about a value be supported? -/
def recommendsSupport (value low high : Float) : Bool := !History.between low value high

def approximate (w : Word) : Float := Float.ofNat w.toNat

/-- The double nearest to a word with a sign. -/
def approximateSigned (w : Word) : Float := Json.Number.toFloat (.integer w.toInt)

/-- The figure that voters are shown. It grows with the tally and with the quorum; it is not the
share of the quorum. -/
def tallyRatio (tally quorum : Word) : Float :=
  let quorum := approximate quorum
  (approximateSigned tally + quorum) / 2.0 * quorum

/-- How long votes are taken, in seconds. -/
def votingPeriod : Int := 7 * Calendar.secondsPerDay

def openedAt (vars : Chain.DisputeVars) : Int :=
  Decimal.wholeWithin (Nat.pow 2 63 - 1) (approximate vars.countedFrom) - votingPeriod

end Dispute
end PriceOracle
