import PriceOracle.Dispute.Basic
import PriceOracle.Feed.Basic
import PriceOracle.Feed.Window
import PriceOracle.Node

/-!
# PriceOracle.Dispute.Evidence

Gathering the evidence on disputes. The times of the five submissions of a round come from the logs
of solutions. They are looked through in windows of blocks, from the block of the value down, and in
each window from the newest log to the oldest; a log counts for the first slot of its miner that is
still open. A dispute whose evidence cannot be gathered is listed without it.
-/

namespace PriceOracle
namespace Dispute

open Node Node.Action Chain

/-- How many blocks are searched at a time. -/
def windowWidth : Nat := 100

/-- How many samples are shown with a recommendation. -/
def nearestSamples : Nat := 3

structure Slot where
  miner : Address
  value : Word
  /-- Unknown while the slot is open. -/
  time : Option Int
  deriving Repr, DecidableEq

namespace Slot

/-- Is the slot one of the miner's that is still open? -/
def awaits (miner : Address) (s : Slot) : Bool := s.miner = miner && s.time.isNone

/-- Fill the first open slot of a miner. -/
def fill (miner : Address) (time : Int) : List Slot → List Slot
  | [] => []
  | s :: rest =>
    if s.awaits miner then { s with time := some time } :: rest else s :: fill miner time rest

def missing (slots : List Slot) : Nat := slots.countP (·.time.isNone)

def submission (s : Slot) : Submission := ⟨s.miner, s.value, s.time.getD 0⟩

end Slot

def sensible {α : Type} : Except Nonsense α → Action α
  | .ok a => pure a
  | .error what => throw (.nonsense what)

/-- The time of a block as a signed number of 64 bits. -/
def blockTime (block : Nat) : Action Int := do
  let time ← query (.blockTime block)
  return Calendar.signed64 time

/-- Fill slots from logs, the first of which counts first. -/
def fillFrom : List Log → List Slot → Action (List Slot)
  | [], slots => return slots
  | log :: rest, slots => do
    let miner ← sensible (solverOf log)
    if slots.any (·.awaits miner) then
      let time ← blockTime log.block
      fillFrom rest (Slot.fill miner time slots)
    else fillFrom rest slots

/-- Fill slots from the blocks up to `high`, window by window. -/
def scan (high : Nat) (slots : List Slot) : Action (List Slot) := do
  let low := high - (windowWidth - 1)
  let logs ← query (.logs .nonceSubmitted low (some high))
  let slots ← fillFrom logs.reverse slots
  if Slot.missing slots = 0 then return slots
  else if low = 0 then throw (.nonsense (.unresolved (Slot.missing slots)))
  else scan (low - 1) slots
termination_by high

/-- The five submissions of a round with their times. The value was taken in the block `block`. -/
def submissionsOf (requestId timestamp : Word) (block : Nat) : Action (List Submission) := do
  let values ← query (.values requestId timestamp)
  let miners ← query (.miners requestId timestamp)
  if miners.contains 0 then throw (.nonsense (.noMiners requestId timestamp))
  let slots ← scan block ((miners.zip values).toList.map fun (miner, value) => ⟨miner, value, none⟩)
  return slots.map Slot.submission

/-- Judge a value by the samples around an instant. -/
def checkAt (settings : Settings) (feeds : List Feed) (requestId : Nat) (value : Word)
    (instant : Int) : Action (Option History.Check) := do
  match Feed.granularity? feeds requestId with
  | none => return none
  | some granularity =>
    match ← get (Key.priceHistory requestId) with
    | none => return none
    | some raw =>
      match History.decode? raw with
      | none => throw (.nonsense (.priceHistory requestId))
      | some history =>
        return history.check (approximate value) instant (Calendar.signed64 settings.timeDelta)
          settings.threshold granularity

/-- The samples of a check that are nearest to an instant. -/
def nearest (check : History.Check) (instant : Int) : List (Float × Int) :=
  let count := min nearestSamples check.datapoints.length
  ((check.datapoints.zip check.times).drop (Window.closest check.times instant count)).take count

/-- How to vote on a value that was submitted at an instant. -/
def recommend (settings : Settings) (feeds : List Feed) (requestId value : Word) (instant : Int) :
    Action (Option Recommendation) := do
  if Nat.pow 2 64 ≤ requestId.toNat then throw (.refused (.requestRange requestId))
  match ← checkAt settings feeds requestId.toNat value instant with
  | none => return none
  | some check =>
    return some ⟨recommendsSupport (approximate value) check.low check.high, check,
      nearest check instant⟩

/-- The report on a dispute that the contract knows. -/
def reportOf (settings : Settings) (feeds : List Feed) (opening : Opening) (vars : DisputeVars) :
    Action Report := do
  let slot := vars.minerSlot.capped64
  let submissions ←
    (submissionsOf opening.requestId opening.timestamp vars.block.capped64).orElse []
  let recommendation ←
    match submissions[slot]? with
    | none => pure none
    | some disputed =>
      (recommend settings feeds opening.requestId vars.value disputed.time).orElse none
  return {
    disputeId := opening.disputeId
    requestId := opening.requestId
    status := .of vars
    reportedMiner := vars.reportedMiner
    reportingParty := vars.reportingParty
    createdAt := openedAt vars
    fee := vars.fee
    disputedValue := vars.value
    minerSlot := slot
    votes := vars.votes
    quorum := vars.quorum
    tallyRatio := tallyRatio vars.tally vars.quorum
    submissions, recommendation }

/-- The report on the dispute that a log is about. -/
def reportOn (settings : Settings) (feeds : List Feed) (log : Log) : Action Report := do
  let opening ← sensible (Opening.ofLog log)
  let vars ← query (.disputeVars opening.disputeId)
  reportOf settings feeds opening vars

/-- The reports on the disputes that logs are about, as far as the contract knows them. -/
def reportsOn (settings : Settings) (feeds : List Feed) : List Log → Action (List Report)
  | [] => return []
  | log :: rest => do
    let report ← ((some ·) <$> reportOn settings feeds log).orElse none
    let reports ← reportsOn settings feeds rest
    return report.toList ++ reports

/-- The reports on all disputes opened lately, the oldest first. -/
def reports (settings : Settings) (feeds : List Feed) : Action (List Report) := do
  let latest ← query .latestBlock
  let logs ← query (.logs .newDispute (latest - settings.lookback) none)
  reportsOn settings feeds logs

end Dispute
end PriceOracle
