import PriceOracle.Calendar
import PriceOracle.Json.Printer
import PriceOracle.Json.Record

/-!
# PriceOracle.Stake

The stake of an account: the status code kept by the contract, what it means, and how it reads to
its owner. Only an account in good standing may mine.
-/

namespace PriceOracle
namespace Stake

inductive Status where
  | notStaked
  | staked
  | lockedForWithdraw
  | onDispute
  deriving Repr, DecidableEq

namespace Status

def ofCode? : Nat → Option Status
  | 0 => some .notStaked
  | 1 => some .staked
  | 2 => some .lockedForWithdraw
  | 3 => some .onDispute
  | _ => none

def canMine (s : Status) : Bool := s = .staked

/-- The name in JSON. -/
def name : Status → String
  | .notStaked => "not_staked"
  | .staked => "staked"
  | .lockedForWithdraw => "locked_for_withdraw"
  | .onDispute => "on_dispute"

/-- The name in prose. -/
def describe : Status → String
  | .notStaked => "not staked"
  | .staked => "staked"
  | .lockedForWithdraw => "locked for withdraw"
  | .onDispute => "under dispute"

def ofName? (s : String) : Option Status :=
  [notStaked, staked, lockedForWithdraw, onDispute].find? (·.name = s)

def toJson (s : Status) : Json := .string s.name

/-- The bare name, or an object with the name and nothing under it. -/
def ofJson? : Json → Option Status
  | .string s => ofName? s
  | .object [(s, .null)] => ofName? s
  | _ => none

end Status

structure Info where
  status : Nat
  /-- When the current status began. -/
  startTime : Nat
  deriving Repr, DecidableEq

/-- How long a stake stays locked, from the start of the day after the request. -/
def withdrawDelay : Int := 7 * Calendar.secondsPerDay

/-- The start of the day at or after an instant. -/
def nextMidnight (seconds : Int) : Int :=
  (seconds + Calendar.secondsPerDay - 1).tdiv Calendar.secondsPerDay * Calendar.secondsPerDay

/-- The stake as told to its owner at the instant `now`. -/
def describe (info : Info) (now : Int) : String :=
  let start := Calendar.signed64 info.startTime
  match info.status with
  | 0 => "Not currently staked"
  | 1 => "Staked in good standing since " ++ Calendar.format start
  | 2 =>
    let waited := now - nextMidnight start - withdrawDelay
    if 0 < waited then "Stake has been eligible to withdraw for " ++ Calendar.duration waited
    else "Stake will be eligible to withdraw in " ++ Calendar.duration (-waited)
  | 3 => "Stake is currently under dispute"
  | code => s!"Unknown stake status {code}"

end Stake
end PriceOracle
