import PriceOracle.Feed.Basic
import PriceOracle.Feed.History
import PriceOracle.Feed.Median
import PriceOracle.Feed.Price
import PriceOracle.Node

/-!
# PriceOracle.Feed.Tracker

Trackers keep the records of the store fresh: each brings one group of records up to date, and is
the only one that writes them. A tracker that cannot read its sources writes nothing.
-/

namespace PriceOracle

/-- A piece of work that is done once in every cycle. The number of the cycle is told to it. -/
structure Tracker where
  name : String
  work : (cycle : Nat) → Node.Action Unit

namespace Tracker

open Node Node.Action

/-- A number of at most 256 bits as a word. -/
def word (n : Nat) : Word := BitVec.ofNat 256 n

def writeStatus (account : Address) : Action Unit := do
  let info ← query (.stake account)
  putWord Key.disputeStatus (word info.status)

def writeRound : Action Unit := do
  let round ← query .currentRound
  put Key.currentChallenge round.challenge.toBytes
  putWord Key.currentRequestId (word round.requestId)
  putWord Key.currentDifficulty round.difficulty

def writeGasPrice : Action Unit := do
  let price ← query .gasPrice
  putWord Key.gasPrice price

def writeBalances (account : Address) : Action Unit := do
  let ether ← query (.etherBalance account)
  let token ← query (.tokenBalance account)
  putWord Key.ethBalance ether
  putWord Key.tokenBalance token

def priceIn (path : List String) (document : Bytes) : Option Float := do
  let text ← (Utf8.decode document).toOption
  let json ← Json.parseSound text
  (Price.extract json path).toOption

/-- The price at a source, if it answers with one. -/
def priceAt (source : Source) : Action (Option Float) := do
  match ← ask (Ask.fetch source.url) with
  | .ok document => return priceIn source.path document
  | .error _ => return none

/-- The prices at the sources that have one. -/
def prices : List Source → Action (List Float)
  | [] => return []
  | source :: rest => do
    let price ← priceAt source
    let others ← prices rest
    return price.toList ++ others

/-- The greatest number of 128 bits. -/
def greatest128 : Nat := Nat.pow 2 128 - 1

/-- The whole number that a price is reported as. -/
def granular (feed : Feed) (price : Float) : Word :=
  word (Decimal.roundedWithin greatest128 (price * feed.granularity))

/-- The instant from which on samples are kept. -/
def cutoff (now : Int) (retention : Nat) : Int :=
  Calendar.wrapped64 (now - Calendar.signed64 retention)

/-- A history with one more sample and without the old ones. -/
def extend (sample : Sample) (before : Int) (h : History) : History :=
  ((h.record? sample).getD h).prune before

/-- The record of a history with one more sample. -/
def extendRecord (key : String) (sample : Sample) (before : Int) :
    Option Bytes → Except Store.Error Bytes
  | none => .ok (extend sample before .empty).encode
  | some raw =>
    match History.decode? raw with
    | some h => .ok (extend sample before h).encode
    | none => .error (.malformed key .unreadable)

def medianOf (prices : List Float) : Option Float := median (prices.map Double.ofFloat)

/-- Take the median of a feed's sources into its history and into the value to report. -/
def writePrice (feed : Feed) (retention : Nat) : Action Unit := do
  match medianOf (← prices feed.sources) with
  | none => throw (.noPrice feed.symbol)
  | some price =>
    let time ← now
    let key := Key.priceHistory feed.requestId
    update key (extendRecord key ⟨time, price, feed.symbol⟩ (cutoff time retention))
    putWord (Key.queryValue feed.requestId) (granular feed price)

def ofFeed (retention : Nat) (feed : Feed) : Tracker :=
  ⟨feed.symbol, fun _ => writePrice feed retention⟩

/-- The trackers of a node: four for the chain, and one for each feed. -/
def standard (account : Address) (feeds : List Feed) (retention : Nat) : List Tracker :=
  [⟨"stake_status", fun _ => writeStatus account⟩, ⟨"current_variables", fun _ => writeRound⟩,
    ⟨"gas", fun _ => writeGasPrice⟩, ⟨"balance", fun _ => writeBalances account⟩] ++
    feeds.map (ofFeed retention)

end Tracker
end PriceOracle
