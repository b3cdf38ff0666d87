import PriceOracle.Amount
import PriceOracle.Chain.Basic
import PriceOracle.Proxy.Error

/-!
# PriceOracle.Failure

Why an operation of the node fails, by cause, and what its operator is told.
-/

namespace PriceOracle

/-- An operation was asked for something that it does not do. -/
inductive Refusal where
  | alreadyServing
  | alreadyMining
  | noWorkers
  /-- There is nothing to report under a request. -/
  | noValue (requestId : Nat)
  | minerIndex (index : Nat)
  | amount (raw : String) (fault : Amount.Fault)
  | requestRange (requestId : Word)
  deriving Repr, DecidableEq

def Refusal.message : Refusal → String
  | .alreadyServing => "data service is already running"
  | .alreadyMining => "mining manager is already running"
  | .noWorkers => "at least one mining worker is required"
  | .noValue requestId => s!"no value available for request {requestId}"
  | .minerIndex index => s!"miner index should be between 0 and 4 (got {index})"
  | .amount raw fault => Amount.refusal raw fault
  | .requestRange requestId => "request id " ++ requestId.toDecimal

/-- Data that was stored or logged makes no sense. -/
inductive Nonsense where
  | challengeLength (length : Nat)
  | requestRange (requestId : Word)
  | noMiners (requestId timestamp : Word)
  /-- All blocks were searched, and some submissions are still missing. -/
  | unresolved (missing : Nat)
  | noMinerTopic (block : Nat)
  | disputeTopics (count : Nat)
  | disputeData (length : Nat)
  | priceHistory (requestId : Nat)
  deriving Repr, DecidableEq

def Nonsense.message : Nonsense → String
  | .challengeLength length => s!"challenge record has {length} bytes, expected 32"
  | .requestRange requestId => "request id " ++ requestId.toDecimal ++ " out of range"
  | .noMiners requestId timestamp =>
    "round " ++ requestId.toDecimal ++ " at " ++ timestamp.toDecimal ++ " has no recorded miners"
  | .unresolved missing => s!"reached block 0 with {missing} of 5 nonce submissions unresolved"
  | .noMinerTopic block => s!"nonce submission in block {block} has no miner topic"
  | .disputeTopics count => s!"dispute log has {count} topics, expected 3"
  | .disputeData length => s!"dispute log data has {length} bytes, expected 64"
  | .priceHistory requestId => s!"price history {requestId}"

inductive Gate where
  | status (status : Stake.Status)
  | unknown (code : Nat)
  | missing
  deriving Repr, DecidableEq

def Gate.message : Gate → String
  | .status s => s.describe
  | .unknown code => s!"unknown status code {code}"
  | .missing => "no status recorded, check if staked"

inductive Failure where
  | refused (why : Refusal)
  | funds (actual needed : Word)
  | unavailable (message : String)
  | chain (error : Chain.Error)
  | store (error : Store.Error)
  | proxy (error : Proxy.Error)
  | nonsense (what : Nonsense)
  | cancelled
  | gate (gate : Gate)
  /-- No source of a feed has a price. -/
  | noPrice (symbol : String)
  deriving Repr, DecidableEq

namespace Failure

def message : Failure → String
  | .refused why => "Invalid argument: " ++ why.message
  | .funds actual needed =>
    "Insufficient funds: have " ++ actual.toDecimal ++ ", need " ++ needed.toDecimal
  | .unavailable message => "Chain unavailable: " ++ message
  | .chain error => error.message
  | .store error => "Store error: " ++ error.message
  | .proxy error => "Data proxy error: " ++ error.message
  | .nonsense what => "Decode error: " ++ what.message
  | .cancelled => "Operation cancelled"
  | .gate g => "Miner is not able to mine with current status: " ++ g.message
  | .noPrice symbol => "no price source answered for " ++ symbol

def ofChain : Chain.Error → Failure
  | .unavailable message => .unavailable message
  | e => .chain e

def ofProxy : Proxy.Error → Failure
  | .store e => .store e
  | e => .proxy e

end Failure
end PriceOracle
