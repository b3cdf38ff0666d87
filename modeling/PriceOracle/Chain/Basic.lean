import PriceOracle.Stake
import PriceOracle.Word

/-!
# PriceOracle.Chain.Basic

What the node asks of the chain, and what comes back. Reading is a `Query`, and each query has its
own kind of answer; a `Transaction` is answered by its hash. Both may fail.
-/

namespace PriceOracle
namespace Chain

/-- The events of the reporting contract that the node looks for. -/
inductive Event where
  | nonceSubmitted
  | newDispute
  deriving Repr, DecidableEq

structure Log where
  block : Nat
  topics : List Word
  data : Bytes
  deriving Repr, DecidableEq

/-- A round of mining: what is to be solved, for which request, and how hard it is. -/
structure Round where
  challenge : Word
  requestId : Nat
  difficulty : Word
  deriving Repr, DecidableEq

/-- How many miners report in a round. -/
def reporters : Nat := 5

/-- What the contract knows about a dispute. -/
structure DisputeVars where
  executed : Bool
  votePassed : Bool
  reportedMiner : Address
  reportingParty : Address
  /-- Request id, timestamp, value, earliest execution date, votes, block, miner's slot, quorum
  and fee. -/
  numbers : Vector Word 9
  /-- Votes for less votes against, a signed number. -/
  tally : Word
  deriving Repr, DecidableEq

namespace DisputeVars

def value (v : DisputeVars) : Word := v.numbers[2]

def countedFrom (v : DisputeVars) : Word := v.numbers[3]

def votes (v : DisputeVars) : Word := v.numbers[4]

/-- The block in which the disputed value was taken. -/
def block (v : DisputeVars) : Word := v.numbers[5]

def minerSlot (v : DisputeVars) : Word := v.numbers[6]

def quorum (v : DisputeVars) : Word := v.numbers[7]

def fee (v : DisputeVars) : Word := v.numbers[8]

end DisputeVars

inductive Query where
  | isSyncing
  | latestBlock
  | blockTime (block : Nat)
  | gasPrice
  | etherBalance (account : Address)
  | tokenBalance (account : Address)
  | stake (account : Address)
  /-- A number that the contract keeps under a hashed name. -/
  | setting (key : Word)
  | currentRound
  | values (requestId timestamp : Word)
  | miners (requestId timestamp : Word)
  | disputeVars (disputeId : Word)
  | hasVoted (disputeId : Word) (voter : Address)
  /-- The logs of an event in a closed range of blocks, which may be open above. -/
  | logs (event : Event) (first : Nat) (last : Option Nat)
  deriving Repr, DecidableEq

@[reducible] def Query.Answer : Query → Type
  | .isSyncing => Bool
  | .latestBlock => Nat
  | .blockTime _ => Nat
  | .gasPrice => Word
  | .etherBalance _ => Word
  | .tokenBalance _ => Word
  | .stake _ => Stake.Info
  | .setting _ => Word
  | .currentRound => Round
  | .values _ _ => Vector Word reporters
  | .miners _ _ => Vector Address reporters
  | .disputeVars _ => DisputeVars
  | .hasVoted _ _ => Bool
  | .logs _ _ _ => List Log

inductive Transaction where
  | submitSolution (nonce : String) (requestId value : Word)
  | depositStake
  | requestWithdraw
  | withdrawStake
  | beginDispute (requestId timestamp minerIndex : Word)
  | vote (disputeId : Word) (supports : Bool)
  | transfer (recipient : Address) (amount : Word)
  | approve (spender : Address) (amount : Word)
  | addTip (requestId amount : Word)
  deriving Repr, DecidableEq

/-- A transaction by its name. -/
def Transaction.name : Transaction → String
  | .submitSolution _ _ _ => "submit_mining_solution"
  | .depositStake => "deposit_stake"
  | .requestWithdraw => "request_staking_withdraw"
  | .withdrawStake => "withdraw_stake"
  | .beginDispute _ _ _ => "begin_dispute"
  | .vote _ _ => "vote"
  | .transfer _ _ => "transfer"
  | .approve _ _ => "approve"
  | .addTip _ _ => "add_tip"

inductive Error where
  /-- The chain cannot be reached, or is not ready. -/
  | unavailable (message : String)
  /-- A query failed. -/
  | query (call message : String)
  | transaction (call message : String)
  deriving Repr, DecidableEq

def Error.message : Error → String
  | .unavailable message => "Ethereum node unavailable: " ++ message
  | .query call message => s!"RPC call {call} failed: {message}"
  | .transaction call message => s!"Transaction {call} failed: {message}"

/-- All that can be asked of the chain. -/
inductive Call where
  | query (q : Query)
  | send (t : Transaction)
  deriving Repr, DecidableEq

@[reducible] def Call.Answer : Call → Type
  | .query q => Except Error q.Answer
  | .send _ => Except Error Word

end Chain
end PriceOracle
