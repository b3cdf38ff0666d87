import PriceOracle.Chain.Contract
import PriceOracle.Program
import PriceOracle.Rpc.Block
import PriceOracle.Rpc.Fees
import PriceOracle.Rpc.Sync

/-!
# PriceOracle.Rpc.Client

The chain as seen through a node that speaks JSON. Each call of the chain becomes one question, and
a transaction becomes several: what it would cost, and what belongs to it, before it is signed and
sent. An answer that cannot be read is as bad as none.
-/

namespace PriceOracle
namespace Rpc

open Chain

def place? : Json → Option (Option Nat) := Json.nullable (quantity? 64)

def truth? : Json → Option Bool
  | .bool b => some b
  | _ => none

/-- A log. One that is not in a block yet counts as one of block zero. -/
def log? : Json → Option Log
  | .object fields => do
    let field (name : String) := Json.lookup name fields
    let _ ← (field "address").bind (bytesOf? 20)
    let topics ← (field "topics").bind (Json.list? word?)
    let data ← (field "data").bind bytes?
    let block ← (field "blockNumber").bind place?
    let _ ← (field "transactionIndex").bind place?
    let _ ← (field "logIndex").bind place?
    let _ ← optional word? (field "blockHash")
    let _ ← optional word? (field "transactionHash")
    let _ ← optional (quantity? 64) (field "blockTimestamp")
    let _ ← Json.defaulted false truth? (field "removed")
    some ⟨block.getD 0, topics, data⟩
  | _ => none

structure Signer where
  key : PrivateKey
  account : Address
  deriving Repr, DecidableEq

namespace Signer

def ofKey (key : PrivateKey) : Signer := ⟨key, key.address⟩

end Signer

namespace Client

/-- A conversation with the node that may fail. -/
abbrev Talk (α : Type) := Program Reply (Except Error α)

def put (ask : Ask) : Program Reply (Option Json) := Program.perform ask

/-- What the node said when a question fails. -/
def noAnswer : String := "no answer that makes sense"

def read {α : Type} (error : Error) (decode : Json → Option α) (ask : Ask) :
    Program Reply (Except Error α) := do
  match (← put ask).bind decode with
  | some a => return .ok a
  | none => return .error error

def query {α : Type} (decode : Json → Option α) (ask : Ask) : Talk α :=
  read (.query ask.method noAnswer) decode ask

def view {α : Type} (contract : Address) (s : Abi.Signature) (arguments : List Abi.Argument)
    (decode : Bytes → Option α) : Talk α :=
  read (.query s.name noAnswer) (fun j => (bytes? j).bind decode)
    (.call contract (Abi.call s arguments))

open Contract in
def answerQuery (contract : Address) : (q : Query) → Talk q.Answer
  | .isSyncing => read (.unavailable noAnswer) Sync.ofJson? .syncing
  | .latestBlock => query (quantity? 64) .latestBlock
  | .blockTime block => query (fun j => (Block.ofJson? j).map (·.time)) (.block block)
  | .gasPrice => query (fun j => (quantity? 128 j).map (BitVec.ofNat 256)) .gasPrice
  | .etherBalance account =>
    query (fun j => (quantity? 256 j).map (BitVec.ofNat 256)) (.balance account)
  | .tokenBalance account => view contract balanceOf [.word account.toWord] readWord
  | .stake account => view contract getStakerInfo [.word account.toWord] readStake
  | .setting key => view contract getUintVar [.word key] readWord
  | .currentRound => view contract getCurrentVariables [] readRound
  | .values requestId timestamp =>
    view contract getSubmissionsByTimestamp [.word requestId, .word timestamp] readValues
  | .miners requestId timestamp =>
    view contract getMinersByRequestIdAndTimestamp [.word requestId, .word timestamp] readMiners
  | .disputeVars disputeId => view contract getAllDisputeVars [.word disputeId] readDisputeVars
  | .hasVoted disputeId voter =>
    view contract didVote [.word disputeId, .word voter.toWord] readFlag
  | .logs e first last =>
    query (Json.list? log?) (.logs contract (event e).topic first last)

/-- How much gas does a call of the contract take? -/
def gas (s : Signer) (contract : Address) (data : Bytes) : Program Reply (Option Nat) :=
  return (← put (.estimate s.account contract data)).bind (quantity? 64)

/-- What to offer, with the gas that it takes, where blocks ask for no base fee. -/
def flatOffer (gas : Program Reply (Option Nat)) : Program Reply (Option (Price × Nat)) := do
  let perUnit := (← put .gasPrice).bind (quantity? 128)
  let gas ← gas
  return do some (.flat (← perUnit), ← gas)

/-- What to offer, with the gas that it takes. When the history does not show the base fee of the
newest block, the block itself is asked for. -/
def offer (gas : Program Reply (Option Nat)) : Program Reply (Option (Price × Nat)) := do
  match ← gas with
  | none => return none
  | some amount =>
    match (← put .feeHistory).bind FeeHistory.ofJson? with
    | none => return none
    | some history =>
      match history.newest? with
      | some base => return some (.capped (history.offer base), amount)
      | none =>
        match (← put .newestBlock).bind Block.ofJson? with
        | none => return none
        | some ⟨_, _, some base⟩ => return some (.capped (history.offer base), amount)
        | some ⟨_, _, none⟩ => flatOffer gas

/-- Find out what a transaction needs, and sign it. -/
def prepare (s : Signer) (contract : Address) (data : Bytes) : Program Reply (Option Bytes) := do
  match ← offer (gas s contract data) with
  | none => return none
  | some (price, gas) =>
    let chainId := (← put .chainId).bind (quantity? 64)
    let nonce := (← put (.transactionCount s.account)).bind (quantity? 64)
    return do
      let envelope : Envelope := ⟨← chainId, ← nonce, price, gas, contract, data⟩
      envelope.sign? s.key

def send (signer : Signer) (contract : Address) (t : Transaction) :
    Program Reply (Except Error Word) := do
  let (s, arguments) := Contract.ofTransaction t
  match ← prepare signer contract (Abi.call s arguments) with
  | some signed => read (.transaction s.name noAnswer) word? (.submit signed)
  | none => return .error (.transaction s.name noAnswer)

def answer (signer : Signer) (contract : Address) : (c : Call) → Program Reply c.Answer
  | .query q => answerQuery contract q
  | .send t => send signer contract t

end Client
end Rpc
end PriceOracle
