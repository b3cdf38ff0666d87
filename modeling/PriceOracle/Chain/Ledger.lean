import PriceOracle.Chain.Basic
import PriceOracle.Program
import PriceOracle.Table

/-!
# PriceOracle.Chain.Ledger

A chain in memory: what it knows, what it has been asked for, and what it has been sent. It takes
every transaction as long as it can be reached, apart from solutions, which it can be told to
refuse.
-/

namespace PriceOracle
namespace Chain

/-- What the five miners of a round reported. -/
structure Reports where
  values : Vector Word reporters
  miners : Vector Address reporters

/-- What a contract answers for a round that it does not know. -/
def Reports.none : Reports := ⟨Vector.replicate _ 0, Vector.replicate _ 0⟩

structure Ledger where
  syncing : Bool := false
  unreachable : Bool := false
  /-- Solutions are refused. -/
  refuses : Bool := false
  latestBlock : Nat := 0
  blockTimes : Table Nat Nat := []
  gasPrice : Word := 0
  etherBalance : Word := 0
  tokenBalance : Word := 0
  stake : Stake.Info := ⟨0, 0⟩
  settings : Table Word Word := []
  round : Option Round := none
  reports : Table (Word × Word) Reports := []
  disputes : Table Word DisputeVars := []
  votes : List (Word × Address) := []
  logs : List (Event × Log) := []
  /-- The ranges in which logs were looked for, the latest first. -/
  searches : List (Event × Nat × Option Nat) := []
  /-- The transactions so far, the latest first. -/
  sent : List Transaction := []

namespace Ledger

def refused : String := "connection refused"

/-- The logs of an event in a range of blocks, by block, those of one block in their order. -/
def logsIn (l : Ledger) (event : Event) (first : Nat) (last : Option Nat) : List Log :=
  (l.logs.filterMap fun (e, log) =>
      if e = event ∧ first ≤ log.block ∧ last.all (log.block ≤ ·) then some log else none)
    |>.mergeSort fun a b => a.block ≤ b.block

def found {α : Type} (call message : String) : Option α → Except Error α
  | some a => .ok a
  | none => .error (.query call message)

/-- What a chain that can be reached knows. -/
def lookUp (l : Ledger) : (q : Query) → Except Error q.Answer
  | .isSyncing => .ok l.syncing
  | .latestBlock => .ok l.latestBlock
  | .blockTime block =>
    found "block_timestamp" ("no block " ++ toString block) (l.blockTimes.get? block)
  | .gasPrice => .ok l.gasPrice
  | .etherBalance _ => .ok l.etherBalance
  | .tokenBalance _ => .ok l.tokenBalance
  | .stake _ => .ok l.stake
  | .setting key => .ok ((l.settings.get? key).getD 0)
  | .currentRound => found "current_variables" "no round" l.round
  | .values requestId timestamp =>
    .ok ((l.reports.get? (requestId, timestamp)).getD Reports.none).values
  | .miners requestId timestamp =>
    .ok ((l.reports.get? (requestId, timestamp)).getD Reports.none).miners
  | .disputeVars disputeId => found "dispute_vars" "unknown dispute" (l.disputes.get? disputeId)
  | .hasVoted disputeId voter => .ok (l.votes.contains (disputeId, voter))
  | .logs event first last => .ok (l.logsIn event first last)

/-- Logs are found even when the chain cannot be reached. -/
def survives : Query → Bool
  | .logs _ _ _ => true
  | _ => false

def read (l : Ledger) (q : Query) : Except Error q.Answer :=
  if l.unreachable && !survives q then .error (.unavailable refused) else l.lookUp q

/-- The ledger remembers where logs were looked for. -/
def noteSearch (l : Ledger) : Query → Ledger
  | .logs event first last => { l with searches := (event, first, last) :: l.searches }
  | _ => l

/-- The hash of the latest transaction: how many there are, in its lowest byte. -/
def latestHash (l : Ledger) : Word := BitVec.ofNat 256 (l.sent.length % 256)

def isSolution : Transaction → Bool
  | .submitSolution _ _ _ => true
  | _ => false

def send (l : Ledger) (t : Transaction) : Except Error Word × Ledger :=
  if l.unreachable then (.error (.unavailable refused), l)
  else if l.refuses && isSolution t then (.error (.transaction t.name "execution reverted"), l)
  else
    let l := { l with sent := t :: l.sent }
    (.ok l.latestHash, l)

def answer : Program.Answerer Call.Answer Ledger
  | .query q, l => (l.read q, l.noteSearch q)
  | .send t, l => l.send t

end Ledger
end Chain
end PriceOracle
