import PriceOracle.Account.Checksum
import PriceOracle.Amount
import PriceOracle.Dispute.Basic

/-!
# PriceOracle.Dispute.Text

A report as its reader sees it, line by line.
-/

namespace PriceOracle
namespace Dispute

/-- A mark in front of the reported slot. -/
def slotMark (reported slot : Nat) : String := if slot = reported then "*" else " "

def Submission.line (reported slot : Nat) (s : Submission) : String :=
  "   " ++ slotMark reported slot ++ s!"[{slot}] " ++ s.miner.checksum ++ " " ++
    s.value.toDecimal ++ " at " ++ Calendar.format s.time

/-- The submissions, the first of which is in the slot `slot`. -/
def submissionLines (reported slot : Nat) : List Submission → List String
  | [] => []
  | s :: rest => s.line reported slot :: submissionLines reported (slot + 1) rest

def sampleLine (sample : Float × Int) : String :=
  "    " ++ Decimal.display sample.1 ++ " at " ++ Calendar.format sample.2

def Recommendation.lines (timeDelta : Nat) (r : Recommendation) : List String :=
  ("  Recommendation:  vote " ++ (if r.support then "for" else "against") ++ " (expected " ++
      Decimal.fixed 0 r.check.low ++ " to " ++ Decimal.fixed 0 r.check.high ++
      s!" from {r.check.datapoints.length} samples within {timeDelta}s)") ::
    r.nearest.map sampleLine

namespace Report

def headLines (r : Report) : List String :=
  ["Dispute " ++ r.disputeId.toDecimal ++ " (" ++ r.status.describe ++ ")",
    "  Request id:      " ++ r.requestId.toDecimal,
    "  Reported miner:  " ++ r.reportedMiner.checksum,
    "  Reporting party: " ++ r.reportingParty.checksum,
    "  Created:         " ++ Calendar.format r.createdAt,
    "  Fee:             " ++ Amount.format r.fee,
    "  Disputed value:  " ++ r.disputedValue.toDecimal ++ s!" (slot {r.minerSlot})",
    "  Votes:           " ++ r.votes.toDecimal ++ " of quorum " ++ r.quorum.toDecimal ++
      ", tally " ++ Decimal.fixed 2 r.tallyRatio]

def submissionsPart (r : Report) : List String :=
  match r.submissions with
  | [] => ["  Submissions:     unavailable"]
  | s :: rest => "  Submissions:" :: submissionLines r.minerSlot 0 (s :: rest)

def recommendationPart (timeDelta : Nat) (r : Report) : List String :=
  match r.recommendation with
  | some recommendation => recommendation.lines timeDelta
  | none => ["  Recommendation:  no local data for this submission"]

def lines (timeDelta : Nat) (r : Report) : List String :=
  r.headLines ++ r.submissionsPart ++ r.recommendationPart timeDelta

/-- The report, each line with its end. -/
def text (timeDelta : Nat) (r : Report) : String :=
  String.join ((r.lines timeDelta).map (· ++ "\n"))

end Report
end Dispute
end PriceOracle
