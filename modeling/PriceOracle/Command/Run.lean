import PriceOracle.Command.Arguments
import PriceOracle.Config.Reading
import PriceOracle.Dispute.Evidence
import PriceOracle.Dispute.Text
import PriceOracle.Operations
import PriceOracle.Rpc.Session

/-!
# PriceOracle.Command.Run

What the commands do, and what the program says in the end. Commands that are over at once are
actions of the node, whose value is what is printed.
-/

namespace PriceOracle
namespace Command

structure Exit where
  code : Nat
  output : String
  errors : String
  deriving Repr, DecidableEq

inductive Trouble where
  | config (error : Config.LoadError)
  | session (fault : Rpc.Session.Fault)
  | failure (failure : Failure)
  /-- The store cannot be opened. -/
  | store (path : String)
  /-- There is no data service at the other end. -/
  | service (url : String)
  /-- Nobody can connect here. -/
  | listen (address : String)

def Trouble.message : Trouble → String
  | .config error => error.message
  | .session fault => fault.message
  | .failure f => f.message
  | .store path => s!"open store {path} (use --remote while a data service runs)"
  | .service url => "connect to data service at " ++ url
  | .listen address => "bind data proxy server on " ++ address

namespace Exit

def success (output : String) : Exit := ⟨0, output, ""⟩

def ofTrouble (t : Trouble) : Exit := ⟨1, "", "Error: " ++ t.message ++ "\n"⟩

def usage : String := "Usage: oracle-miner [OPTIONS] <COMMAND>\n"

def ofStop : Stop → Exit
  | .usage => ⟨2, "", "error: the arguments make no sense\n\n" ++ usage⟩
  | .help => ⟨0, "Proof-of-work oracle miner node\n\n" ++ usage, ""⟩
  | .version => ⟨0, "oracle-miner 0.1.0\n", ""⟩

/-- The end of a run that either fails or prints something. -/
def ofResult : Except Failure String → Exit
  | .ok output => success output
  | .error f => ofTrouble (.failure f)

end Exit

open Node Node.Action

def amount (raw : String) : Action Word :=
  match Amount.parse raw with
  | .ok units => pure units
  | .error fault => throw (.refused (.amount raw fault))

def silently {α : Type} (a : Action α) : Action String := do
  let _ ← a
  return ""

def stakeAction (account : Address) : StakeAction → Action String
  | .deposit => silently (Operations.deposit account)
  | .request => silently (Operations.requestWithdraw account)
  | .withdraw => silently (Operations.withdraw account)
  | .status => return (← Operations.stakeStatus account) ++ "\n"

def balanceText (account : Address) (b : Operations.Balances) : String :=
  account.checksum ++ "\n  ETH:   " ++ Amount.format b.ether ++ "\n  Token: " ++
    Amount.format b.token ++ "\n"

def showBalance (account : Address) : Action String :=
  return balanceText account (← Operations.balances account)

/-- Reports one after another, each followed by an empty line. -/
def reportsText (timeDelta : Nat) (reports : List Dispute.Report) : String :=
  if reports.isEmpty then "No disputes found\n"
  else String.join (reports.map fun r => r.text timeDelta ++ "\n")

def showReports (c : Config) : Action String := do
  ensureSynced
  let reports ← Dispute.reports c.dispute c.service.feeds
  return reportsText c.dispute.timeDelta reports

/-- A command that needs no store and is over at once. -/
def oneShot (account : Address) : Command → Option (Action String)
  | .stake action => some (stakeAction account action)
  | .transfer recipient raw =>
    some (silently do Operations.transfer account recipient (← amount raw))
  | .approve spender raw => some (silently do Operations.approve account spender (← amount raw))
  | .tip requestId raw => some (silently do Operations.addTip account requestId (← amount raw))
  | .balance other => some (showBalance (other.getD account))
  | .beginDispute requestId timestamp minerIndex =>
    some (silently (Operations.beginDispute account requestId timestamp minerIndex))
  | .vote disputeId supports => some (silently (Operations.vote account disputeId supports))
  | .showDisputes _ | .serve | .mine _ => none

end Command
end PriceOracle
