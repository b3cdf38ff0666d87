import PriceOracle.Word

/-!
# PriceOracle.Command.Basic

What the program can be told to do.
-/

namespace PriceOracle

inductive StakeAction where
  | deposit
  | request
  | withdraw
  | status
  deriving Repr, DecidableEq

inductive Command where
  | stake (action : StakeAction)
  | transfer (recipient : Address) (amount : String)
  | approve (spender : Address) (amount : String)
  | tip (requestId : Word) (amount : String)
  /-- Of the own account, if no other is named. -/
  | balance (account : Option Address)
  | beginDispute (requestId timestamp : Word) (minerIndex : Nat)
  | vote (disputeId : Word) (supports : Bool)
  | showDisputes (remote : Bool)
  /-- Run the data service by itself. -/
  | serve
  | mine (remote : Bool)
  deriving Repr, DecidableEq

namespace Command

/-- A command with the settings of one run. -/
structure Invocation where
  configPath : String
  logLevel : Option String
  command : Command
  deriving Repr, DecidableEq

end Command
end PriceOracle
