import PriceOracle.Host.Link
import PriceOracle.Host.Web
import PriceOracle.Rpc.Session
import PriceOracle.World
import Std.Time.DateTime.Timestamp

/-!
# PriceOracle.Host.Surroundings

The surroundings of a node that runs: a chain node at a URL, the store here or at a detached data
service, pages of other hosts, and the clock.
-/

namespace PriceOracle
namespace Host

inductive Access where
  | here (v : Vault)
  | elsewhere (l : Link)

namespace Access

/-- What is told when the file system fails. -/
def failure {α : Type} : IO (Except Proxy.Error α) := return .error (.store .unreachable)

def get (key : String) : Access → IO (Except Proxy.Error (Option Bytes))
  | .here v => return World.stored (← v.look (·.get key))
  | .elsewhere l => l.get key

def put (key : String) (value : Bytes) : Access → IO (Except Proxy.Error Unit)
  | .here v => do
    try return World.stored (← v.change (·.put key value)) catch _ => failure
  | .elsewhere l => l.put key value

/-- Write what comes of a record. Elsewhere this takes two steps. -/
def update (key : String) (change : Option Bytes → Except Store.Error Bytes) :
    Access → IO (Except Proxy.Error Unit)
  | .here v => do
    try return World.stored (← v.change (·.update key change)) catch _ => failure
  | .elsewhere l => do
    match ← l.get key with
    | .error e => return .error e
    | .ok current =>
      match change current with
      | .error e => return .error (.store e)
      | .ok value => l.put key value

end Access

structure Surroundings where
  nodeUrl : String
  session : Rpc.Session
  access : Access
  /-- How long a fetch may take, in nanoseconds. -/
  patience : Nat

namespace Surroundings

def answer (s : Surroundings) : (op : Node.Ask) → IO (Node.Reply op)
  | .chain call => Program.runM (askNode s.nodeUrl) (s.session.answer call)
  | .get key => s.access.get key
  | .put key value => s.access.put key value
  | .update key change => s.access.update key change
  | .fetch url => Host.fetch url s.patience
  | .now => return (← Std.Time.Timestamp.now).toSecondsSinceUnixEpoch.val

/-- Run an action of the node to its end. -/
def perform {α : Type} (s : Surroundings) (a : Node.Action α) : IO (Except Failure α) :=
  Program.runM s.answer a.outcome

def performAll {α : Type} (s : Surroundings) (programs : List (Program Node.Reply α)) :
    IO (List α) := do
  let tasks ← programs.mapM fun p => IO.asTask (Program.runM s.answer p) .dedicated
  tasks.mapM fun task => IO.ofExcept task.get

end Surroundings

/-- Wait for so many milliseconds, or until told to stop. -/
partial def rest (told : IO Bool) (ms : Nat) : IO Unit := do
  if ms = 0 || (← told) then return
  let nap := min ms glance
  IO.sleep nap.toUInt32
  rest told (ms - nap)

/-- Wait until something holds. -/
partial def await (holds : IO Bool) : IO Unit := do
  unless ← holds do
    IO.sleep glance.toUInt32
    await holds

end Host
end PriceOracle
