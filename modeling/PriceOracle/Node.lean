import PriceOracle.Failure
import PriceOracle.Feed.Fetch
import PriceOracle.Program
import PriceOracle.Store.Key
import PriceOracle.Store.Quantity

/-!
# PriceOracle.Node

What the procedures of the node ask of their surroundings: the chain, the store, the sources of
prices and the clock. An `Action` is such a procedure that may fail. Nothing is said here about what
answers; `Program.run` brings the two together.
-/

namespace PriceOracle
namespace Node

inductive Ask where
  | chain (call : Chain.Call)
  | get (key : String)
  | put (key : String) (value : Bytes)
  /-- Write what comes of a record, in one step. -/
  | update (key : String) (change : Option Bytes → Except Store.Error Bytes)
  /-- Fetch a document, as long as the time set for it lasts. -/
  | fetch (url : String)
  /-- The time of day in seconds since the start of 1970. -/
  | now

/-- Does the question take the store, of which there is one for all? -/
def Ask.isAccess : Ask → Bool
  | .get _ | .put _ _ | .update _ _ => true
  | .chain _ | .fetch _ | .now => false

@[reducible] def Reply : Ask → Type
  | .chain call => call.Answer
  | .get _ => Except Proxy.Error (Option Bytes)
  | .put _ _ => Except Proxy.Error Unit
  | .update _ _ => Except Proxy.Error Unit
  | .fetch _ => Except Fetch.Error Bytes
  | .now => Int

/-- Fail unless the chain is in step with its network. -/
def synced : Program Reply (Except Chain.Error Unit) := do
  match ← Program.perform (Ask.chain (.query .isSyncing)) with
  | .ok true => return .error (.unavailable "ethereum node is still syncing with the network")
  | .ok false => return .ok ()
  | .error e => return .error e

/-- Let a procedure go on until it asks for one more access to the store than it may have. -/
def goOn {σ α : Type} (answer : Program.Answerer Reply σ) :
    (accesses : Nat) → Program Reply α → σ → Program Reply α × σ
  | _, .done a, s => (.done a, s)
  | accesses, .ask op next, s =>
    if op.isAccess && accesses = 0 then (.ask op next, s)
    else
      let (r, s) := answer op s
      goOn answer (if op.isAccess then accesses - 1 else accesses) (next r) s

abbrev Action (α : Type) := ExceptT Failure (Program Reply) α

namespace Action

def ask (op : Ask) : Action (Reply op) := ExceptT.lift (Program.perform op)

/-- Ask a question; a failure to answer is a failure of the action. -/
def answered {ε α : Type} (wrap : ε → Failure) (p : Program Reply (Except ε α)) : Action α :=
  ExceptT.mk (p >>= fun r => pure (r.mapError wrap))

def query (q : Chain.Query) : Action q.Answer :=
  answered Failure.ofChain (Program.perform (Ask.chain (.query q)))

def send (t : Chain.Transaction) : Action Word :=
  answered Failure.ofChain (Program.perform (Ask.chain (.send t)))

def get (key : String) : Action (Option Bytes) :=
  answered Failure.ofProxy (Program.perform (Ask.get key))

def put (key : String) (value : Bytes) : Action Unit :=
  answered Failure.ofProxy (Program.perform (Ask.put key value))

def update (key : String) (change : Option Bytes → Except Store.Error Bytes) : Action Unit :=
  answered Failure.ofProxy (Program.perform (Ask.update key change))

def now : Action Int := ask Ask.now

def putWord (key : String) (w : Word) : Action Unit := put key (Quantity.encode w)

def getWord (key : String) : Action (Option Word) := do
  match ← get key with
  | none => return none
  | some raw =>
    match Quantity.decode key raw with
    | .ok w => return some w
    | .error e => throw (.store e)

/-- Go on only when the chain is in step with its network. -/
def ensureSynced : Action Unit := answered Failure.ofChain synced

/-- The value of an action, or a default when it fails. -/
def orElse {α : Type} (a : Action α) (default : α) : Action α := tryCatch a fun _ => pure default

/-- How an action ends, as a value of a procedure that cannot fail. -/
def outcome {α : Type} (a : Action α) : Program Reply (Except Failure α) := a.run

end Action
end Node
end PriceOracle
