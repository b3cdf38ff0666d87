import PriceOracle.Lifecycle
import PriceOracle.Mining.Worker

/-!
# PriceOracle.Mining.Manager

The manager starts a crew of workers when the chain and the gate allow it, and has stopped when all
of them are gone. A start goes through several steps, and nothing keeps two starts from being under
way at the same time; `Start.step` is one step of a start.
-/

namespace PriceOracle
namespace Mining

open Node Node.Action

/-- A crew with what each of its workers is up to. -/
structure Group where
  crew : Crew
  phases : List Phase

structure Manager where
  account : Address
  settings : Settings
  lifecycle : Lifecycle
  /-- The crews that are not gone yet. -/
  groups : List Group

namespace Manager

def new (account : Address) (settings : Settings) : Manager := ⟨account, settings, .created, []⟩

/-- What forbids a start whatever the chain and the store say. -/
def forbids (m : Manager) : Option Failure :=
  if m.lifecycle.isRunning then some (.refused .alreadyMining)
  else if m.settings.workers = 0 then some (.refused .noWorkers)
  else none

/-- What has to be so before a crew may start. -/
def entry : Action Unit := do
  ensureSynced
  checkGate

def newGroup (m : Manager) : Group :=
  ⟨⟨m.account, m.settings, none, 0, false⟩, List.replicate m.settings.workers .ready⟩

def launch (m : Manager) : Manager :=
  { m with lifecycle := .running, groups := m.groups ++ [m.newGroup] }

/-- A start that nothing comes between. -/
def start {σ : Type} (answer : Program.Answerer Reply σ) (m : Manager) (s : σ) :
    Except Failure Unit × Manager × σ :=
  match m.forbids with
  | some failure => (.error failure, m, s)
  | none =>
    match entry.outcome.run answer s with
    | (.error failure, s) => (.error failure, m, s)
    | (.ok (), s) => (.ok (), m.launch, s)

def isGone : Phase → Bool
  | .gone => true
  | _ => false

def Group.isOver (g : Group) : Bool := g.phases.all isGone

/-- Forget the crews that are gone. When one is, the manager counts as stopped. -/
def clear (m : Manager) : Manager :=
  if m.groups.any Group.isOver then
    { m with lifecycle := .stopped, groups := m.groups.filter (!Group.isOver ·) }
  else m

def dismiss (m : Manager) : Manager :=
  { m with groups := m.groups.map fun g => { g with crew := { g.crew with dismissed := true } } }

end Manager

inductive Start where
  | asked
  | checking (rest : Program Reply (Except Failure Unit))
  | launching
  | over (result : Except Failure Unit)

def Start.step {σ : Type} (answer : Program.Answerer Reply σ) (start : Start) (m : Manager)
    (s : σ) : Start × Manager × σ :=
  match start with
  | .asked =>
    match m.forbids with
    | some failure => (.over (.error failure), m, s)
    | none => (.checking Manager.entry.outcome, m, s)
  | .checking (.done (.error failure)) => (.over (.error failure), m, s)
  | .checking (.done (.ok ())) => (.launching, { m with lifecycle := .starting }, s)
  | .checking rest =>
    let (rest, s) := rest.step answer s
    (.checking rest, m, s)
  | .launching => (.over (.ok ()), m.launch, s)
  | .over result => (.over result, m, s)

end Mining
end PriceOracle
