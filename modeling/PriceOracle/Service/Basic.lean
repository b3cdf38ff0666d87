import PriceOracle.Feed.Tracker
import PriceOracle.Lifecycle
import PriceOracle.Proxy.Local

/-!
# PriceOracle.Service.Basic

The data service: it opens the store afresh and lets all trackers run in cycles. After a set number
of cycles it is ready. When it is told to stop, the cycle in flight is brought to its end before
the store is closed. `ready` is what somebody is told who waits for the service to become ready.

`advance` is what the service does next on its way into a run and out of it. Others may look at the
store, at the lifecycle and at the readiness between any two of these steps.
-/

namespace PriceOracle

inductive Readiness where
  | pending
  | ready
  | stopped
  deriving Repr, DecidableEq

namespace Service

/-- What the service is in the middle of. -/
inductive Phase where
  | idle
  /-- It has been let in to start and opens the store. -/
  | opening
  /-- The store is open, but not yet in the cell. -/
  | installing (h : Store.Handle)
  /-- The store is in the cell. Those who wait are still told of the run before. -/
  | announcing
  | launching
  /-- It waits for its next cycle. -/
  | waiting (completed : Nat)
  /-- Its trackers run. -/
  | collecting (completed : Nat) (running : List (Program Node.Reply (Except Failure Unit)))
  | closing
  /-- The store is closed. Some may still wait for the service to become ready. -/
  | settling
  | halting

end Service

structure Service where
  trackers : List Tracker
  path : Store.Path
  /-- How many cycles it takes to become ready. -/
  readyAfter : Nat
  lifecycle : Lifecycle
  readiness : Readiness
  phase : Service.Phase
  /-- How many cycles have begun, over all runs. -/
  cycles : Nat
  /-- It has been told to stop. -/
  dismissed : Bool

namespace Service

open Proxy (Local)

def new (trackers : List Tracker) (path : Store.Path) (readyAfter : Nat) : Service :=
  ⟨trackers, path, readyAfter, .created, .pending, .idle, 0, false⟩

/-- Let somebody start the service, unless it runs. -/
def enter (s : Service) : Except Failure Unit × Service :=
  if s.lifecycle.isRunning then (.error (.refused .alreadyServing), s)
  else (.ok (), { s with lifecycle := .starting, phase := .opening, dismissed := false })

/-- The next step into a run or out of it, if there is one to take. A run ends when the service has
been told so and no cycle is in flight. -/
def advance (s : Service) (l : Local) : Except Failure Unit × Service × Local :=
  match s.phase with
  | .opening =>
    match Store.Disk.migrate s.path l.disk with
    | (.error e, disk) =>
      (.error (.store e), { s with lifecycle := .stopped, phase := .idle }, { l with disk })
    | (.ok h, disk) => (.ok (), { s with phase := .installing h }, { l with disk })
  | .installing h => (.ok (), { s with phase := .announcing }, l.install h)
  | .announcing => (.ok (), { s with readiness := .pending, phase := .launching }, l)
  | .launching => (.ok (), { s with lifecycle := .running, phase := .waiting 0 }, l)
  | .waiting _ =>
    if s.dismissed then (.ok (), { s with lifecycle := .stopping, phase := .closing }, l)
    else (.ok (), s, l)
  | .closing => (.ok (), { s with phase := .settling }, l.close)
  | .settling =>
    let readiness := if s.readiness = .pending then .stopped else s.readiness
    (.ok (), { s with readiness, phase := .halting }, l)
  | .halting => (.ok (), { s with lifecycle := .stopped, phase := .idle }, l)
  | .idle | .collecting _ _ => (.ok (), s, l)

/-- Take some steps, as long as they go well. -/
def advanceBy : (steps : Nat) → Service → Local → Except Failure Unit × Service × Local
  | 0, s, l => (.ok (), s, l)
  | steps + 1, s, l =>
    match s.advance l with
    | (.error f, s, l) => (.error f, s, l)
    | (.ok (), s, l) => advanceBy steps s l

/-- How many steps lead into a run. As many lead out of it. -/
def stages : Nat := 4

/-- Open the store afresh and begin a run. -/
def start (s : Service) (l : Local) : Except Failure Unit × Service × Local :=
  match s.enter with
  | (.error f, s) => (.error f, s, l)
  | (.ok (), s) => s.advanceBy stages l

def dismiss (s : Service) : Service := { s with dismissed := true }

def beginCycle (s : Service) : Service :=
  match s.phase with
  | .waiting completed =>
    { s with
      phase := .collecting completed (s.trackers.map fun t => (t.work (s.cycles + 1)).outcome)
      cycles := s.cycles + 1 }
  | _ => s

def stepTracker {σ : Type} (answer : Program.Answerer Node.Reply σ) (i : Nat) (s : Service)
    (world : σ) : Service × σ :=
  match s.phase with
  | .collecting completed running =>
    match running[i]? with
    | none => (s, world)
    | some p =>
      let (p, world) := p.step answer world
      ({ s with phase := .collecting completed (running.set i p) }, world)
  | _ => (s, world)

/-- How ready the service is after so many cycles. -/
def readinessAfter (s : Service) (completed : Nat) : Readiness :=
  if completed = max 1 s.readyAfter then .ready else s.readiness

/-- End a cycle whose trackers have all come to their ends. -/
def endCycle (s : Service) : Service :=
  match s.phase with
  | .collecting completed running =>
    if running.all fun p => p.result?.isSome then
      { s with
        phase := .waiting (completed + 1), readiness := s.readinessAfter (completed + 1) }
    else s
  | _ => s

/-- Stop, if told so and no cycle is in flight: close the store, and let nobody wait on. -/
def windDown (s : Service) (l : Local) : Service × Local := (s.advanceBy stages l).2

def runAll {σ α : Type} (answer : Program.Answerer Node.Reply σ) :
    List (Program Node.Reply α) → σ → List α × σ
  | [], world => ([], world)
  | p :: rest, world =>
    let (a, world) := p.run answer world
    let (as, world) := runAll answer rest world
    (a :: as, world)

/-- A whole cycle, one tracker after another. -/
def runCycle {σ : Type} (answer : Program.Answerer Node.Reply σ) (s : Service) (world : σ) :
    Service × σ :=
  let s := s.beginCycle
  match s.phase with
  | .collecting completed running =>
    let (results, world) := runAll answer running world
    (endCycle { s with phase := .collecting completed (results.map .done) }, world)
  | _ => (s, world)

/-- What somebody is told who waits for the service to become ready; nothing yet if that is still
to be seen. -/
def ready (s : Service) : Option (Except Failure Unit) :=
  match s.readiness with
  | .pending => none
  | .ready => some (.ok ())
  | .stopped => some (.error .cancelled)

end Service
end PriceOracle
