/-!
# PriceOracle.Lifecycle

What a part of the node that runs for long is up to, and the wait for such parts to stop. The wait
looks at them in regular intervals; those that still run when it has lasted too long are reported
as slow.
-/

namespace PriceOracle

inductive Lifecycle where
  | created
  | starting
  | running
  | stopping
  | stopped
  deriving Repr, DecidableEq

namespace Lifecycle

def name : Lifecycle → String
  | .created => "Created"
  | .starting => "Starting"
  | .running => "Running"
  | .stopping => "Stopping"
  | .stopped => "Stopped"

def ofName? (s : String) : Option Lifecycle :=
  [created, starting, running, stopping, stopped].find? fun l => l.name = s

/-- A part runs from its start until it has stopped. -/
def isRunning : Lifecycle → Bool
  | .starting | .running | .stopping => true
  | .created | .stopped => false

end Lifecycle

/-- A part of the node and what it is up to at each time. -/
structure Component where
  name : String
  stateAt : Nat → Lifecycle

/-- How long a wait took, and who was slow. -/
structure StopReport where
  waited : Nat
  slow : List String
  deriving Repr, DecidableEq

namespace StopReport

def runsAt (time : Nat) (c : Component) : Bool := (c.stateAt time).isRunning

/-- Mark the parts that run although the time to warn has passed. -/
def mark (warnAfter time : Nat) (marked : List (Component × Bool)) : List (Component × Bool) :=
  marked.map fun (c, slow) => (c, slow || (warnAfter < time && runsAt time c))

/-- Wait until no part runs, looking `looks` times at most. -/
def waitFrom (poll warnAfter : Nat) (marked : List (Component × Bool)) (time : Nat) :
    (looks : Nat) → Option StopReport
  | 0 => none
  | looks + 1 =>
    if marked.any fun (c, _) => runsAt time c then
      waitFrom poll warnAfter (mark warnAfter time marked) (time + poll) looks
    else some ⟨time, (marked.filter (·.2)).map (·.1.name)⟩

def wait (components : List Component) (poll warnAfter looks : Nat) : Option StopReport :=
  waitFrom poll warnAfter (components.map (·, false)) 0 looks

end StopReport
end PriceOracle
