import PriceOracle.Host.Surroundings
import PriceOracle.Mining.Manager
import PriceOracle.Service.Basic

/-!
# PriceOracle.Host.Parts

The parts of a node that run for long: the data service, which goes from cycle to cycle, and the
workers that mine. Both stop when they are told to.
-/

namespace PriceOracle
namespace Host

open Mining

structure Office where
  state : IO.Ref Service
  vault : Vault
  surroundings : Surroundings
  /-- Milliseconds from the end of a cycle to the next one. -/
  pause : Nat

namespace Office

def start (o : Office) : IO (Except Failure Unit) := do
  let service ← o.state.get
  let (result, service) ← o.vault.change fun store =>
    let (result, service, store) := service.start store
    ((result, service), store)
  o.state.set service
  return result

/-- Go through the cycles. -/
partial def run (told : IO Bool) (o : Office) : IO Unit := do
  let service ← o.state.get
  let service := if ← told then service.dismiss else service
  let service ← o.vault.change service.windDown
  o.state.set service
  let service := service.beginCycle
  match service.phase with
  | .collecting completed running =>
    let results ← o.surroundings.performAll running
    let phase := .collecting completed (results.map .done)
    o.state.set { service with phase }.endCycle
    rest told o.pause
    o.run told
  | _ => return

def isRunning (o : Office) : IO Bool := return (← o.state.get).lifecycle.isRunning

end Office

def draws (count : Nat) : IO (List Nonce) := do
  let bytes := (← IO.getRandomBytes (16 * count).toUSize).toList
  return (List.range count).map fun i => Nonce.ofNat (natOfBytes ((bytes.drop (16 * i)).take 16))

/-- Draws that a search makes before it looks up. -/
def pace : Nat := 500

/-- What reaches a worker at its next turn. `looked` is when it looked at the round. -/
def signalAt (told : IO Bool) (pause looked : Nat) : Phase → IO Signal
  | .resting => do
    rest told pause
    return .time
  | .searching _ _ => do
    if looked + pause ≤ (← IO.monoMsNow) then return .time else return .draws (← draws pace)
  | _ => return .go

/-- A turn of a worker. A search goes on beside the other workers; what they share is changed by one
of them at a time. -/
def turn (crew : Std.Mutex Crew) (dismissed : Bool) (signal : Signal) (phase : Phase) :
    IO Phase := do
  match phase with
  | .searching _ _ =>
    let c : Crew ← crew.atomically get
    return (Worker.turn signal phase { c with dismissed }).1
  | _ =>
    crew.atomically do
      let (phase, c) := Worker.turn signal phase { (← get) with dismissed }
      set c
      return phase

/-- Let a worker go on until it is gone. -/
partial def work (s : Surroundings) (told : IO Bool) (pause : Nat) (crew : Std.Mutex Crew)
    (looked : Nat) (phase : Phase) : IO Unit := do
  match phase, phase.pending? with
  | .gone, _ => return
  | _, some question => work s told pause crew looked (question.next (← s.answer question.op))
  | _, none =>
    let signal ← signalAt told pause looked phase
    let looked ←
      match signal with
      | .draws _ => pure looked
      | _ => IO.monoMsNow
    work s told pause crew looked (← turn crew (← told) signal phase)

/-- Start a crew, whose workers go on until told to stop. -/
def startCrew (s : Surroundings) (told : IO Bool) (m : Manager) :
    IO (Except Failure (List (Task (Except IO.Error Unit)))) := do
  match m.forbids with
  | some failure => return .error failure
  | none =>
    match ← s.perform Manager.entry with
    | .error failure => return .error failure
    | .ok () =>
      let group := m.newGroup
      let crew ← Std.Mutex.new group.crew
      let pause := max 1 m.settings.idlePoll
      return .ok (← group.phases.mapM fun phase =>
        IO.asTask (work s told pause crew 0 phase) .dedicated)

end Host
end PriceOracle
