import PriceOracle.Mining.Manager
import PriceOracle.Service.Basic
import PriceOracle.World

/-!
# PriceOracle.Rehearsal

The node in virtual time. Everything that can go on does so at once and takes no time; when all
parts wait, the clock moves to the next alarm. Workers take turns: each goes on until it has to
wait for something, and a search goes on for a while in every turn.

There is one store for all, and who asks for it waits in a queue. So after an access from outside
each part gets one access before the next one from outside: that is a `round`.
-/

namespace PriceOracle

open Mining

/-- A worker's next alarm, if it waits for one. -/
abbrev Alarm := Option Nat

structure Rehearsal (χ : Type) where
  world : World χ
  answerChain : Program.Answerer Chain.Call.Answer χ
  service : Service
  /-- Milliseconds from the end of a cycle to the next one. -/
  cycle : Nat
  /-- When the next cycle is due. -/
  nextCycle : Nat
  manager : Manager
  /-- The alarms of the workers of the latest crew. -/
  alarms : List Alarm
  /-- Where the draws of all searches come from, and how many have been made. -/
  draw : Nat → Nonce
  drawn : Nat

namespace Rehearsal

variable {χ : Type}

def answer (r : Rehearsal χ) : Program.Answerer Node.Reply (World χ) := World.answer r.answerChain

/-- Run an action of the node to its end. -/
def perform {α : Type} (r : Rehearsal χ) (a : Node.Action α) : Except Failure α × Rehearsal χ :=
  let (result, world) := a.outcome.run r.answer r.world
  (result, { r with world })

/-- Draws that a search makes before it looks up. -/
def pace : Nat := 1000

/-- How many steps a worker may take without waiting for anything, and how many accesses to the
store it may have meanwhile. -/
def breath : Nat := 1000

/-- The milliseconds between two looks of a worker. -/
def pause (c : Crew) : Nat := max 1 c.settings.idlePoll

/-- What one turn of a worker needs and leaves behind. -/
structure Turn (χ : Type) where
  phase : Phase
  alarm : Alarm
  crew : Crew
  world : World χ
  drawn : Nat

def Turn.take (r : Rehearsal χ) (signal : Signal) (t : Turn χ) : Turn χ :=
  let (phase, crew, world) := Worker.step r.answer signal t.phase t.crew t.world
  { t with phase, crew, world, alarm := none }

def Turn.wait (t : Turn χ) : Turn χ := { t with alarm := some (t.world.clock + pause t.crew) }

/-- Search for a while. A search that goes on keeps the time of its next look. -/
def Turn.search (r : Rehearsal χ) (t : Turn χ) : Turn χ :=
  let next := t.take r (.draws ((List.range pace).map fun n => r.draw (t.drawn + n)))
  let next := { next with drawn := t.drawn + pace }
  match next.phase with
  | .searching _ _ => if t.alarm.isNone then next.wait else { next with alarm := t.alarm }
  | _ => next

def Turn.due (t : Turn χ) : Bool := t.alarm.any (· ≤ t.world.clock)

/-- Go on until there is something to wait for, or there are no more accesses to the store. -/
def Turn.goOn (r : Rehearsal χ) : (accesses steps : Nat) → Turn χ → Turn χ
  | _, 0, t => t
  | accesses, steps + 1, t =>
    match t.phase with
    | .gone => t
    | .resting =>
      if t.crew.dismissed then goOn r accesses steps (t.take r .go)
      else if t.alarm.isNone then t.wait
      else if t.due then goOn r accesses steps (t.take r .time)
      else t
    | .searching _ _ =>
      if t.crew.dismissed then goOn r accesses steps (t.take r .go)
      else if t.due then goOn r accesses steps (t.take r .time)
      else
        let t := t.search r
        if t.alarm.isNone then goOn r accesses steps t else t
    | phase =>
      if phase.isAccess then
        match accesses with
        | 0 => t
        | accesses + 1 => goOn r accesses steps (t.take r .go)
      else goOn r accesses steps (t.take r .go)

/-- Let the workers of a crew go on, one after another. -/
def goOnAll (r : Rehearsal χ) (accesses : Nat) (crew : Crew) (world : World χ) (drawn : Nat) :
    List (Phase × Alarm) → List (Phase × Alarm) × Crew × World χ × Nat
  | [] => ([], crew, world, drawn)
  | (phase, alarm) :: rest =>
    let t := Turn.goOn r accesses breath ⟨phase, alarm, crew, world, drawn⟩
    let (others, crew, world, drawn) := goOnAll r accesses t.crew t.world t.drawn rest
    ((t.phase, t.alarm) :: others, crew, world, drawn)

def mine (accesses : Nat) (r : Rehearsal χ) : Rehearsal χ :=
  match r.manager.groups.getLast? with
  | none => r
  | some g =>
    let alarms := r.alarms ++ List.replicate (g.phases.length - r.alarms.length) none
    let (workers, crew, world, drawn) :=
      goOnAll r accesses g.crew r.world r.drawn (g.phases.zip alarms)
    let groups := r.manager.groups.dropLast ++ [⟨crew, workers.map (·.1)⟩]
    { r with
      world, drawn, alarms := workers.map (·.2)
      manager := ({ r.manager with groups } : Manager).clear }

def cycleDue (r : Rehearsal χ) : Bool :=
  match r.service.phase with
  | .waiting _ => !r.service.dismissed && r.nextCycle ≤ r.world.clock
  | _ => false

def begin (r : Rehearsal χ) : Rehearsal χ :=
  if r.cycleDue then { r with service := r.service.beginCycle } else r

/-- Let programs go on, one after another. -/
def goOnPrograms {α : Type} (r : Rehearsal χ) (accesses : Nat) (world : World χ) :
    List (Program Node.Reply α) → List (Program Node.Reply α) × World χ
  | [] => ([], world)
  | p :: rest =>
    let (p, world) := Node.goOn r.answer accesses p world
    let (others, world) := goOnPrograms r accesses world rest
    (p :: others, world)

/-- Let the trackers of a cycle go on; the clock of the next cycle starts when all are done. -/
def collect (accesses : Nat) (r : Rehearsal χ) : Rehearsal χ :=
  match r.service.phase with
  | .collecting completed running =>
    let (running, world) := goOnPrograms r accesses r.world running
    let service := { r.service with phase := .collecting completed running }.endCycle
    { r with service, world, nextCycle := world.clock + max 1 r.cycle }
  | _ => r

/-- Let the service stop, if it has been told so. -/
def windDown (r : Rehearsal χ) : Rehearsal χ :=
  let (service, store) := r.service.windDown r.world.store
  { r with service, world := { r.world with store } }

def isCollecting (r : Rehearsal χ) : Bool :=
  match r.service.phase with
  | .collecting _ _ => true
  | _ => false

/-- Let every part have one access to the store. -/
def round (r : Rehearsal χ) : Rehearsal χ :=
  let r := r.begin
  (if r.isCollecting then r.collect 1 else r.windDown).mine 1

def settle (r : Rehearsal χ) : Rehearsal χ := ((r.begin.collect breath).windDown).mine breath

def upcoming (r : Rehearsal χ) : List Nat :=
  let cycles :=
    match r.service.phase with
    | .waiting _ => [r.nextCycle]
    | _ => []
  (cycles ++ r.alarms.filterMap id).filter (r.world.clock < ·)

def setClock (r : Rehearsal χ) (clock : Nat) : Rehearsal χ :=
  { r with world := { r.world with clock } }

/-- Let time pass until `stop` holds or the clock shows `target`, over `alarms` alarms at most. -/
def pass (stop : Rehearsal χ → Bool) (target : Nat) : (alarms : Nat) → Rehearsal χ → Rehearsal χ
  | 0, r => r
  | alarms + 1, r =>
    let r := r.settle
    if stop r then r
    else
      match r.upcoming.min? with
      | some t => if t ≤ target then pass stop target alarms (r.setClock t) else r.setClock target
      | none => r.setClock target

/-- More alarms than come in any rehearsal. -/
def patience : Nat := 10000000

def sleep (ms : Nat) (r : Rehearsal χ) : Rehearsal χ :=
  pass (fun _ => false) (r.world.clock + ms) patience r

def day : Nat := 86400000

def await (stop : Rehearsal χ → Bool) (r : Rehearsal χ) : Rehearsal χ :=
  if stop r then r else pass stop (r.world.clock + day) patience r

def startService (r : Rehearsal χ) : Except Failure Unit × Rehearsal χ :=
  let (result, service, store) := r.service.start r.world.store
  (result, { r with service, world := { r.world with store },
                    nextCycle := if result.isOk then r.world.clock else r.nextCycle })

def startMiners (r : Rehearsal χ) : Except Failure Unit × Rehearsal χ :=
  let (result, manager, world) := r.manager.start r.answer r.world
  (result, { r with manager, world, alarms := if result.isOk then [] else r.alarms })

def dismiss (r : Rehearsal χ) : Rehearsal χ :=
  { r with service := r.service.dismiss, manager := r.manager.dismiss }

end Rehearsal
end PriceOracle
