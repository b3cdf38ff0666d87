import PriceOracle.Command.Run
import PriceOracle.Rehearsal
import PriceOracle.Rpc.Script

/-!
# PriceOracle.Command.Rehearsed

A run of the program in virtual time, from its arguments to its end. Nobody else is around: a
detached data service is never found, and the store is free.
-/

namespace PriceOracle
namespace Command

structure Stage where
  /-- What stands at a path. -/
  document : String → Config.Document
  environment : Config.Environment
  world : World Rpc.Script
  draw : Nat → Mining.Nonce
  /-- When is the program told to stop? -/
  ends : World Rpc.Script → Bool

/-- What stands at a path when there is a document at one place and no other file. -/
def onlyDocument (place : String) (content : Bytes) (path : String) : Config.Document :=
  if path = place then .file content
  else if Store.Disk.empty.holds path then .folder
  else .missing

namespace Stage

abbrev Play := Rehearsal Rpc.Script

/-- The node before anything has been started. -/
def play (s : Stage) (c : Config) (session : Rpc.Session) : Play where
  world := { s.world with patience := c.service.fetchTimeout * Fetch.second }
  answerChain := Rpc.Script.answerChain session
  service :=
    .new (Tracker.standard session.account c.service.feeds c.service.retention) c.storeFile
      c.service.readyAfter
  cycle := c.service.trackerCycle * 1000
  nextCycle := 0
  manager := .new session.account c.mining
  alarms := []
  draw := s.draw
  drawn := 0

def isStopped (p : Play) : Bool := !p.service.lifecycle.isRunning && !p.manager.lifecycle.isRunning

/-- Tell all parts to stop, and wait for them. -/
def finish (p : Play) : Play := p.dismiss.await isStopped

/-- Let everything run until the program is told to stop. -/
def untilTold (s : Stage) (p : Play) : Play := finish (p.settle.await fun p => s.ends p.world)

def failed (f : Failure) (p : Play) : Exit × World Rpc.Script :=
  (.ofTrouble (.failure f), p.world)

def serve (s : Stage) (p : Play) : Exit × World Rpc.Script :=
  match p.startService with
  | (.error f, p) => failed f p
  | (.ok (), p) => (.success "", (s.untilTold p).world)

/-- Mine once the data service has become ready. -/
def mineWhenReady (s : Stage) (p : Play) : Exit × World Rpc.Script :=
  match p.service.ready with
  | some (.ok ()) =>
    match p.startMiners with
    | (.error f, p) => failed f (finish p)
    | (.ok (), p) => (.success "", (s.untilTold p).world)
  | some (.error f) => failed f p
  | none => (.success "", (finish p).world)

def mine (s : Stage) (p : Play) : Exit × World Rpc.Script :=
  match p.startService with
  | (.error f, p) => failed f p
  | (.ok (), p) =>
    s.mineWhenReady (p.await fun p => p.service.ready.isSome || s.ends p.world)

/-- Show the disputes with the samples in the own store. -/
def showDisputes (c : Config) (p : Play) : Exit × World Rpc.Script :=
  match p.world.store.openAt (Store.Disk.openStore c.storeFile) with
  | (.error _, _) => (.ofTrouble (.store c.storeFile), p.world)
  | (.ok (), store) =>
    let (result, p) := Rehearsal.perform { p with world := { p.world with store } } (showReports c)
    (.ofResult result, { p.world with store := p.world.store.close })

def execute (s : Stage) (c : Config) (session : Rpc.Session) (command : Command) :
    Exit × World Rpc.Script :=
  let p := s.play c session
  match oneShot session.account command with
  | some action =>
    let (result, p) := p.perform action
    (.ofResult result, p.world)
  | none =>
    match command with
    | .serve => s.serve p
    | .mine false => s.mine p
    | .showDisputes false => showDisputes c p
    | _ => (.ofTrouble (.service c.remoteUrl), p.world)

def run (s : Stage) (args : List String) : Exit × World Rpc.Script :=
  match parse Config.defaultPath args with
  | .error stop => (.ofStop stop, s.world)
  | .ok invocation =>
    match Config.load invocation.configPath (s.document invocation.configPath) s.environment with
    | .error error => (.ofTrouble (.config error), s.world)
    | .ok (c, _) =>
      let (session, chain) := (Rpc.Session.start c).run Rpc.Script.answer s.world.chain
      let s := { s with world := { s.world with chain } }
      match session with
      | .error fault => (.ofTrouble (.session fault), s.world)
      | .ok session => s.execute c session invocation.command

end Stage
end Command
end PriceOracle
