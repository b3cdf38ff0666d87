import PriceOracle.Command.Run
import PriceOracle.Host.Parts
import Std.Async.Signal

/-!
# PriceOracle.Main

The program: it does what its arguments say, and ends when that is over or when it is told to stop.
-/

namespace PriceOracle
namespace Host

open Command

/-- The variables of the environment that are looked at. -/
def environment : IO Config.Environment := do
  let values ← ["NODE_URL", "ETH_PRIVATE_KEY"].mapM fun name =>
    return (← IO.getEnv name).map fun value => (name, value)
  return values.filterMap id

/-- See to it that `told` holds when somebody tells the program to stop. -/
def listenForSignals (told : IO.Ref Bool) : IO Unit := do
  for signal in [Std.Async.Signal.sigint, .sigterm] do
    let waiter ← Std.Async.Signal.Waiter.mk signal false
    let _ ← IO.mapTask (fun _ => told.set true) (← waiter.wait)

/-- What a run goes by: its settings, its session, and whether it has been told to stop. -/
structure Plan where
  config : Config
  session : Rpc.Session
  told : IO.Ref Bool

namespace Plan

def surroundings (p : Plan) (access : Access) : Surroundings :=
  ⟨p.config.nodeUrl, p.session, access, p.config.service.fetchTimeout * Fetch.second⟩

/-- The data service before it has been started. -/
def office (p : Plan) : IO Office := do
  let c := p.config.service
  let vault ← Vault.atPath p.config.storeFile
  let service : Service :=
    .new (Tracker.standard p.session.account c.feeds c.retention) Vault.onShelf c.readyAfter
  return ⟨← IO.mkRef service, vault, p.surroundings (.here vault), c.trackerCycle * 1000⟩

def failed (f : Failure) : IO Exit := return .ofTrouble (.failure f)

def serve (p : Plan) : IO Exit := do
  listenForSignals p.told
  let office ← p.office
  match ← (Desk.openAt p.config.bindAddress office.vault).toBaseIO with
  | .error _ => return .ofTrouble (.listen p.config.bindAddress)
  | .ok desk =>
    match ← office.start with
    | .error f => failed f
    | .ok () =>
      let clients ← IO.asTask (desk.run p.told.get) .dedicated
      office.run p.told.get
      let _ ← IO.wait clients
      return .success ""

def mineWith (p : Plan) (s : Surroundings) : IO Exit := do
  match ← startCrew s p.told.get (.new p.session.account p.config.mining) with
  | .error f =>
    p.told.set true
    failed f
  | .ok workers =>
    for worker in workers do
      let _ ← IO.wait worker
    return .success ""

/-- Mine once the own data service has become ready. -/
def mine (p : Plan) : IO Exit := do
  listenForSignals p.told
  let office ← p.office
  match ← office.start with
  | .error f => failed f
  | .ok () =>
    let cycles ← IO.asTask (office.run p.told.get) .dedicated
    await (return (← office.state.get).ready.isSome)
    let exit ←
      match (← office.state.get).ready with
      | some (.ok ()) => p.mineWith office.surroundings
      | _ => pure (.success "")
    let _ ← IO.wait cycles
    return exit

def mineDetached (p : Plan) (s : Surroundings) : IO Exit := do
  listenForSignals p.told
  p.mineWith s

/-- Do something with the store of a detached data service. -/
def withService (p : Plan) (act : Surroundings → IO Exit) : IO Exit := do
  match ← (Link.connect p.config.remoteUrl).toBaseIO with
  | .error _ => return .ofTrouble (.service p.config.remoteUrl)
  | .ok link =>
    let exit ← act (p.surroundings (.elsewhere link))
    link.close
    return exit

def showDisputesWith (p : Plan) (s : Surroundings) : IO Exit :=
  return .ofResult (← s.perform (showReports p.config))

/-- Show the disputes with the samples in the own store. -/
def showDisputes (p : Plan) : IO Exit := do
  let vault ← Vault.atPath p.config.storeFile
  match ← vault.change (·.openAt (Store.Disk.openStore Vault.onShelf)) with
  | .error _ => return .ofTrouble (.store p.config.storeFile)
  | .ok () =>
    let exit ← p.showDisputesWith (p.surroundings (.here vault))
    vault.change fun store => ((), store.close)
    return exit

def execute (p : Plan) (command : Command) : IO Exit := do
  match oneShot p.session.account command with
  | some action =>
    let nowhere ← Vault.nowhere
    return .ofResult (← (p.surroundings (.here nowhere)).perform action)
  | none =>
    match command with
    | .serve => p.serve
    | .mine false => p.mine
    | .mine true => p.withService p.mineDetached
    | .showDisputes false => p.showDisputes
    | _ => p.withService p.showDisputesWith

end Plan

def run (args : List String) : IO Exit := do
  match parse Config.defaultPath args with
  | .error stop => return .ofStop stop
  | .ok invocation =>
    let path := invocation.configPath
    match Config.load path (← document path) (← environment) with
    | .error error => return .ofTrouble (.config error)
    | .ok (config, _) =>
      match ← Program.runM (askNode config.nodeUrl) (Rpc.Session.start config) with
      | .error fault => return .ofTrouble (.session fault)
      | .ok session => Plan.execute ⟨config, session, ← IO.mkRef false⟩ invocation.command

end Host
end PriceOracle

def main (args : List String) : IO UInt32 := do
  let exit ← PriceOracle.Host.run args
  IO.print exit.output
  IO.eprint exit.errors
  return exit.code.toUInt32
