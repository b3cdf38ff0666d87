import PriceOracle.Config.Basic
import PriceOracle.Json.Record

/-!
# PriceOracle.Config.Reading

A configuration from a JSON file. Every setting has a default, but a feed has to be complete. A
file that is missing is no fault where nobody asked for it.
-/

namespace PriceOracle

open Json

def Source.ofJson? (j : Json) : Option Source :=
  match record? ["url", "json_path"] j with
  | some ⟨[url, path], _⟩ => do
    let url ← required string? url
    let path ← required (list? string?) path
    some ⟨url, path⟩
  | _ => none

def Feed.ofJson? (j : Json) : Option Feed :=
  match record? ["request_id", "symbol", "granularity", "sources"] j with
  | some ⟨[requestId, symbol, granularity, sources], _⟩ => do
    let requestId ← required (natural? 64) requestId
    let symbol ← required string? symbol
    let granularity ← required double? granularity
    let sources ← required (list? Source.ofJson?) sources
    some ⟨requestId, symbol, granularity, sources⟩
  | _ => none

def Service.Settings.ofJson? (j : Json) : Option Service.Settings :=
  let base : Service.Settings := {}
  match record? ["tracker_cycle_secs", "ready_after_cycles", "fetch_timeout_secs",
      "history_retention_secs", "feeds"] j with
  | some ⟨[trackerCycle, readyAfter, fetchTimeout, retention, feeds], _⟩ => do
    let trackerCycle ← defaulted base.trackerCycle (natural? 64) trackerCycle
    let readyAfter ← defaulted base.readyAfter (natural? 32) readyAfter
    let fetchTimeout ← defaulted base.fetchTimeout (natural? 64) fetchTimeout
    let retention ← defaulted base.retention (natural? 64) retention
    let feeds ← defaulted base.feeds (list? Feed.ofJson?) feeds
    some ⟨trackerCycle, readyAfter, fetchTimeout, retention, feeds⟩
  | _ => none

def Mining.Settings.ofJson? (j : Json) : Option Mining.Settings :=
  let base : Mining.Settings := {}
  match record? ["workers", "max_iterations", "gas_limit", "idle_poll_millis"] j with
  | some ⟨[workers, cap, gasLimit, idlePoll], _⟩ => do
    let workers ← defaulted base.workers (natural? 64) workers
    let cap ← defaulted base.cap (natural? 64) cap
    let gasLimit ← defaulted base.gasLimit (natural? 64) gasLimit
    let idlePoll ← defaulted base.idlePoll (natural? 64) idlePoll
    some ⟨workers, cap, gasLimit, idlePoll⟩
  | _ => none

def Dispute.Settings.ofJson? (j : Json) : Option Dispute.Settings :=
  let base : Dispute.Settings := {}
  match record? ["time_delta_secs", "threshold", "lookback_blocks"] j with
  | some ⟨[timeDelta, threshold, lookback], _⟩ => do
    let timeDelta ← defaulted base.timeDelta (natural? 64) timeDelta
    let threshold ← defaulted base.threshold double? threshold
    let lookback ← defaulted base.lookback (natural? 64) lookback
    some ⟨timeDelta, threshold, lookback⟩
  | _ => none

namespace Config

def ofJson? (j : Json) : Option Config :=
  let base : Config := {}
  match record? ["contract_address", "node_url", "private_key", "db_file", "server_addr",
      "log_level", "data_service", "mining", "dispute"] j with
  | some ⟨[contract, nodeUrl, privateKey, storeFile, serverAddress, logLevel, service, mining,
      dispute], _⟩ => do
    let contract ← defaulted base.contract string? contract
    let nodeUrl ← defaulted base.nodeUrl string? nodeUrl
    let privateKey ← defaulted base.privateKey string? privateKey
    let storeFile ← defaulted base.storeFile string? storeFile
    let serverAddress ← defaulted base.serverAddress string? serverAddress
    let logLevel ← defaulted base.logLevel string? logLevel
    let service ← defaulted base.service Service.Settings.ofJson? service
    let mining ← defaulted base.mining Mining.Settings.ofJson? mining
    let dispute ← defaulted base.dispute Dispute.Settings.ofJson? dispute
    some ⟨contract, nodeUrl, privateKey, storeFile, serverAddress, logLevel, service, mining,
      dispute⟩
  | _ => none

def ofText? (s : String) : Option Config := (Json.parse s).bind ofJson?

/-- What stands at the path of a configuration. -/
inductive Document where
  | missing
  | folder
  | file (content : Bytes)

inductive Origin where
  | file
  /-- There was no file, and nobody asked for one. -/
  | defaults
  deriving Repr, DecidableEq

inductive LoadError where
  | missing (path : String)
  | unreadable (path : String)
  | unparsable (path : String)
  | invalid (fault : Fault)

def LoadError.message : LoadError → String
  | .missing path => s!"config file {path} does not exist"
  | .unreadable path => "read config file " ++ path
  | .unparsable path => "parse config file " ++ path
  | .invalid fault => fault.message

/-- The path of the configuration when no other is given. -/
def defaultPath : String := "config.json"

/-- Is that the path when no other is given? Slashes and points behind it make no difference. -/
def isDefaultPath (path : String) : Bool :=
  match path.splitOn "/" with
  | name :: rest => name = defaultPath && rest.all fun part => part = "" || part = "."
  | [] => false

/-- The configuration that stands at a path. -/
def read (path : String) : Document → Except LoadError (Config × Origin)
  | .missing => if isDefaultPath path then .ok ({}, .defaults) else .error (.missing path)
  | .folder => .error (.unreadable path)
  | .file content =>
    match Utf8.decode content with
    | .error _ => .error (.unreadable path)
    | .ok text =>
      match ofText? text with
      | none => .error (.unparsable path)
      | some c => .ok (c, .file)

def load (path : String) (document : Document) (e : Environment) :
    Except LoadError (Config × Origin) :=
  match read path document with
  | .error fault => .error fault
  | .ok (c, origin) =>
    let c := c.withEnvironment e
    match c.fault? with
    | some fault => .error (.invalid fault)
    | none => .ok (c, origin)

end Config
end PriceOracle
