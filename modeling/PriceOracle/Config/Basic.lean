import PriceOracle.Dispute.Basic
import PriceOracle.Feed.Basic
import PriceOracle.Mining.Worker
import PriceOracle.Table

/-!
# PriceOracle.Config.Basic

The settings of a node, what they are when nothing is said, and which of them are no good.
-/

namespace PriceOracle

namespace Service

structure Settings where
  /-- Seconds from the end of a cycle to the next one. -/
  trackerCycle : Nat := 60
  readyAfter : Nat := 1
  /-- Seconds that a fetch may take. -/
  fetchTimeout : Nat := 10
  /-- Seconds for which samples are kept. -/
  retention : Nat := 86400
  feeds : List Feed := []

end Service

structure Config where
  /-- Address of the reporting contract. -/
  contract : String := ""
  nodeUrl : String := "http://localhost:8545"
  /-- Private key of the mining account, in hexadecimal digits. -/
  privateKey : String := ""
  storeFile : String := "db/miner.redb"
  /-- Where a data service listens, and where its clients connect. -/
  serverAddress : String := "127.0.0.1:5000"
  logLevel : String := "info"
  service : Service.Settings := {}
  mining : Mining.Settings := {}
  dispute : Dispute.Settings := {}

namespace Config

/-- What is no good about a configuration. -/
inductive Fault where
  | noWorkers
  | threshold (x : Float)
  | granularity (symbol : String)
  | noSources (symbol : String)

def Fault.message : Fault → String
  | .noWorkers => "mining.workers must be at least 1"
  | .threshold x => "dispute.threshold must be in [0, 1), got " ++ Decimal.display x
  | .granularity symbol => s!"feed {symbol} has a non-positive granularity"
  | .noSources symbol => s!"feed {symbol} has no sources"

def feedFault (f : Feed) : Option Fault :=
  if f.granularity ≤ 0.0 then some (.granularity f.symbol)
  else if f.sources.isEmpty then some (.noSources f.symbol)
  else none

/-- The first fault of a configuration. -/
def fault? (c : Config) : Option Fault :=
  if c.mining.workers = 0 then some .noWorkers
  else if !(0.0 ≤ c.dispute.threshold && c.dispute.threshold < 1.0) then
    some (.threshold c.dispute.threshold)
  else c.service.feeds.findSome? feedFault

abbrev Environment := Table String String

/-- The value of a variable, if it is set and not empty. -/
def Environment.value? (e : Environment) (name : String) : Option String :=
  (e.get? name).filter (· ≠ "")

/-- Variables take precedence, so that the private key need not stand in a file. -/
def withEnvironment (e : Environment) (c : Config) : Config :=
  { c with
    nodeUrl := (e.value? "NODE_URL").getD c.nodeUrl
    privateKey := (e.value? "ETH_PRIVATE_KEY").getD c.privateKey }

/-- A text without any repetition of `front` at its beginning, looking `fuel` times. -/
def dropRepeated (front : List Char) : (fuel : Nat) → List Char → List Char
  | 0, s => s
  | fuel + 1, s =>
    if front.isPrefixOf s then dropRepeated front fuel (s.drop front.length) else s

/-- The text without the repetitions of `front` at its beginning. -/
def withoutFront (front s : String) : String :=
  String.ofList (dropRepeated front.toList s.length s.toList)

def hasFront (front s : String) : Bool := front.toList.isPrefixOf s.toList

def remoteUrl (c : Config) : String :=
  if hasFront "ws://" c.serverAddress || hasFront "wss://" c.serverAddress then c.serverAddress
  else "ws://" ++ c.serverAddress

def bindAddress (c : Config) : String :=
  withoutFront "ws://" (withoutFront "wss://" c.serverAddress)

end Config
end PriceOracle
