import PriceOracle.Node
import PriceOracle.Proxy.Local

/-!
# PriceOracle.World

Surroundings of the node in memory: a chain of any kind, a disk with the store, sites that answer
by a script, and a clock. `World.answer` answers whatever the node asks.
-/

namespace PriceOracle

/-- A site answers its requests one after another by a script, whose last line is repeated. -/
structure Site where
  script : List Fetch.Outcome
  /-- How many requests there were. -/
  hits : Nat

namespace Site

/-- The answer to a request by its number. -/
def reply (s : Site) (n : Nat) : Fetch.Outcome :=
  (s.script[n]?.orElse fun _ => s.script.getLast?).getD .transport

/-- Fetch a document. The site answers at once, so that only pauses take time. -/
def fetch (s : Site) (budget : Nat) : Except Fetch.Error Bytes × Site :=
  let run := Fetch.within (fun n => ⟨s.reply (s.hits + n), 0⟩) budget
  (run.result, { s with hits := s.hits + run.attempts })

end Site

structure World (χ : Type) where
  chain : χ
  store : Proxy.Local
  web : Table String Site
  /-- How long a fetch may take, in nanoseconds. The end of it is an instant that clocks can show
  (`Fetch.deadline?`). -/
  patience : Nat
  /-- Milliseconds since the world began. -/
  clock : Nat
  /-- When the world began, in seconds since the start of 1970. -/
  birth : Int

namespace World

variable {χ : Type}

def stored {α : Type} (r : Except Store.Error α) : Except Proxy.Error α := r.mapError .store

def now (w : World χ) : Int := w.birth + (w.clock / 1000 : Nat)

/-- Where nobody answers, no request gets through. -/
def siteAt (w : World χ) (url : String) : Site := (w.web.get? url).getD ⟨[], 0⟩

def answer (answerChain : Program.Answerer Chain.Call.Answer χ) :
    Program.Answerer Node.Reply (World χ)
  | .chain call, w =>
    let (r, chain) := answerChain call w.chain
    (r, { w with chain })
  | .get key, w => (stored (w.store.get key), w)
  | .put key value, w =>
    let (r, store) := w.store.put key value
    (stored r, { w with store })
  | .update key change, w =>
    let (r, store) := w.store.update key change
    (stored r, { w with store })
  | .fetch url, w =>
    let (r, site) := (w.siteAt url).fetch w.patience
    (r, { w with web := w.web.put url site })
  | .now, w => (w.now, w)

end World
end PriceOracle
