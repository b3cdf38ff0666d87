import PriceOracle.Host.Line
import PriceOracle.Http.Message
import PriceOracle.Rpc.Wire

/-!
# PriceOracle.Host.Web

Documents from other hosts, and the answers of a chain node. Only open connections are made: what a
URL promises over a hidden one is out of reach.
-/

namespace PriceOracle
namespace Host

/-- Take what comes in over a line until it is a response or the time, in milliseconds, is over. -/
partial def responseBy (deadline : Nat) (l : Line) (received : Bytes) : IO Http.Reading := do
  match Http.Reading.of false received with
  | .unfinished =>
    match ← l.receive (deadline - (← IO.monoMsNow)) with
    | .bytes b => responseBy deadline l (received ++ b)
    | .ended | .nothing => return Http.Reading.of true received
  | reading => return reading

/-- The response to a request within so many milliseconds. -/
def respond (ms : Nat) (r : Http.Request) : IO (Option Fetch.Response) := do
  let deadline := (← IO.monoMsNow) + ms
  try
    let line ← dial ms r.endpoint.host r.endpoint.service
    line.send r.encode
    match ← responseBy deadline line [] with
    | .complete response => return some response
    | .unfinished | .broken => return none
  catch _ => return none

def attempt (url : String) (left : Nat) : IO Fetch.Attempt := do
  let start ← IO.monoNanosNow
  let response ←
    match Http.Endpoint.ofPage? url with
    | some e => respond (left / Fetch.millisecond) (.page e)
    | none => pure none
  return ⟨(response.map Fetch.Response.outcome).getD .transport, (← IO.monoNanosNow) - start⟩

/-- Fetch a page with what is left of the budget, after a failure. -/
partial def fetchAfter (url : String) (left : Nat) (last : Fetch.Last) :
    IO (Except Fetch.Error Bytes) := do
  if left = 0 then return .error (.timeout last)
  let a ← attempt url left
  match Fetch.judge a.outcome with
  | .stop result => return result
  | .retry pause last =>
    let rest := min pause (left - a.took)
    IO.sleep (rest / Fetch.millisecond).toUInt32
    fetchAfter url (left - a.took - rest) last

/-- Fetch a page within a budget of nanoseconds. -/
def fetch (url : String) (budget : Nat) : IO (Except Fetch.Error Bytes) := do
  match Fetch.deadline? (← IO.monoNanosNow) budget with
  | some _ => fetchAfter url budget .noTimeLeft
  | none => throw (IO.userError "the clock cannot show the deadline")

/-- How long a node may take for an answer, in milliseconds. -/
def nodePatience : Nat := 60000

def askNode (url : String) (a : Rpc.Ask) : IO (Rpc.Reply a) := do
  match Http.Endpoint.ofPage? url with
  | none => return none
  | some e =>
    match ← respond nodePatience (.document e a.document) with
    | some r => return if r.isSuccess then r.content?.bind Rpc.answer? else none
    | none => return none

end Host
end PriceOracle
