import PriceOracle.Proofs.Proxy.Message
import PriceOracle.Proofs.Text.Hex
import PriceOracle.Proxy.Pool

/-!
# PriceOracle.Proofs.Proxy.Remote

One call of a store, made in the same process (`Call.locally`) or through a connection
(`Call.remotely`). What the server makes of the text of a call is what the call does locally
(`Call.take_request`), and what the client makes of the text of the server is what the call returns
locally, an error as its text (`Call.remotely_reply`).
-/

namespace PriceOracle
namespace Proxy

inductive Call where
  | get (key : String)
  | put (key : String) (value : Bytes)
  deriving Repr, DecidableEq

/-- What a call brings when nothing fails. -/
inductive Outcome where
  | found (value : Option Bytes)
  | done
  deriving Repr, DecidableEq

namespace Call

def locally (l : Local) : Call → Except Store.Error Outcome × Local
  | .get key => ((l.get key).map .found, l)
  | .put key value => ((l.put key value).1.map fun _ => .done, (l.put key value).2)

def request : Call → Request
  | .get key => Remote.getRequest key
  | .put key value => Remote.putRequest key value

def remotely (c : Remote.Connection) : Call → Except Error Outcome × Remote.Connection
  | .get key => ((Remote.get key c).1.map .found, (Remote.get key c).2)
  | .put key value => ((Remote.put key value c).1.map fun _ => .done, (Remote.put key value c).2)

/-- What a client is to see of what a call has brought. -/
def seen (r : Except Store.Error Outcome) : Except Error Outcome :=
  r.mapError fun e => .remote e.message

/-- What the server says of what a call has brought. -/
def reply : Except Store.Error Outcome → Response
  | .ok (.found value) => .value (value.map Hex.encode)
  | .ok .done => .ack
  | .error e => Server.failure e

theorem execute_request (l : Local) (call : Call) :
    Server.execute l call.request = (reply (call.locally l).1, (call.locally l).2) := by
  cases call with
  | get key =>
    simp only [request, Remote.getRequest, Server.execute, locally]
    cases l.get key <;> rfl
  | put key value =>
    simp only [request, Remote.putRequest, Server.execute, Hex.decode_encode, locally]
    rcases l.put key value with ⟨(_ | _), l'⟩ <;> rfl

theorem take_request (l : Local) (call : Call) :
    Server.take l (.text call.request.text)
      = ⟨some (reply (call.locally l).1), true, (call.locally l).2⟩ := by
  have hexecute := execute_request l call
  rw [Server.take, Request.ofText?_text]
  cases call with
  | get key => simp only [request, Remote.getRequest] at hexecute ⊢; rw [hexecute]
  | put key value => simp only [request, Remote.putRequest] at hexecute ⊢; rw [hexecute]

/-- The reply to a call that does what `r` says of it. -/
def Answers (call : Call) (r : Except Store.Error Outcome) : Prop :=
  ∃ l : Local, (call.locally l).1 = r

theorem remotely_reply {c : Remote.Connection} {call : Call} {r : Except Store.Error Outcome}
    {rest : List Incoming} (hr : call.Answers r) (hopen : c.isOpen = true)
    (hawait : Remote.await c.incoming = (.text (reply r).text, rest)) :
    call.remotely c = (seen r, ⟨true, call.request :: c.sent, rest⟩) := by
  obtain ⟨l, rfl⟩ := hr
  cases call with
  | get key =>
    simp only [remotely, Remote.get, Remote.exchange, hopen, hawait, if_true, Remote.response,
      Response.ofText?_text, locally]
    cases l.get key with
    | error e => rfl
    | ok value =>
      cases value with
      | none => rfl
      | some bytes => simp [Except.map, reply, Remote.valueOf, Hex.decode_encode, seen,
          Except.mapError, Remote.Reply.keeps, request]
  | put key value =>
    simp only [remotely, Remote.put, Remote.exchange, hopen, hawait, if_true, Remote.response,
      Response.ofText?_text, locally]
    cases (l.put key value).1 <;> rfl

end Call
end Proxy
end PriceOracle
