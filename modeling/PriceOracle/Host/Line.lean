import PriceOracle.Text.Utf8
import Std.Async.DNS
import Std.Async.Select
import Std.Async.TCP
import Std.Async.Timer

/-!
# PriceOracle.Host.Line

Lines to other hosts, over which bytes go to and fro. Nobody waits on a line longer than the number
of milliseconds that is set for it.
-/

namespace PriceOracle
namespace Host

open Std.Async
open Std.Net

structure Line where
  socket : TCP.Socket.Client

inductive Arrival where
  | bytes (b : Bytes)
  /-- The other side has said all it has to say. -/
  | ended
  /-- Nothing came in time. -/
  | nothing

/-- Wait for an answer, for so many milliseconds at most. -/
def inTime {α : Type} (ms : Nat) (answer : Async α) : IO (Option α) :=
  (Async.race (some <$> answer) do sleep (.ofNat ms); return none).block

/-- The place of a service at an address. -/
def place (service : Nat) : IPAddr → SocketAddress
  | .v4 addr => .v4 ⟨addr, service.toUInt16⟩
  | .v6 addr => .v6 ⟨addr, service.toUInt16⟩

def addresses (host : String) : IO (List IPAddr) := do
  match IPv4Addr.ofString host, IPv6Addr.ofString host with
  | some addr, _ => return [.v4 addr]
  | none, some addr => return [.v6 addr]
  | none, none => return (← (DNS.getAddrInfo host "").block).toList

/-- Connect to the first of some places where somebody answers. -/
def dialFirst (ms : Nat) : List SocketAddress → IO Line
  | [] => throw (.userError "nobody answers")
  | p :: rest => do
    let socket ← TCP.Socket.Client.mk
    try
      match ← inTime ms (socket.connect p) with
      | some () => return ⟨socket⟩
      | none => dialFirst ms rest
    catch _ => dialFirst ms rest

def dial (ms : Nat) (host : String) (service : Nat) : IO Line := do
  dialFirst ms ((← addresses host).map (place service))

namespace Line

/-- How many bytes are taken at once. -/
def portion : UInt64 := 65536

def arrival : Option ByteArray → Arrival
  | some data => .bytes data.toList
  | none => .ended

def send (bytes : Bytes) (l : Line) : IO Unit := (l.socket.send ⟨bytes.toArray⟩).block

def receive (ms : Nat) (l : Line) : IO Arrival := do
  let wait : Async Arrival := do
    let alarm ← Selector.sleep (.ofNat ms)
    Selectable.one #[.case (l.socket.recvSelector portion) fun data => return arrival data,
      .case alarm fun _ => return .nothing]
  wait.block

/-- Say that nothing more will be sent. -/
def hangUp (l : Line) : IO Unit := do
  try l.socket.shutdown.block catch _ => return ()

end Line

/-- A place where lines from others arrive. -/
structure Switchboard where
  server : TCP.Socket.Server

namespace Switchboard

/-- How many may wait to be let in. -/
def queue : UInt32 := 128

def listen (host : String) (service : Nat) : IO Switchboard := do
  match ← addresses host with
  | [] => throw (.userError "no such host")
  | addr :: _ =>
    let server ← TCP.Socket.Server.mk
    server.bind (place service addr)
    server.listen queue
    return ⟨server⟩

/-- Wait for somebody who connects. -/
def accept (ms : Nat) (s : Switchboard) : IO (Option Line) := do
  let wait : Async (Option Line) := do
    let alarm ← Selector.sleep (.ofNat ms)
    Selectable.one #[.case s.server.acceptSelector fun socket => return some ⟨socket⟩,
      .case alarm fun _ => return none]
  wait.block

end Switchboard
end Host
end PriceOracle
