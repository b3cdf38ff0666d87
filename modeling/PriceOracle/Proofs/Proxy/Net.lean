import Mathlib.Logic.Function.Basic
import PriceOracle.Proofs.Proxy.Remote

/-!
# PriceOracle.Proofs.Proxy.Net

Any number of clients at one server. A `Net` has the shared store, the frames on their way in both
directions, and for each client the call that it waits for; the server takes the frames of the
clients in any order, and the process of the server may itself change the store in between.

A `Desk` is what the clients should see: the same calls, made locally one at a time at the moment
when the server performs them. Every run of a net is a run of the desk with the same events and the
same store, and whoever waits can get an answer (`Net.refines_desk`).

* `Fits`: what is on the way for one client, by how far its call has come.
* `Step.matched`, `Run.matched`: one step, and a whole run.
-/

namespace PriceOracle
namespace Proxy

variable {ι : Type} [DecidableEq ι]

/-- A client, the call that it waits for, and its frames on their way to the server. -/
structure Peer where
  connection : Remote.Connection
  waiting : Option Call
  outgoing : List Frame

structure Net (ι : Type) where
  store : Local
  peers : ι → Peer

/-- What can be noticed. -/
inductive Event (ι : Type) where
  | called (i : ι) (call : Call)
  | performed (i : ι)
  | returned (i : ι) (result : Except Error Outcome)
  /-- The process of the server has changed the store itself. -/
  | changed (store : Local)

def Frame.text? : Frame → Option String
  | .text s => some s
  | _ => none

def Incoming.text? : Incoming → Option String
  | .text s => some s
  | _ => none

/-- The server performs something only when it takes a text. -/
def Frame.event? (i : ι) (frame : Frame) : Option (Event ι) :=
  frame.text?.map fun _ => .performed i

namespace Peer

def send (frame : Frame) (p : Peer) : Peer := { p with outgoing := p.outgoing ++ [frame] }

def receive (incoming : List Incoming) (p : Peer) : Peer :=
  { p with connection := { p.connection with incoming := p.connection.incoming ++ incoming } }

end Peer

namespace Net

def start (store : Local) : Net ι := ⟨store, fun _ => ⟨⟨true, [], []⟩, none, []⟩⟩

def set (i : ι) (p : Peer) (n : Net ι) : Net ι :=
  { n with peers := Function.update n.peers i p }

/-- The net after the server has taken the first frame of a client. -/
def afterTurn (i : ι) (turn : Server.Turn) (rest : List Frame) (n : Net ι) : Net ι :=
  { n.set i ({ n.peers i with outgoing := rest }.receive (Pool.afterTurn turn)) with
    store := turn.store }

/-- The net after a client has made what came in the result of its call. -/
def afterCall (i : ι) (connection : Remote.Connection) (n : Net ι) : Net ι :=
  n.set i { n.peers i with connection, waiting := none }

inductive Step : Net ι → Option (Event ι) → Net ι → Prop where
  | call {n : Net ι} {i : ι} (call : Call) (idle : (n.peers i).waiting = none) :
      Step n (some (.called i call))
        (n.set i ({ n.peers i with waiting := some call }.send (.text call.request.text)))
  | serve {n : Net ι} {i : ι} {frame : Frame} {rest : List Frame}
      (next : (n.peers i).outgoing = frame :: rest) :
      Step n (frame.event? i) (n.afterTurn i (Server.take n.store frame) rest)
  | accept {n : Net ι} {i : ι} {call : Call} {s : String} (waits : (n.peers i).waiting = some call)
      (arrived : .text s ∈ (n.peers i).connection.incoming) :
      Step n (some (.returned i (call.remotely (n.peers i).connection).1))
        (n.afterCall i (call.remotely (n.peers i).connection).2)
  | change {n : Net ι} (store : Local) : Step n (some (.changed store)) { n with store }
  /-- A frame without a request is sent, such as a ping. -/
  | chatter {n : Net ι} {i : ι} {frame : Frame} (calm : frame = .binary ∨ frame = .ping) :
      Step n none (n.set i ((n.peers i).send frame))
  | noise {n : Net ι} {i : ι} : Step n none (n.set i ((n.peers i).receive [.other]))

/-- Steps one after another, with what can be noticed of them. -/
inductive Run : Net ι → List (Event ι) → Net ι → Prop where
  | refl (n : Net ι) : Run n [] n
  | snoc {n n' n'' : Net ι} {es : List (Event ι)} {e : Option (Event ι)} :
      Run n es n' → Step n' e n'' → Run n (es ++ e.toList) n''

end Net

/-- How far the call of a client has come. -/
inductive Task where
  | idle
  | asked (call : Call)
  | answered (result : Except Store.Error Outcome)

/-- Calls that are made locally. -/
structure Desk (ι : Type) where
  store : Local
  tasks : ι → Task

namespace Desk

def start (store : Local) : Desk ι := ⟨store, fun _ => .idle⟩

def set (i : ι) (t : Task) (d : Desk ι) : Desk ι :=
  { d with tasks := Function.update d.tasks i t }

/-- A client makes one call at a time. The call is performed once, on the store of that moment, and
returns what it has brought then. -/
def step (d : Desk ι) : Event ι → Option (Desk ι)
  | .called i call =>
    match d.tasks i with
    | .idle => some (d.set i (.asked call))
    | _ => none
  | .performed i =>
    match d.tasks i with
    | .asked call =>
      some { d.set i (.answered (call.locally d.store).1) with store := (call.locally d.store).2 }
    | _ => none
  | .returned i result =>
    match d.tasks i with
    | .answered r => if result = Call.seen r then some (d.set i .idle) else none
    | _ => none
  | .changed store => some { d with store }

def run (d : Desk ι) (es : List (Event ι)) : Option (Desk ι) := es.foldlM step d

end Desk

/-- What a client waits for and which texts are on the way for it, by how far its call has come. -/
inductive Stage : Task → Option Call → List String → List String → Prop where
  | idle : Stage .idle none [] []
  | asked (call : Call) : Stage (.asked call) (some call) [call.request.text] []
  | answered {call : Call} {r : Except Store.Error Outcome} :
      call.Answers r → Stage (.answered r) (some call) [] [(Call.reply r).text]

structure Fits (p : Peer) (t : Task) : Prop where
  isOpen : p.connection.isOpen = true
  stays : .close ∉ p.outgoing
  kept : .close ∉ p.connection.incoming
  whole : .failure ∉ p.connection.incoming
  stage : Stage t p.waiting (p.outgoing.filterMap Frame.text?)
    (p.connection.incoming.filterMap Incoming.text?)

structure Matches (n : Net ι) (d : Desk ι) : Prop where
  store : d.store = n.store
  fits : ∀ i, Fits (n.peers i) (d.tasks i)

section Peer

variable {p : Peer} {t : Task}

theorem fits_start : Fits ⟨⟨true, [], []⟩, none, []⟩ .idle where
  isOpen := rfl
  stays := nofun
  kept := nofun
  whole := nofun
  stage := .idle

theorem Fits.call (h : Fits p t) (idle : p.waiting = none) (call : Call) :
    t = .idle ∧ Fits ({ p with waiting := some call }.send (.text call.request.text))
      (.asked call) := by
  obtain ⟨isOpen, stays, kept, whole, stage⟩ := h
  rw [idle] at stage
  generalize hout : p.outgoing.filterMap Frame.text? = out at stage
  generalize hin : p.connection.incoming.filterMap Incoming.text? = inc at stage
  cases stage
  refine ⟨rfl, isOpen, ?_, kept, whole, ?_⟩
  · simpa [Peer.send] using stays
  · simp only [Peer.send, List.filterMap_append, hout, hin]
    exact .asked call

theorem Fits.chatter (h : Fits p t) {frame : Frame} (calm : frame = .binary ∨ frame = .ping) :
    Fits (p.send frame) t := by
  obtain ⟨isOpen, stays, kept, whole, stage⟩ := h
  refine ⟨isOpen, ?_, kept, whole, ?_⟩
  · obtain rfl | rfl := calm <;> simpa [Peer.send] using stays
  · obtain rfl | rfl := calm <;> simpa [Peer.send, List.filterMap_cons, Frame.text?] using stage

theorem Fits.noise (h : Fits p t) : Fits (p.receive [.other]) t := by
  obtain ⟨isOpen, stays, kept, whole, stage⟩ := h
  exact ⟨isOpen, stays, by simpa [Peer.receive] using kept, by simpa [Peer.receive] using whole,
    by simpa [Peer.receive, List.filterMap_cons, Incoming.text?] using stage⟩

/-- A frame without a text is passed over. -/
theorem Fits.pass {frame : Frame} {rest : List Frame} (h : Fits p t)
    (next : p.outgoing = frame :: rest) (silent : frame.text? = none) (l : Local) :
    Server.take l frame = ⟨none, true, l⟩ ∧
      Fits ({ p with outgoing := rest }.receive (Pool.afterTurn ⟨none, true, l⟩)) t := by
  obtain ⟨isOpen, stays, kept, whole, stage⟩ := h
  rw [next] at stays stage
  have hstays : .close ∉ rest := fun hc => stays (List.mem_cons_of_mem _ hc)
  rw [List.filterMap_cons_none silent] at stage
  have htake : Server.take l frame = ⟨none, true, l⟩ := by
    cases frame with
    | text s => cases silent
    | close => exact absurd List.mem_cons_self stays
    | binary => rfl
    | ping => rfl
  refine ⟨htake, isOpen, hstays, ?_, ?_, ?_⟩
  · simpa [Peer.receive, Pool.afterTurn] using kept
  · simpa [Peer.receive, Pool.afterTurn] using whole
  · simpa [Peer.receive, Pool.afterTurn] using stage

/-- A text that the server takes is the request of the call that its client waits for. -/
theorem Fits.perform {s : String} {rest : List Frame} (h : Fits p t)
    (next : p.outgoing = .text s :: rest) (l : Local) :
    ∃ call, t = .asked call ∧
      Server.take l (.text s) = ⟨some (Call.reply (call.locally l).1), true, (call.locally l).2⟩ ∧
      Fits ({ p with outgoing := rest }.receive (Pool.afterTurn (Server.take l (.text s))))
        (.answered (call.locally l).1) := by
  obtain ⟨isOpen, stays, kept, whole, stage⟩ := h
  rw [next] at stays stage
  have hstays : .close ∉ rest := fun hc => stays (List.mem_cons_of_mem _ hc)
  generalize hin : p.connection.incoming.filterMap Incoming.text? = inc at stage
  generalize p.waiting = w at stage ⊢
  rw [List.filterMap_cons_some (show (Frame.text s).text? = some s from rfl)] at stage
  generalize hout : rest.filterMap Frame.text? = out at stage
  cases stage with
  | asked call =>
    refine ⟨call, rfl, Call.take_request l call, ?_⟩
    rw [Call.take_request]
    refine ⟨isOpen, hstays, ?_, ?_, ?_⟩
    · simpa [Peer.receive, Pool.afterTurn] using kept
    · simpa [Peer.receive, Pool.afterTurn] using whole
    · simp only [Peer.receive, Pool.afterTurn, List.filterMap_append, hin, hout]
      exact .answered ⟨l, rfl⟩

theorem await_text {incoming : List Incoming} {s : String} (kept : .close ∉ incoming)
    (whole : .failure ∉ incoming) (h : incoming.filterMap Incoming.text? = [s]) :
    ∃ rest, Remote.await incoming = (.text s, rest) ∧ .close ∉ rest ∧ .failure ∉ rest ∧
      rest.filterMap Incoming.text? = [] := by
  induction incoming with
  | nil => cases h
  | cons frame incoming ih =>
    have hkept : .close ∉ incoming := fun hc => kept (List.mem_cons_of_mem _ hc)
    have hwhole : .failure ∉ incoming := fun hc => whole (List.mem_cons_of_mem _ hc)
    cases frame with
    | text s' =>
      rw [List.filterMap_cons_some (show (Incoming.text s').text? = some s' from rfl)] at h
      obtain ⟨rfl, hrest⟩ := List.cons.inj h
      exact ⟨incoming, rfl, hkept, hwhole, hrest⟩
    | other => exact ih hkept hwhole h
    | close => exact absurd List.mem_cons_self kept
    | failure => exact absurd List.mem_cons_self whole

/-- A text that comes in is the reply to the call that its client waits for. -/
theorem Fits.accept {call : Call} {s : String} (h : Fits p t) (waits : p.waiting = some call)
    (arrived : .text s ∈ p.connection.incoming) :
    ∃ r, t = .answered r ∧ (call.remotely p.connection).1 = Call.seen r ∧
      Fits { p with connection := (call.remotely p.connection).2, waiting := none } .idle := by
  obtain ⟨isOpen, stays, kept, whole, stage⟩ := h
  generalize hout : p.outgoing.filterMap Frame.text? = out at stage
  generalize hin : p.connection.incoming.filterMap Incoming.text? = inc at stage
  have hs : s ∈ inc := hin ▸ List.mem_filterMap.2 ⟨_, arrived, rfl⟩
  rw [waits] at stage
  cases stage with
  | asked => cases hs
  | answered hr =>
    obtain ⟨rest, hawait, hkept, hwhole, hrest⟩ := await_text kept whole hin
    have hremote := Call.remotely_reply hr isOpen hawait
    refine ⟨_, rfl, congrArg Prod.fst hremote, ?_⟩
    rw [hremote]
    exact ⟨rfl, stays, hkept, hwhole, by simp only [hout, hrest]; exact .idle⟩

end Peer

section Run

variable {n n' : Net ι} {d : Desk ι} {es : List (Event ι)} {e : Option (Event ι)}

omit [DecidableEq ι] in
theorem matches_start (store : Local) : Matches (Net.start store : Net ι) (.start store) :=
  ⟨rfl, fun _ => fits_start⟩

theorem Matches.set {i : ι} {p : Peer} {t : Task} (h : Matches n d) (hp : Fits p t) :
    Matches (n.set i p) (d.set i t) where
  store := h.store
  fits := by
    intro j
    by_cases hj : j = i
    · subst hj
      simpa [Net.set, Desk.set] using hp
    · simpa [Net.set, Desk.set, hj] using h.fits j

/-- A client's frames may change while its call stays where it is. -/
theorem Matches.set_peer {i : ι} {p : Peer} (h : Matches n d) (hp : Fits p (d.tasks i)) :
    Matches (n.set i p) d := by
  have := h.set (i := i) hp
  rwa [Desk.set, Function.update_eq_self] at this

omit [DecidableEq ι] in
theorem Matches.with_store (h : Matches n d) (store : Local) :
    Matches { n with store } { d with store } := ⟨rfl, h.fits⟩

theorem Net.Step.matched (hstep : Net.Step n e n') (h : Matches n d) :
    ∃ d', d.run e.toList = some d' ∧ Matches n' d' := by
  cases hstep with
  | @call i call idle =>
    obtain ⟨ht, hp⟩ := (h.fits i).call idle call
    refine ⟨_, ?_, h.set hp⟩
    simp [Desk.run, Desk.step, ht]
  | @serve i frame rest next =>
    cases htext : frame.text? with
    | none =>
      obtain ⟨htake, hp⟩ := (h.fits i).pass next htext n.store
      refine ⟨d, by simp [Frame.event?, htext, Desk.run], ?_⟩
      rw [htake]
      exact h.set_peer hp
    | some s =>
      obtain rfl : frame = .text s := by
        cases frame <;> cases htext
        rfl
      obtain ⟨call, ht, htake, hp⟩ := (h.fits i).perform next n.store
      rw [htake] at hp ⊢
      refine ⟨_, ?_, (h.set hp).with_store (call.locally n.store).2⟩
      simp [Frame.event?, Frame.text?, Desk.run, Desk.step, ht, h.store, Desk.set]
  | @accept i call s waits arrived =>
    obtain ⟨r, ht, hr, hp⟩ := (h.fits i).accept waits arrived
    refine ⟨_, ?_, h.set hp⟩
    simp [Desk.run, Desk.step, ht, hr]
  | change store => exact ⟨_, rfl, h.with_store store⟩
  | @chatter i frame calm => exact ⟨d, rfl, h.set_peer ((h.fits i).chatter calm)⟩
  | @noise i => exact ⟨d, rfl, h.set_peer (h.fits i).noise⟩

theorem Run.matched {store : Local} (hrun : Net.Run (Net.start store) es n) :
    ∃ d, (Desk.start store).run es = some d ∧ Matches n d := by
  induction hrun with
  | refl => exact ⟨_, rfl, matches_start store⟩
  | snoc _ hstep ih =>
    obtain ⟨d, hd, hmatch⟩ := ih
    obtain ⟨d', hd', hmatch'⟩ := hstep.matched hmatch
    refine ⟨d', ?_, hmatch'⟩
    rw [Desk.run] at hd hd' ⊢
    rw [List.foldlM_append, hd]
    exact hd'

theorem Net.Run.cons {n'' : Net ι} (hstep : Step n e n') (hrun : Run n' es n'') :
    Run n (e.toList ++ es) n'' := by
  induction hrun with
  | refl => simpa using (Run.refl n).snoc hstep
  | snoc _ hlast ih =>
    rw [← List.append_assoc]
    exact ih.snoc hlast

/-- As long as no text has come in for a client that waits, its request has still to be taken. -/
theorem Fits.outgoing_ne_nil {p : Peer} {t : Task} {call : Call} (h : Fits p t)
    (waits : p.waiting = some call) (nothing : ∀ s, .text s ∉ p.connection.incoming) :
    p.outgoing ≠ [] := by
  intro hnil
  have hin : p.connection.incoming.filterMap Incoming.text? = [] := by
    rw [List.filterMap_eq_nil_iff]
    intro frame hframe
    cases frame with
    | text s => exact absurd hframe (nothing s)
    | _ => rfl
  have hstage := h.stage
  rw [waits, hnil, hin] at hstage
  cases hstage

/-- Who waits gets an answer when the server takes the frames that are on the way to it. By
induction on these frames. -/
theorem exists_return {i : ι} {call : Call} (hmatch : Matches n d)
    (waits : (n.peers i).waiting = some call) :
    ∃ es n' r, Net.Run n es n' ∧ Event.returned i r ∈ es := by
  induction hout : (n.peers i).outgoing generalizing n d with
  | nil =>
    obtain ⟨s, hs⟩ : ∃ s, .text s ∈ (n.peers i).connection.incoming := by
      by_contra hnone
      exact (hmatch.fits i).outgoing_ne_nil waits (not_exists.1 hnone) hout
    exact ⟨_, _, _, (Net.Run.refl n).snoc (.accept waits hs), List.mem_singleton.2 rfl⟩
  | cons frame rest ih =>
    have hstep := Net.Step.serve (n := n) hout
    obtain ⟨d', -, hmatch'⟩ := hstep.matched hmatch
    obtain ⟨es, n', r, hrun, hr⟩ := ih hmatch'
      (by simpa [Net.afterTurn, Net.set, Peer.receive] using waits)
      (by simp [Net.afterTurn, Net.set, Peer.receive])
    exact ⟨_, n', r, hrun.cons hstep, List.mem_append_right _ hr⟩

/-- Remote calls are local calls that are made one at a time, when the server performs them: each
returns what it would return locally then, an error as its text, and the store is the same. Whoever
waits for a call can get its result. -/
theorem Net.refines_desk {store : Local} (hrun : Run (start store) es n) :
    (∃ d, (Desk.start store).run es = some d ∧ d.store = n.store) ∧
      ∀ i call, (n.peers i).waiting = some call →
        ∃ es' n' r, Run n es' n' ∧ Event.returned i r ∈ es' := by
  obtain ⟨d, hd, hmatch⟩ := Run.matched hrun
  exact ⟨⟨d, hd, hmatch.store⟩, fun i call waits => exists_return hmatch waits⟩

/-- An open store without records. -/
def blank : Local := ⟨⟨[(["s"], .store [] true)]⟩, some ⟨["s"], true⟩⟩

/-- Two clients call at the same time; the second one finds what the first one has put. -/
theorem put_then_get_of_another :
    ∃ n : Net Bool,
      Net.Run (Net.start blank) [.called true (.get "é\""), .called false (.put "é\"" [7]),
        .performed false, .performed true] n ∧
      (∃ d, (Desk.start blank).run [.called true (.get "é\""), .called false (.put "é\"" [7]),
          .performed false, .performed true] = some d ∧ d.store = n.store) ∧
      ∀ i call, (n.peers i).waiting = some call →
        ∃ es n' r, Net.Run n es n' ∧ Event.returned i r ∈ es := by
  let start : Net Bool := Net.start blank
  have hasked := ((Net.Run.refl start).snoc (.call (i := true) (.get "é\"") rfl)).snoc
    (.call (i := false) (.put "é\"" [7]) rfl)
  have hrun := (hasked.snoc (.serve (i := false) rfl)).snoc (.serve (i := true) rfl)
  exact ⟨_, hrun, Net.refines_desk hrun⟩

end Run

end Proxy
end PriceOracle
