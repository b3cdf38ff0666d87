import PriceOracle.Proofs.Proxy.Net

/-!
# PriceOracle.Proofs.Proxy.Connection

All that is done with one connection, whatever comes in on it. A call takes the frames up to the
next text, or up to the end of the connection; a text that makes no sense is an error of that call
only. So the calls take one text each, in order. When there are no more texts, one call finds out
how the connection has ended, and later ones fail without sending.

* `Call.reads_finish`: what a text is to a call.
* `Call.finds_await`: which frames a call takes.
* `Stands.on`, `stands_after`: where a connection stands after one more use, and after any uses.
* `uses_account`: what every use of a connection comes to.
-/

namespace PriceOracle
namespace Proxy

open Remote (Connection)

inductive Use where
  | call (call : Call)
  | close

namespace Call

/-- Is the response of the kind that the call waits for? An error answers any call. -/
def Suits : Call → Response → Prop
  | _, .error _ | .get _, .value _ | .put _ _, .ack => True
  | .get _, .ack | .put _ _, .value _ => False

/-- What a text is to a call. -/
inductive Reads : Call → String → Except Error Outcome → Prop where
  | found {key s value : String} {bytes : Bytes} :
      Response.ofText? s = some (.value (some value)) → Hex.decode value = .ok bytes →
      Reads (.get key) s (.ok (.found (some bytes)))
  | missing {key s : String} :
      Response.ofText? s = some (.value none) → Reads (.get key) s (.ok (.found none))
  | done {key s : String} {value : Bytes} :
      Response.ofText? s = some .ack → Reads (.put key value) s (.ok .done)
  | remote {call : Call} {s message : String} :
      Response.ofText? s = some (.error message) → Reads call s (.error (.remote message))
  | unparsable {call : Call} {s : String} :
      Response.ofText? s = none → Reads call s (.error (.protocol (.unparsable s)))
  | unexpected {call : Call} {s : String} {response : Response} :
      Response.ofText? s = some response → ¬call.Suits response →
      Reads call s (.error (.protocol (.unexpected response)))
  | badHex {key s value : String} {fault : Hex.Fault} :
      Response.ofText? s = some (.value (some value)) → Hex.decode value = .error fault →
      Reads (.get key) s (.error (.protocol (.badHex key fault)))

/-- What a call makes of its exchange. -/
def finish : Call → Except Error Response → Except Error Outcome
  | .get key, r => (Remote.valueOf key r).map .found
  | .put _ _, r => (Remote.ackOf r).map fun _ => .done

theorem reads_finish (call : Call) (s : String) :
    call.Reads s (call.finish (Remote.response (.text s))) := by
  rw [Remote.response]
  cases hs : Response.ofText? s with
  | none => cases call <;> exact .unparsable hs
  | some response =>
    cases response with
    | error message => cases call <;> exact .remote hs
    | ack =>
      cases call with
      | get key => exact .unexpected hs id
      | put key value => exact .done hs
    | value found =>
      cases call with
      | put key value => exact .unexpected hs id
      | get key =>
        cases found with
        | none => exact .missing hs
        | some value =>
          simp only [finish, Remote.valueOf]
          cases hvalue : Hex.decode value with
          | ok bytes => exact .found hs hvalue
          | error fault => exact .badHex hs hvalue

/-- What a call comes to by the frames that it finds, whether the connection outlives it, and which
frames are left then. -/
inductive Finds (call : Call) :
    List Incoming → Except Error Outcome → Bool → List Incoming → Prop where
  | answered (n : Nat) {s : String} {r : Except Error Outcome} {rest : List Incoming} :
      call.Reads s r → Finds call (List.replicate n .other ++ .text s :: rest) r true rest
  | closed (n : Nat) {rest : List Incoming} :
      Finds call (List.replicate n .other ++ .close :: rest) (.error .disconnected) false rest
  | ended (n : Nat) : Finds call (List.replicate n .other) (.error .disconnected) false []
  | broken (n : Nat) {rest : List Incoming} :
      Finds call (List.replicate n .other ++ .failure :: rest) (.error .transport) false rest

theorem Finds.pass {call : Call} {frames rest : List Incoming} {r : Except Error Outcome}
    {keeps : Bool} (h : Finds call frames r keeps rest) :
    Finds call (.other :: frames) r keeps rest := by
  cases h with
  | answered n hs => exact .answered (n + 1) hs
  | closed n => exact .closed (n + 1)
  | ended n => exact .ended (n + 1)
  | broken n => exact .broken (n + 1)

theorem finds_await (call : Call) (frames : List Incoming) :
    Finds call frames (call.finish (Remote.response (Remote.await frames).1))
      (Remote.await frames).1.keeps (Remote.await frames).2 := by
  induction frames with
  | nil => cases call <;> exact .ended 0
  | cons frame frames ih =>
    cases frame with
    | text s => exact .answered 0 (reads_finish call s)
    | other => exact ih.pass
    | close => cases call <;> exact .closed 0
    | failure => cases call <;> exact .broken 0

/-- What a call does with a connection. -/
structure Passes (call : Call) (c : Connection) (r : Except Error Outcome) (c' : Connection) :
    Prop where
  sent : c.isOpen = true → c'.sent = call.request :: c.sent
  finds : c.isOpen = true → Finds call c.incoming r c'.isOpen c'.incoming
  gone : c.isOpen = false → r = .error .disconnected ∧ c' = c

theorem remotely_eq (call : Call) (c : Connection) :
    call.remotely c = (call.finish (Remote.exchange call.request c).1,
      (Remote.exchange call.request c).2) := by
  cases call <;> rfl

theorem passes_remotely (call : Call) (c : Connection) :
    call.Passes c (call.remotely c).1 (call.remotely c).2 := by
  rw [remotely_eq, Remote.exchange]
  obtain ⟨isOpen, sent, incoming⟩ := c
  cases isOpen with
  | true =>
    refine ⟨fun _ => rfl, fun _ => finds_await call incoming, fun h => ?_⟩
    cases h
  | false =>
    refine ⟨fun h => ?_, fun h => ?_, fun _ => ⟨?_, rfl⟩⟩
    · cases h
    · cases h
    · cases call <;> rfl

end Call

/-! ## What comes in -/

/-- Is this the last frame of a connection? -/
def Incoming.ends : Incoming → Bool
  | .close | .failure => true
  | .text _ | .other => false

/-- The texts that come in before the connection ends. -/
def heard (script : List Incoming) : List String :=
  (script.takeWhile fun frame => !frame.ends).filterMap Incoming.text?

/-- What the call is told that finds the end. -/
def fate (script : List Incoming) : Error :=
  match script.find? Incoming.ends with
  | some .failure => .transport
  | _ => .disconnected

theorem heard_replicate (n : Nat) (frames : List Incoming) :
    heard (List.replicate n .other ++ frames) = heard frames := by
  induction n with
  | zero => rfl
  | succ n ih => exact ih

theorem fate_replicate (n : Nat) (frames : List Incoming) :
    fate (List.replicate n .other ++ frames) = fate frames := by
  induction n with
  | zero => rfl
  | succ n ih => exact ih

namespace Call.Finds

variable {call : Call} {frames rest : List Incoming} {r : Except Error Outcome}

theorem of_kept (h : Finds call frames r true rest) :
    ∃ s, heard frames = s :: heard rest ∧ fate frames = fate rest ∧ call.Reads s r := by
  cases h with
  | @answered n s _ _ hs => exact ⟨s, heard_replicate n _, fate_replicate n _, hs⟩

theorem of_lost (h : Finds call frames r false rest) :
    heard frames = [] ∧ r = .error (fate frames) := by
  cases h with
  | closed n =>
    rw [heard_replicate, fate_replicate]
    exact ⟨rfl, rfl⟩
  | broken n =>
    rw [heard_replicate, fate_replicate]
    exact ⟨rfl, rfl⟩
  | ended n =>
    rw [← List.append_nil (List.replicate n _), heard_replicate, fate_replicate]
    exact ⟨rfl, rfl⟩

end Call.Finds

/-! ## Any number of uses -/

/-- What a use of a connection comes to, and what it makes of it. -/
def Use.on (c : Connection) : Use → Except Error Outcome × Connection
  | .call made => made.remotely c
  | .close => (.ok .done, Remote.close c)

/-- A connection after some uses. -/
def after (c : Connection) (uses : List Use) : Connection :=
  uses.foldl (fun c use => (use.on c).2) c

/-- What comes of uses, one after another. -/
def results (c : Connection) : List Use → List (Except Error Outcome)
  | [] => []
  | use :: uses => (use.on c).1 :: results (use.on c).2 uses

theorem length_results (c : Connection) (uses : List Use) :
    (results c uses).length = uses.length := by
  induction uses generalizing c with
  | nil => rfl
  | cons use uses ih => exact congrArg (· + 1) (ih _)

theorem getElem?_results {c : Connection} {uses : List Use} {i : Nat} {use : Use}
    (h : uses[i]? = some use) : (results c uses)[i]? = some (use.on (after c (uses.take i))).1 := by
  induction uses generalizing c i with
  | nil => cases h
  | cons head uses ih =>
    cases i with
    | zero =>
      cases h
      rfl
    | succ i => exact ih h

theorem after_succ {c : Connection} {uses : List Use} {i : Nat} {use : Use}
    (h : uses[i]? = some use) :
    after c (uses.take (i + 1)) = (use.on (after c (uses.take i))).2 := by
  rw [List.take_add_one, h, after, List.foldl_append]
  rfl

/-- A connection on which nothing has been sent yet. -/
def fresh (script : List Incoming) : Connection := ⟨true, [], script⟩

/-- Where a connection stands after some uses: it is open as long as nobody has closed it and every
call has had a text, and the later texts are still to come. -/
structure Stands (script : List Incoming) (uses : List Use) (c : Connection) : Prop where
  isOpen : c.isOpen = true ↔ .close ∉ uses ∧ uses.length ≤ (heard script).length
  heard : c.isOpen = true → heard c.incoming = (heard script).drop uses.length
  fate : c.isOpen = true → fate c.incoming = fate script

section Stands

variable {script : List Incoming} {uses : List Use} {c c' : Connection}

theorem stands_fresh (script : List Incoming) : Stands script [] (fresh script) where
  isOpen := ⟨fun _ => ⟨nofun, Nat.zero_le _⟩, fun _ => rfl⟩
  heard := fun _ => rfl
  fate := fun _ => rfl

theorem stands_of_closed (hclosed : c.isOpen = false)
    (hover : ¬(.close ∉ uses ∧ uses.length ≤ (heard script).length)) : Stands script uses c where
  isOpen := by
    rw [hclosed]
    exact ⟨nofun, fun h => absurd h hover⟩
  heard := fun h => by cases hclosed.symm.trans h
  fate := fun h => by cases hclosed.symm.trans h

theorem isOpen_close (c : Connection) : (Remote.close c).isOpen = false := by
  rw [Remote.close]
  split
  · rfl
  · next hclosed => exact Bool.eq_false_iff.2 hclosed

/-- A call on an open connection takes the next text, or finds that there are no more. -/
theorem Stands.next {call : Call} {r : Except Error Outcome} (h : Stands script uses c)
    (hopen : c.isOpen = true) (hfinds : call.Finds c.incoming r c'.isOpen c'.incoming) :
    (c'.isOpen = true ∧ Proxy.heard c'.incoming = (Proxy.heard script).drop (uses.length + 1) ∧
        Proxy.fate c'.incoming = Proxy.fate script ∧
        ∃ s, (Proxy.heard script)[uses.length]? = some s ∧ call.Reads s r) ∨
      (c'.isOpen = false ∧ (Proxy.heard script).length = uses.length ∧
        r = .error (Proxy.fate script)) := by
  have hheard := h.heard hopen
  cases hopen' : c'.isOpen with
  | true =>
    rw [hopen'] at hfinds
    obtain ⟨s, hs, hfate, hreads⟩ := hfinds.of_kept
    rw [hs] at hheard
    refine .inl ⟨rfl, ?_, hfate.symm.trans (h.fate hopen), s, ?_, hreads⟩
    · rw [← List.drop_drop, ← hheard]
      rfl
    · rw [← Nat.add_zero uses.length, ← List.getElem?_drop, ← hheard]
      rfl
  | false =>
    rw [hopen'] at hfinds
    obtain ⟨hnone, hr⟩ := hfinds.of_lost
    rw [hnone, eq_comm, List.drop_eq_nil_iff] at hheard
    exact .inr ⟨rfl, Nat.le_antisymm hheard (h.isOpen.1 hopen).2, hr.trans (by rw [h.fate hopen])⟩

theorem Stands.call (h : Stands script uses c) (call : Call) :
    Stands script (uses ++ [.call call]) (call.remotely c).2 := by
  have hpasses := call.passes_remotely c
  have hlength : (uses ++ [Use.call call]).length = uses.length + 1 := List.length_append
  cases hopen : c.isOpen with
  | false =>
    rw [(hpasses.gone hopen).2]
    refine stands_of_closed hopen fun ⟨hclose, hle⟩ => ?_
    rw [hlength] at hle
    cases hopen.symm.trans (h.isOpen.2 ⟨fun hc => hclose (List.mem_append_left _ hc), by omega⟩)
  | true =>
    obtain ⟨hclose, -⟩ := h.isOpen.1 hopen
    obtain ⟨hopen', hheard, hfate, s, hs, -⟩ | ⟨hopen', hover, -⟩ :=
      h.next hopen (hpasses.finds hopen)
    · have hlt : uses.length < (Proxy.heard script).length := (List.getElem?_eq_some_iff.1 hs).1
      refine ⟨?_, fun _ => by rw [hlength, hheard], fun _ => hfate⟩
      rw [hopen', hlength]
      simp [hclose, Nat.succ_le_of_lt hlt]
    · refine stands_of_closed hopen' fun ⟨_, hle⟩ => ?_
      omega

theorem Stands.on (h : Stands script uses c) (use : Use) :
    Stands script (uses ++ [use]) (use.on c).2 := by
  cases use with
  | call call => exact h.call call
  | close => exact stands_of_closed (isOpen_close c) fun ⟨hclose, _⟩ => hclose (by simp)

theorem stands_after (script : List Incoming) (uses : List Use) :
    Stands script uses (after (fresh script) uses) := by
  induction uses using List.reverseRecOn with
  | nil => exact stands_fresh script
  | append_singleton uses use ih =>
    rw [after, List.foldl_append]
    exact ih.on use

/-- What a call is due to which `i` other calls have come before, and nothing else. -/
inductive Due (script : List Incoming) (i : Nat) (call : Call) : Except Error Outcome → Prop where
  | text {s : String} {r : Except Error Outcome} :
      (heard script)[i]? = some s → call.Reads s r → Due script i call r
  | ending : (heard script).length = i → Due script i call (.error (fate script))
  | later : (heard script).length < i → Due script i call (.error .disconnected)

theorem Stands.due (h : Stands script uses c) (hclose : .close ∉ uses) (call : Call) :
    Due script uses.length call (call.remotely c).1 := by
  have hpasses := call.passes_remotely c
  cases hopen : c.isOpen with
  | false =>
    rw [(hpasses.gone hopen).1]
    refine .later (Nat.lt_of_not_le fun hle => ?_)
    cases hopen.symm.trans (h.isOpen.2 ⟨hclose, hle⟩)
  | true =>
    obtain ⟨-, -, -, s, hs, hreads⟩ | ⟨-, hover, hr⟩ := h.next hopen (hpasses.finds hopen)
    · exact .text hs hreads
    · rw [hr]
      exact .ending hover

/-- Whatever comes in on a connection, and whatever is done with it: it is open as long as nobody
closes it and every call finds a text. Each call sends its request and takes the frames up to the
next text or end, unless the connection is given up already; then it fails and leaves everything as
it is. As long as nobody closes the connection, the calls are answered by the texts one by one, and
after that they fail; to close always succeeds. -/
theorem uses_account (script : List Incoming) (uses : List Use) :
    ((after (fresh script) uses).isOpen = true ↔
        .close ∉ uses ∧ uses.length ≤ (heard script).length) ∧
      (results (fresh script) uses).length = uses.length ∧
      (∀ i : Nat, uses[i]? = some .close → (results (fresh script) uses)[i]? = some (.ok .done)) ∧
      ∀ (i : Nat) (call : Call), uses[i]? = some (.call call) → ∃ r,
        (results (fresh script) uses)[i]? = some r ∧
        call.Passes (after (fresh script) (uses.take i)) r
          (after (fresh script) (uses.take (i + 1))) ∧
        (.close ∈ uses.take i → r = .error .disconnected) ∧
        (.close ∉ uses.take i → Due script i call r) := by
  refine ⟨(stands_after script uses).isOpen, length_results _ uses,
    fun i h => getElem?_results h, fun i call h => ?_⟩
  have hstands := stands_after script (uses.take i)
  have hpasses := call.passes_remotely (after (fresh script) (uses.take i))
  refine ⟨_, getElem?_results h, ?_, fun hclose => ?_, fun hclose => ?_⟩
  · rw [after_succ h]
    exact hpasses
  · refine (hpasses.gone (Bool.eq_false_iff.2 fun hopen => ?_)).1
    exact (hstands.isOpen.1 hopen).1 hclose
  · have hlength : (uses.take i).length = i := by
      rw [List.length_take_of_le]
      exact (List.getElem?_eq_some_iff.1 h).1.le
    have hdue := hstands.due hclose call
    rwa [hlength] at hdue

end Stands

end Proxy
end PriceOracle
