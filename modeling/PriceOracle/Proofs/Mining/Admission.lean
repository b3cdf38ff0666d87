import Mathlib.Data.BitVec
import PriceOracle.Feed.Tracker
import PriceOracle.Proofs.Mining.Gate
import PriceOracle.Proofs.Proxy.Local
import PriceOracle.Proofs.Proxy.Remote
import PriceOracle.Proofs.Store.Quantity
import PriceOracle.Rpc.Session
import PriceOracle.World

/-!
# PriceOracle.Proofs.Mining.Admission

The way of a stake status from the contract to the gate. A node brings the bytes that the contract
returns, the tracker stores the status in 64 bits as text, and a miner reads the record back from
the store of its own process or through a connection. Nothing on this way makes one status look
like another that the gate tells apart (`gate_account`).

* `readStake_toBytes`: the words that the contract returns, read by the client.
* `gated_admission`, `gated_narrowed`: the gate over all words, and over all words in 64 bits.
* `run_writeStatus`: what the tracker leaves in the store.
* `eq_of_proxied`: a store and a connection to it bring the same record.
-/

namespace PriceOracle

namespace Abi

theorem slice?_append (front rest : Bytes) (place length : Nat) :
    slice? (front ++ rest) (front.length + place) length = slice? rest place length := by
  simp only [slice?, List.length_append, List.drop_append, Nat.add_assoc, Nat.add_le_add_iff_left]
  rw [List.drop_eq_nil_of_le (by omega), List.nil_append, Nat.add_sub_cancel_left]

theorem word?_toBytes (w : Word) (rest : Bytes) : word? (w.toBytes ++ rest) 0 = some w := by
  have hlength : w.toBytes.length = wordSize := w.length_toBytes
  have hfits : wordSize * 0 + wordSize ≤ (w.toBytes ++ rest).length := by
    rw [List.length_append, hlength]
    omega
  rw [word?, slice?, if_pos hfits, Nat.mul_zero, List.drop_zero, ← hlength, List.take_left,
    Option.map_some, Word.ofBytes_toBytes]

theorem word?_succ (w : Word) (rest : Bytes) (position : Nat) :
    word? (w.toBytes ++ rest) (position + 1) = word? rest position := by
  have hplace : wordSize * (position + 1) = w.toBytes.length + wordSize * position := by
    rw [Word.length_toBytes, Nat.mul_succ, Nat.add_comm]
    rfl
  rw [word?, hplace, slice?_append, word?]

end Abi

namespace Chain.Contract

theorem readStake_toBytes (status startTime : Word) (more : Bytes) :
    readStake (status.toBytes ++ (startTime.toBytes ++ more))
      = some ⟨status.capped64, startTime.capped64⟩ := by
  simp only [readStake, Abi.word?_succ, Abi.word?_toBytes]
  rfl

end Chain.Contract

namespace Rpc

theorem bytes?_hex (data : Bytes) : bytes? (hex data) = some data := by
  have hchars : ("0x" ++ Hex.encode data).toList = '0' :: 'x' :: (Hex.encode data).toList := by
    rw [String.toList_append]
    rfl
  rw [hex, bytes?, Hex.marked?, hchars, Hex.dropMark, String.ofList_toList, Hex.decode_encode]
  rfl

variable {ν : Type}

/-- The chain as a session sees it through a node. -/
def Session.chain (session : Session) (node : Program.Answerer Reply ν) :
    Program.Answerer Chain.Call.Answer ν :=
  fun call s => (session.answer call).run node s

/-- Asked for the stake of an account, the contract returns a status and more. -/
def Session.Returns (session : Session) (node : Program.Answerer Reply ν) (account : Address)
    (s : ν) (status : Word) : Prop :=
  ∃ reply startTime more,
    (node (.call session.contract
      (Abi.call Chain.Contract.getStakerInfo [.word account.toWord])) s).1 = some reply ∧
    bytes? reply = some (status.toBytes ++ (Word.toBytes startTime ++ more))

theorem Session.Returns.chain {session : Session} {node : Program.Answerer Reply ν}
    {account : Address} {s : ν} {status : Word} (h : session.Returns node account s status) :
    ∃ startTime, (session.chain node (.query (.stake account)) s).1
      = .ok ⟨status.capped64, startTime⟩ := by
  obtain ⟨reply, startTime, more, hreply, hbytes⟩ := h
  refine ⟨startTime.capped64, ?_⟩
  have hread : (bytes? reply).bind Chain.Contract.readStake
      = some ⟨status.capped64, startTime.capped64⟩ := by
    rw [hbytes, Option.bind_some, Chain.Contract.readStake_toBytes]
  simp only [Session.chain, Session.answer, Client.answer, Client.answerQuery, Client.view,
    Client.read, Client.put, Program.bind_perform, Program.run_ask, hreply, Option.bind_some, hread]
  rfl

end Rpc

namespace Proxy

/-- What a store brings for a key: in its own process, or through a connection to its server. -/
inductive Proxied (l : Local) (key : String) : Except Error (Option Bytes) → Prop where
  | here : Proxied l key (World.stored (l.get key))
  | through {c : Remote.Connection} {response : Response} {rest : List Incoming}
      (isOpen : c.isOpen = true)
      (answered : (Server.take l (.text (Remote.getRequest key).text)).answer = some response)
      (arrives : Remote.await c.incoming = (.text response.text, rest)) :
      Proxied l key (Remote.get key c).1

theorem proxied_answer {χ : Type} (answerChain : Program.Answerer Chain.Call.Answer χ)
    (w : World χ) (key : String) :
    Proxied w.store key (World.answer answerChain (.get key) w).1 := .here

theorem eq_of_proxied {l : Local} {key : String} {record : Option Bytes}
    {r : Except Error (Option Bytes)} (h : Proxied l key r) (hget : l.get key = .ok record) :
    r = .ok record := by
  cases h with
  | here => rw [hget]; rfl
  | @through c response rest isOpen answered arrives =>
    have htake := congrArg Server.Turn.answer (Call.take_request l (.get key))
    have hresponse : response = Call.reply ((Call.get key).locally l).1 :=
      Option.some.inj (answered.symm.trans htake)
    have hanswers : (Call.get key).Answers ((Call.get key).locally l).1 := ⟨l, rfl⟩
    have hremote := congrArg Prod.fst
      (Call.remotely_reply hanswers isOpen (hresponse ▸ arrives))
    simp only [Call.remotely, Call.locally, hget, Call.seen] at hremote
    cases hr : (Remote.get key c).1 with
    | error e => simp [hr, Except.map, Except.mapError] at hremote
    | ok value => simpa [hr, Except.map, Except.mapError] using hremote

end Proxy

namespace Mining

open Node Node.Action Program Proxy Feed
open Tracker (writeStatus)

/-- What a status word does to the gate. -/
structure Gated (status : Word) (result : Except Failure Unit) : Prop where
  opens : result = .ok () ↔ status = 1
  notStaked : result = .error (.gate (.status .notStaked)) ↔ status = 0
  lockedForWithdraw : result = .error (.gate (.status .lockedForWithdraw)) ↔ status = 2
  onDispute : result = .error (.gate (.status .onDispute)) ↔ status = 3
  unknown : ∀ code, result = .error (.gate (.unknown code)) ↔
    3 < status.toNat ∧ code = status.capped64

/-- What a stored record does to the gate. -/
structure Judged (record : Option Bytes) (result : Except Failure Unit) : Prop where
  opens : result = .ok () ↔
    ∃ raw, record = some raw ∧ Quantity.decode Key.disputeStatus raw = .ok 1
  missing : result = .error (.gate .missing) ↔ record = none
  malformed : (∃ fault, result = .error (.store (.malformed Key.disputeStatus fault))) ↔
    ∃ raw, record = some raw ∧ ∀ w, Quantity.decode Key.disputeStatus raw ≠ .ok w
  decoded : ∀ raw w, record = some raw → Quantity.decode Key.disputeStatus raw = .ok w →
    Gated w result

/-- Whether a status word lets its account in. -/
def admission (status : Word) : Except Failure Unit :=
  match closedBy status with
  | some gate => .error (.gate gate)
  | none => .ok ()

/-- What comes of the record that the gate asks for. -/
def gateVerdict (r : Except Proxy.Error (Option Bytes)) : Except Failure Unit :=
  match wordVerdict Key.disputeStatus r with
  | .ok (some status) => admission status
  | .ok none => .error (.gate .missing)
  | .error e => .error e

theorem outcome_checkGate :
    checkGate.outcome = .ask (.get Key.disputeStatus) fun r => .done (gateVerdict r) := by
  rw [checkGate, outcome_bind, outcome_getWord]
  refine congrArg (Program.ask _) (funext fun r => ?_)
  simp only [gateVerdict]
  match wordVerdict Key.disputeStatus r with
  | .error _ | .ok none => rfl
  | .ok (some status) =>
    show (match closedBy status with
      | some gate => throw (.gate gate)
      | none => pure () : Action Unit).outcome = .done (admission status)
    rw [admission]
    cases closedBy status <;> rfl

section Words

variable {status : Word} {result : Except Failure Unit}

/-- The codes that the gate tells apart are small, so that 64 bits are enough to tell them. -/
theorem eq_code_iff (n : Nat) (hn : n < 4) : status = BitVec.ofNat 256 n ↔ status.capped64 = n := by
  rw [← BitVec.toNat_inj, BitVec.toNat_ofNat, Nat.mod_eq_of_lt (by omega), Word.capped64,
    Nat.pow_eq]
  omega

theorem isUnknown_iff : 3 < status.toNat ↔ 3 < status.capped64 := by
  rw [Word.capped64, Nat.pow_eq]
  omega

theorem capped64_word (status : Word) :
    (Tracker.word status.capped64).capped64 = status.capped64 := by
  rw [Word.capped64, Tracker.word, BitVec.toNat_ofNat, Word.capped64, Nat.pow_eq]
  omega

theorem admission_eq (status : Word) :
    admission status =
      match status.capped64 with
      | 0 => .error (.gate (.status .notStaked))
      | 1 => .ok ()
      | 2 => .error (.gate (.status .lockedForWithdraw))
      | 3 => .error (.gate (.status .onDispute))
      | code => .error (.gate (.unknown code)) := by
  rw [admission, closedBy, narrow?, Word.capped64, Nat.pow_eq]
  by_cases hfits : status.toNat < 2 ^ 64
  · rw [if_pos hfits, Nat.min_eq_left (by omega)]
    match status.toNat with
    | 0 | 1 | 2 | 3 | _ + 4 => rfl
  · rw [if_neg hfits, Nat.min_eq_right (by omega)]
    rfl

theorem gated_admission (status : Word) : Gated status (admission status) := by
  have hone : status = 1 ↔ status.capped64 = 1 := eq_code_iff 1 (by omega)
  have hzero : status = 0 ↔ status.capped64 = 0 := eq_code_iff 0 (by omega)
  have htwo : status = 2 ↔ status.capped64 = 2 := eq_code_iff 2 (by omega)
  have hthree : status = 3 ↔ status.capped64 = 3 := eq_code_iff 3 (by omega)
  refine ⟨?_, ?_, ?_, ?_, fun code => ?_⟩
  all_goals
    simp only [admission_eq, hone, hzero, htwo, hthree, isUnknown_iff]
    match status.capped64 with
    | 0 | 1 | 2 | 3 => simp
    | n + 4 => simp [eq_comm]

/-- What is known of a status in 64 bits is known of the status. -/
theorem gated_narrowed (h : Gated (Tracker.word status.capped64) result) : Gated status result := by
  have hcode (n : Nat) (hn : n < 4) :
      Tracker.word status.capped64 = BitVec.ofNat 256 n ↔ status = BitVec.ofNat 256 n := by
    rw [eq_code_iff n hn, capped64_word, ← eq_code_iff n hn]
  refine ⟨h.opens.trans (hcode 1 (by omega)), h.notStaked.trans (hcode 0 (by omega)),
    h.lockedForWithdraw.trans (hcode 2 (by omega)), h.onDispute.trans (hcode 3 (by omega)),
    fun code => ?_⟩
  rw [h.unknown, isUnknown_iff, capped64_word, ← isUnknown_iff]

/-- The gate lets in, or says what is known of the status. -/
theorem admission_cases (status : Word) :
    admission status = .ok () ∨ (∃ s, admission status = .error (.gate (.status s))) ∨
      ∃ code, admission status = .error (.gate (.unknown code)) := by
  rw [admission_eq]
  split <;> simp

end Words

theorem judged_gateVerdict (record : Option Bytes) : Judged record (gateVerdict (.ok record)) := by
  cases record with
  | none =>
    have hverdict : gateVerdict (.ok none) = .error (.gate .missing) := rfl
    rw [hverdict]
    exact ⟨by simp, by simp, by simp, by simp⟩
  | some raw =>
    cases hdecode : Quantity.decode Key.disputeStatus raw with
    | ok w =>
      have hverdict : gateVerdict (.ok (some raw)) = admission w := by
        simp only [gateVerdict, wordVerdict, hdecode]
      have hgated := gated_admission w
      rw [hverdict]
      refine ⟨?_, ?_, ?_, ?_⟩
      · simp [hdecode, hgated.opens]
      · obtain h | ⟨s, h⟩ | ⟨code, h⟩ := admission_cases w <;> simp [h]
      · obtain h | ⟨s, h⟩ | ⟨code, h⟩ := admission_cases w <;> simp [h, hdecode]
      · intro _ v hraw hv
        cases hraw
        rw [hdecode] at hv
        cases hv
        exact hgated
    | error e =>
      have hverdict : gateVerdict (.ok (some raw)) = .error (.store e) := by
        simp only [gateVerdict, wordVerdict, hdecode]
      obtain ⟨fault, rfl⟩ := (Quantity.decode_account Key.disputeStatus raw).2.2 e hdecode
      rw [hverdict]
      refine ⟨by simp [hdecode], by simp, by simp [hdecode], ?_⟩
      intro _ v hraw hv
      cases hraw
      rw [hdecode] at hv
      cases hv

theorem judged_checkGate {l : Local} {record : Option Bytes} {σ : Type} {answer : Answerer Reply σ}
    {s : σ} (hget : l.get Key.disputeStatus = .ok record)
    (hproxied : Proxied l Key.disputeStatus (answer (.get Key.disputeStatus) s).1) :
    Judged record (checkGate.outcome.run answer s).1 := by
  rw [outcome_checkGate, Program.run_ask, Program.run_done, eq_of_proxied hproxied hget]
  exact judged_gateVerdict record

theorem run_writeStatus {ν : Type} {session : Rpc.Session} {node : Answerer Rpc.Reply ν}
    {account : Address} {w : World ν} {status : Word} {before : Option Bytes}
    (hget : w.store.get Key.disputeStatus = .ok before)
    (hreturns : session.Returns node account w.chain status) :
    ((writeStatus account).outcome.run (World.answer (session.chain node)) w).1 = .ok () ∧
      ((writeStatus account).outcome.run (World.answer (session.chain node)) w).2.store.get
          Key.disputeStatus
        = .ok (some (Quantity.encode (Tracker.word status.capped64))) := by
  obtain ⟨startTime, hchain⟩ := hreturns.chain
  have hput := Proxy.Local.put_of_get hget Key.disputeStatus
    (Quantity.encode (Tracker.word status.capped64))
  rw [writeStatus, run_andThen, outcome_query, Program.run_ask, Program.run_done]
  simp only [World.answer, hchain, mapError_ok]
  rw [putWord, outcome_put, Program.run_ask, Program.run_done]
  simp only [World.answer, hput.1, hput.2.1, World.stored, mapError_ok, and_self]

/-- The gate opens for an account just when the contract returns 1 for its status, whatever word of
256 bits it returns, and wherever the gate is. It never takes one status for another. Of any record
it makes what is to be made of it. -/
theorem gate_account {ν : Type} (session : Rpc.Session) (node : Answerer Rpc.Reply ν)
    (account : Address) :
    (∀ (w : World ν) (before : Option Bytes) (status : Word),
      w.store.get Key.disputeStatus = .ok before →
      session.Returns node account w.chain status →
        ((writeStatus account).outcome.run (World.answer (session.chain node)) w).1 = .ok () ∧
        ∀ {σ : Type} (answer : Answerer Reply σ) (s : σ),
          Proxied ((writeStatus account).outcome.run (World.answer (session.chain node)) w).2.store
            Key.disputeStatus (answer (.get Key.disputeStatus) s).1 →
          Gated status (checkGate.outcome.run answer s).1) ∧
    ∀ (l : Local) (record : Option Bytes), l.get Key.disputeStatus = .ok record →
      ∀ {σ : Type} (answer : Answerer Reply σ) (s : σ),
        Proxied l Key.disputeStatus (answer (.get Key.disputeStatus) s).1 →
        Judged record (checkGate.outcome.run answer s).1 := by
  refine ⟨?_, fun l record hget σ answer s hproxied => judged_checkGate hget hproxied⟩
  intro w before status hget hreturns
  obtain ⟨hok, hstored⟩ := run_writeStatus hget hreturns
  refine ⟨hok, ?_⟩
  intro σ answer s hproxied
  have hdecode := Quantity.decode_encode Key.disputeStatus (Tracker.word status.capped64)
  exact gated_narrowed ((judged_checkGate hstored hproxied).decoded _ _ rfl hdecode)

namespace Wide

def session : Rpc.Session := ⟨⟨⟨1, by decide, by decide⟩, 7⟩, 8⟩

/-- A status whose low 64 bits are those of a staked account. -/
def status : Word := 2 ^ 64 + 1

/-- A node whose contract returns it for all accounts. -/
def node : Answerer Rpc.Reply Unit :=
  fun _ s => (some (Rpc.hex (status.toBytes ++ (Word.toBytes 0 ++ []))), s)

/-- A world with nothing but an empty store that is open. -/
def bare : World Unit := ⟨(), ⟨⟨[(["s"], .store [] true)]⟩, some ⟨["s"], true⟩⟩, [], 0, 0, 0⟩

/-- The answer of the server of that store arrives after another frame. -/
def wire : Remote.Connection := ⟨true, [], [.other, .text (Response.value none).text]⟩

/-- Ask for records through the connection. -/
def byWire : Answerer Reply (World Unit)
  | .get key, w => ((Remote.get key wire).1, w)
  | op, w => World.answer (session.chain node) op w

theorem gate_account_wide :
    (bare.store.get Key.disputeStatus = .ok none ∧ session.Returns node 7 bare.chain status ∧
      ((writeStatus 7).outcome.run (World.answer (session.chain node)) bare).1 = .ok () ∧
      (checkGate.outcome.run (World.answer (session.chain node))
        ((writeStatus 7).outcome.run (World.answer (session.chain node)) bare).2).1
          = .error (.gate (.unknown (2 ^ 64 - 1)))) ∧
    Proxied bare.store Key.disputeStatus (byWire (.get Key.disputeStatus) bare).1 ∧
      (checkGate.outcome.run byWire bare).1 = .error (.gate .missing) := by
  have hget : bare.store.get Key.disputeStatus = .ok none := rfl
  have hreturns : session.Returns node 7 bare.chain status := ⟨_, _, _, rfl, Rpc.bytes?_hex _⟩
  have hthrough : Proxied bare.store Key.disputeStatus (byWire (.get Key.disputeStatus) bare).1 :=
    Proxied.through (c := wire) rfl
      (congrArg Server.Turn.answer (Call.take_request bare.store (.get Key.disputeStatus))) rfl
  obtain ⟨hopen, hjudged⟩ := gate_account session node 7
  obtain ⟨hok, hgated⟩ := hopen bare none status hget hreturns
  refine ⟨⟨hget, hreturns, hok, ?_⟩, hthrough, ?_⟩
  · exact ((hgated _ _ (proxied_answer _ _ _)).unknown _).2 ⟨by decide +kernel, by decide +kernel⟩
  · exact (hjudged _ _ hget _ _ hthrough).missing.2 rfl

end Wide

end Mining
end PriceOracle
