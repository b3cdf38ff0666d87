import PriceOracle.Proofs.Mining.Run
import PriceOracle.Proofs.Mining.Gate
import PriceOracle.Proofs.Mining.Submit
import PriceOracle.Proofs.Proxy.Local
import PriceOracle.Proofs.Store.Quantity
import PriceOracle.Chain.Ledger
import PriceOracle.World

/-!
# PriceOracle.Proofs.Mining.Play

Runs that come about. A crew works with a store in which others write, and a ledger for a chain;
`Plays` puts the steps of a run together.

* `plays_search`: a worker finds a nonce for a round of the lowest difficulty.
* `plays_submit`: it claims the challenge and sends the solution.
-/

namespace PriceOracle
namespace Mining

open Node Node.Action Chain
open Program (Exchange Says Reaches)

/-- A world in which records are put into the store, and anything else may happen outside of it. -/
def surroundings {χ : Type} (answerChain : Program.Answerer Call.Answer χ) :
    Surroundings (World χ) where
  answer := World.answer answerChain
  change w w' :=
    (∃ key value, w' = { w with store := (w.store.put key value).2 }) ∨ w'.store = w.store

section Talk

variable {σ α : Type} {U : Surroundings σ}

/-- What happens while a worker asks one question after another and nothing comes between. -/
def talk (answer : Program.Answerer Reply σ) (wrap : Program Reply α → Phase) (i : Nat) :
    Program Reply α → σ → List (Moment σ)
  | .done _, _ => []
  | .ask op next, s =>
    talk answer wrap i (next (answer op s).1) (answer op s).2 ++
      [⟨s, .answered i (wrap (.ask op next)) ⟨op, (answer op s).1⟩⟩]

/-- Does a worker in such a phase wait for the answers of a dialogue? -/
def Waits (wrap : Program Reply α → Phase) : Prop :=
  ∀ op next, (wrap (.ask op next)).pending? = some ⟨op, fun r => wrap (next r)⟩

theorem run_talk {wrap : Program Reply α → Phase} (hw : Waits wrap) {i : Nat}
    {p : Program Reply α} {sc : Scene σ} (hp : sc.phases[i]? = some (wrap p)) :
    Run U sc (talk U.answer wrap i p sc.world)
      ⟨sc.crew, sc.phases.set i (wrap (.done (p.run U.answer sc.world).1)),
        (p.run U.answer sc.world).2⟩ := by
  induction p generalizing sc with
  | done a =>
    rw [Program.run_done, (phases_set_self hp).2]
    exact .refl sc
  | ask op next ih =>
    have step := Step.answer (U := U) hp (hw op next)
    have hi := (phases_set_self hp).1
    have rest := @ih (U.answer op sc.world).1
      ⟨sc.crew, sc.phases.set i (wrap (next (U.answer op sc.world).1)), (U.answer op sc.world).2⟩
      (by simp [hi])
    have run := (Run.snoc (.refl sc) step).trans rest
    simpa [talk] using run

/-- What every question of a dialogue keeps holds throughout. -/
theorem talk_forall {P : σ → Prop} (wrap : Program Reply α → Phase) (i : Nat)
    {p : Program Reply α} {s : σ} (hs : P s)
    (keeps : ∀ log op next, Reaches p log (.ask op next) → ∀ s, P s → P (U.answer op s).2) :
    (∀ m ∈ talk U.answer wrap i p s, P m.world) ∧ P (p.run U.answer s).2 := by
  induction p generalizing s with
  | done a => exact ⟨fun m hm => absurd hm List.not_mem_nil, hs⟩
  | ask op next ih =>
    have hnext := keeps [] op next (.refl _) s hs
    obtain ⟨hm, hend⟩ := ih (U.answer op s).1 hnext
      fun log op' next' h => keeps _ op' next' (.ask _ h)
    refine ⟨fun m hmem => ?_, hend⟩
    rw [talk, List.mem_append, List.mem_singleton] at hmem
    obtain hmem | rfl := hmem
    · exact hm m hmem
    · exact hs

theorem calls_talk_eq_nil {wrap : Program Reply α → Phase}
    (hw : ∀ i p x, (Event.answered i (wrap p) x).called? = none) (i : Nat)
    (p : Program Reply α) (answer : Program.Answerer Reply σ) (s : σ) :
    calls (talk answer wrap i p s) = [] := by
  induction p generalizing s with
  | done a => rfl
  | ask op next ih =>
    rw [talk, calls_append, ih, List.nil_append]
    simp [calls, hw]

/-- A submission calls once for each time it sends. -/
theorem calls_talk_submitting (i : Nat) (round : Round) (nonce : Nonce)
    (p : Program Reply (Except Failure Word)) (answer : Program.Answerer Reply σ) (s : σ) :
    calls (talk answer (.submitting round nonce) i p s)
      = List.replicate ((p.transcript answer s).countP isSend) round.challenge := by
  induction p generalizing s with
  | done a => rfl
  | ask op next ih =>
    rw [talk, calls_append, ih, Program.transcript, List.countP_cons,
      ← List.replicate_append_replicate]
    congr 1
    simp only [calls, List.filterMap_cons, called_submitting, List.filterMap_nil]
    cases isSend _ <;> rfl

end Talk

/-- The easiest round with a challenge. -/
def easyRound (c : Word) : Round := ⟨c, 1, 1⟩

/-- The easiest round is stored, with all that it takes to submit a solution. -/
structure Stores (c : Word) (records : Store.Records) : Prop where
  status : records.get? Key.disputeStatus = some (Quantity.encode 1)
  challenge : records.get? Key.currentChallenge = some c.toBytes
  requestId : records.get? Key.currentRequestId = some (Quantity.encode 1)
  difficulty : records.get? Key.currentDifficulty = some (Quantity.encode 1)
  value : records.get? (Key.queryValue 1) = some (Quantity.encode 100)
  gasPrice : records.get? Key.gasPrice = some (Quantity.encode 0)

/-- The chain takes solutions, and the easiest round is stored. -/
structure Presents (c : Word) (w : World Ledger) : Prop where
  reached : w.chain.unreachable = false
  synced : w.chain.syncing = false
  accepts : w.chain.refuses = false
  stores : ∃ records, w.store.records? = some records ∧ Stores c records

theorem Stores.put_gasCost {c : Word} {records : Store.Records} (h : Stores c records)
    {slot : Nat} (hslot : slot < Key.gasCostSlots) (value : Bytes) :
    Stores c (records.put (Key.gasCost slot) value) := by
  have apart : ∀ slot : Fin Key.gasCostSlots, Key.gasCost slot ∉
      [Key.disputeStatus, Key.currentChallenge, Key.currentRequestId, Key.currentDifficulty,
        Key.queryValue 1, Key.gasPrice] := by decide
  have ne : ∀ key ∈ [Key.disputeStatus, Key.currentChallenge, Key.currentRequestId,
      Key.currentDifficulty, Key.queryValue 1, Key.gasPrice], Key.gasCost slot ≠ key :=
    fun key hk heq => apart ⟨slot, hslot⟩ (heq ▸ hk)
  constructor
  · rw [Table.get?_put_of_ne _ _ (ne _ (by simp))]; exact h.status
  · rw [Table.get?_put_of_ne _ _ (ne _ (by simp))]; exact h.challenge
  · rw [Table.get?_put_of_ne _ _ (ne _ (by simp))]; exact h.requestId
  · rw [Table.get?_put_of_ne _ _ (ne _ (by simp))]; exact h.difficulty
  · rw [Table.get?_put_of_ne _ _ (ne _ (by simp))]; exact h.value
  · rw [Table.get?_put_of_ne _ _ (ne _ (by simp))]; exact h.gasPrice

theorem Stores.put_challenge {c : Word} {records : Store.Records} (h : Stores c records)
    (d : Word) : Stores d (records.put Key.currentChallenge d.toBytes) where
  status := (Table.get?_put_of_ne _ _ (by decide)).trans h.status
  challenge := Table.get?_put_self ..
  requestId := (Table.get?_put_of_ne _ _ (by decide)).trans h.requestId
  difficulty := (Table.get?_put_of_ne _ _ (by decide)).trans h.difficulty
  value := (Table.get?_put_of_ne _ _ (by decide)).trans h.value
  gasPrice := (Table.get?_put_of_ne _ _ (by decide)).trans h.gasPrice

namespace Presents

variable {c : Word} {w : World Ledger}

theorem put_challenge (h : Presents c w) (d : Word) :
    Presents d { w with store := (w.store.put Key.currentChallenge d.toBytes).2 } := by
  obtain ⟨records, hr, stores⟩ := h.stores
  exact ⟨h.reached, h.synced, h.accepts, _,
    (Proxy.Local.put_of_records hr _ _).2, stores.put_challenge d⟩

theorem challenge (h : Presents c w) : (surroundings Ledger.answer).challenge? w = some c := by
  obtain ⟨records, hr, stores⟩ := h.stores
  simp only [Surroundings.challenge?, surroundings, World.answer,
    Proxy.Local.get_of_records hr, stores.challenge, World.stored, mapError_ok,
    Word.length_toBytes, if_true]
  exact congrArg some (Word.ofBytes_toBytes c)

/-- Reading, sending and writing a cost leave the round as it is. -/
theorem answer (h : Presents c w) {op : Ask}
    (hop : IsReading op ∨ (∃ t, op = .chain (.send t)) ∨
      ∃ slot value, slot < Key.gasCostSlots ∧ op = .put (Key.gasCost slot) value) :
    Presents c ((surroundings Ledger.answer).answer op w).2 := by
  obtain hread | ⟨t, rfl⟩ | ⟨slot, value, hslot, rfl⟩ := hop
  · match op, hread with
    | .get key, _ => exact h
    | .chain (.query q), _ =>
      cases q <;> exact ⟨h.reached, h.synced, h.accepts, h.stores⟩
  · refine ⟨?_, ?_, ?_, h.stores⟩
    all_goals simp only [surroundings, World.answer, Ledger.answer, Ledger.send, h.reached,
      h.accepts, Bool.false_and, Bool.false_eq_true, if_false]
    exact h.synced
  · obtain ⟨records, hr, stores⟩ := h.stores
    exact ⟨h.reached, h.synced, h.accepts, _,
      (Proxy.Local.put_of_records hr _ _).2, stores.put_gasCost hslot _⟩

end Presents

theorem Presents.run_getWord {c v : Word} {w : World Ledger} {key : String} (h : Presents c w)
    (hv : ∀ records, Stores c records → records.get? key = some (Quantity.encode v)) :
    (getWord key).outcome.run (surroundings Ledger.answer).answer w = (.ok (some v), w) := by
  obtain ⟨records, hr, stores⟩ := h.stores
  rw [outcome_getWord, Program.run_ask, Program.run_done]
  simp only [surroundings, World.answer, Proxy.Local.get_of_records hr, hv records stores,
    World.stored, mapError_ok, wordVerdict, Quantity.decode_encode]

theorem Presents.run_checkGate {c : Word} {w : World Ledger} (h : Presents c w) :
    checkGate.outcome.run (surroundings Ledger.answer).answer w = (.ok (), w) := by
  rw [checkGate, run_andThen, h.run_getWord fun _ s => s.status]
  rfl

theorem Presents.run_ensureSynced {c : Word} {w : World Ledger} (h : Presents c w) :
    ensureSynced.outcome.run (surroundings Ledger.answer).answer w = (.ok (), w) := by
  rw [outcome_ensureSynced, Program.run_ask, Program.run_done]
  simp only [surroundings, World.answer, Ledger.answer, Ledger.read, h.reached, Bool.false_and,
    Bool.false_eq_true, if_false, Ledger.lookUp, h.synced, syncVerdict, Ledger.noteSearch]

theorem Presents.run_look {c : Word} {w : World Ledger} (h : Presents c w) :
    look.outcome.run (surroundings Ledger.answer).answer w = (.ok (some (easyRound c)), w) := by
  obtain ⟨records, hr, stores⟩ := h.stores
  have raw : (get Key.currentChallenge).outcome.run (surroundings Ledger.answer).answer w
      = (.ok (some c.toBytes), w) := by
    rw [outcome_get, Program.run_ask, Program.run_done]
    simp only [surroundings, World.answer, Proxy.Local.get_of_records hr, stores.challenge,
      World.stored, mapError_ok]
  rw [look, run_andThen, h.run_checkGate]
  simp only [readRound, run_andThen, raw, c.length_toBytes, ne_eq, not_true_eq_false, if_false,
    h.run_getWord fun _ s => s.requestId, h.run_getWord fun _ s => s.difficulty]
  have narrow : narrow? 1 = some 1 := by decide
  rw [narrow, Word.ofBytes_toBytes]
  rfl

/-- A submission for the easiest round is taken. It costs nothing. -/
theorem Presents.run_submit {c d : Word} {w : World Ledger} (h : Presents c w)
    (account : Address) (gasLimit : Nat) (nonce : Nonce) :
    ((submit account gasLimit (easyRound d) nonce).outcome.run
      (surroundings Ledger.answer).answer w).1 = .ok 0 := by
  have price : currentGasPrice.outcome.run (surroundings Ledger.answer).answer w
      = (.ok 0, w) := by
    rw [currentGasPrice, run_andThen, h.run_getWord fun _ s => s.gasPrice]
    rfl
  have balance : (query (.etherBalance account)).outcome.run (surroundings Ledger.answer).answer w
      = (.ok w.chain.etherBalance, w) := by
    rw [outcome_query, Program.run_ask, Program.run_done]
    simp only [surroundings, World.answer, Ledger.answer, Ledger.read, h.reached, Bool.false_and,
      Bool.false_eq_true, if_false, Ledger.lookUp, Ledger.noteSearch, mapError_ok]
  have cost : costOf 0 gasLimit = 0 := by
    apply BitVec.eq_of_toNat_eq
    rw [toNat_costOf]
    simp
  have prepared : (prepare account gasLimit (easyRound d)).outcome.run
      (surroundings Ledger.answer).answer w = (.ok (100, 0), w) := by
    have enough : ¬w.chain.etherBalance < 0 := BitVec.not_lt_zero
    simp only [prepare, run_andThen, h.run_ensureSynced, h.run_getWord fun _ s => s.value, price,
      balance, easyRound, cost, enough, if_false]
    rfl
  rw [submit_eq, run_andThen, prepared]
  simp only [run_andThen, outcome_send, Program.run_ask, Program.run_done, surroundings,
    World.answer, Ledger.answer, Ledger.send, h.reached, h.accepts, Bool.false_and,
    Bool.false_eq_true, if_false, mapError_ok]
  rfl

/-- Steps of workers that nothing disturbs while the easiest round with a challenge is stored, and
the challenges that they send solutions for. What else may happen around them does not matter. -/
def Plays (c : Word) (cs : List Word) (sc sc' : Scene (World Ledger)) : Prop :=
  ∃ h, (∀ U : Surroundings (World Ledger), U.answer = World.answer Ledger.answer →
    Run U sc h sc') ∧ calls h = cs ∧ ∀ m ∈ h, Presents c m.world

theorem Plays.trans {c : Word} {cs ds : List Word} {sc₁ sc₂ sc₃ : Scene (World Ledger)}
    (h₁ : Plays c cs sc₁ sc₂) (h₂ : Plays c ds sc₂ sc₃) : Plays c (ds ++ cs) sc₁ sc₃ := by
  obtain ⟨earlier, run₁, rfl, hp₁⟩ := h₁
  obtain ⟨later, run₂, rfl, hp₂⟩ := h₂
  refine ⟨later ++ earlier, fun U hU => (run₁ U hU).trans (run₂ U hU), calls_append later earlier,
    fun m hm => ?_⟩
  obtain hm | hm := List.mem_append.1 hm
  · exact hp₂ m hm
  · exact hp₁ m hm

section Plays

variable {c : Word} {w : World Ledger} {crew crew' : Crew} {phases : List Phase} {i : Nat}

theorem plays_turn (hi : i < phases.length) (h : Presents c w) {phase next : Phase}
    (hq : phase.pending? = none) (signal : Signal)
    (ht : Worker.turn signal phase crew = (next, crew')) :
    Plays c [] ⟨crew, phases.set i phase, w⟩ ⟨crew', phases.set i next, w⟩ := by
  have step : ∀ U : Surroundings (World Ledger), Step U ⟨crew, phases.set i phase, w⟩ _ _ :=
    fun _ => Step.act signal (List.getElem?_set_self hi) hq
  simp only [ht, List.set_set] at step
  refine ⟨_, fun U _ => .snoc (.refl _) (step U), rfl, fun m hm => ?_⟩
  rw [List.mem_singleton.1 hm]
  exact h

theorem plays_talk {α : Type} (crew : Crew) {wrap : Program Reply α → Phase} (hw : Waits wrap)
    (p : Program Reply α) (hi : i < phases.length) (h : Presents c w)
    (asks : ∀ log op next, Reaches p log (.ask op next) →
      IsReading op ∨ (∃ t, op = .chain (.send t)) ∨
        ∃ slot value, slot < Key.gasCostSlots ∧ op = .put (Key.gasCost slot) value) :
    Plays c (calls (talk (surroundings Ledger.answer).answer wrap i p w))
        ⟨crew, phases.set i (wrap p), w⟩
        ⟨crew, phases.set i (wrap (.done (p.run (surroundings Ledger.answer).answer w).1)),
          (p.run (surroundings Ledger.answer).answer w).2⟩ ∧
      Presents c (p.run (surroundings Ledger.answer).answer w).2 := by
  have hp : (⟨crew, phases.set i (wrap p), w⟩ : Scene (World Ledger)).phases[i]? = some (wrap p) :=
    List.getElem?_set_self hi
  obtain ⟨hm, hend⟩ := talk_forall (U := surroundings Ledger.answer) wrap i h
    fun log op next hr s hs => hs.answer (asks log op next hr)
  refine ⟨⟨_, fun U hU => ?_, rfl, hm⟩, hend⟩
  have run := run_talk (U := U) hw hp
  rw [hU, List.set_set] at run
  exact run

theorem verify_one (challenge : Bytes) (miner : Address) (nonce : String) :
    verify challenge miner nonce 1 = true := by
  simp [verify, Nat.mod_one]

/-- A worker finds a nonce for the easiest round. -/
theorem plays_search (crew : Crew) (hp : phases[i]? = some .ready) (h : Presents c w)
    (hd : crew.dismissed = false) (hcap : crew.settings.cap ≠ 0)
    (hlast : crew.lastClaimed ≠ some c) (nonce : Nonce) :
    Plays c [] ⟨crew, phases, w⟩ ⟨crew, phases.set i (.claiming (easyRound c) nonce), w⟩ := by
  obtain ⟨hi, hset⟩ := phases_set_self hp
  have look₁ : Plays c [] ⟨crew, phases.set i .ready, w⟩
      ⟨crew, phases.set i (.looking look.outcome), w⟩ :=
    plays_turn hi h rfl .go (by simp [Worker.turn, hd])
  have look₂ : Plays c [] ⟨crew, phases.set i (.looking look.outcome), w⟩
      ⟨crew, phases.set i (.looking (.done (.ok (some (easyRound c))))), w⟩ := by
    have waits : Waits .looking := fun _ _ => rfl
    have talk := (plays_talk crew waits look.outcome hi h
      fun log op next hr => .inl (asks_look log op next hr).isReading).1
    rw [calls_talk_eq_nil (fun _ _ _ => rfl), h.run_look] at talk
    exact talk
  have weigh : Plays c [] ⟨crew, phases.set i (.looking (.done (.ok (some (easyRound c))))), w⟩
      ⟨crew, phases.set i (.weighing (easyRound c)), w⟩ := plays_turn hi h rfl .go rfl
  have search : Plays c [] ⟨crew, phases.set i (.weighing (easyRound c)), w⟩
      ⟨crew, phases.set i (.searching (easyRound c) crew.settings.cap), w⟩ :=
    plays_turn hi h rfl .go (by
      have hz : ¬((easyRound c).difficulty = 0 ∨ crew.settings.cap = 0) := by
        simp [easyRound, hcap]
      have hne : ¬crew.lastClaimed = some (easyRound c).challenge := hlast
      simp only [Worker.turn, hne, if_false, Worker.beginSearch, hz])
  have find : Plays c [] ⟨crew, phases.set i (.searching (easyRound c) crew.settings.cap), w⟩
      ⟨crew, phases.set i (.claiming (easyRound c) nonce), w⟩ :=
    plays_turn hi h rfl (.draws [nonce]) (by
      have hz : List.take crew.settings.cap [nonce] = [nonce] :=
        List.take_of_length_le (Nat.one_le_iff_ne_zero.2 hcap)
      simp only [Worker.turn, hd, Bool.false_eq_true, if_false, Worker.tryDraws, hz, easyRound,
        List.find?_cons, verify_one])
  have attempt := (((look₁.trans look₂).trans weigh).trans search).trans find
  rw [hset] at attempt
  exact attempt

theorem Cleared.countP_isSend {account : Address} {gasLimit requestId : Nat} {value cost : Word}
    {asks : List (Exchange Reply)} (h : Cleared account gasLimit requestId value cost asks) :
    asks.countP isSend = 0 := by
  cases h with
  | mk _ priced _ _ => cases priced <;> rfl

theorem countP_isSend_submit {account : Address} {gasLimit : Nat} {round : Round} {nonce : Nonce}
    {log : List (Exchange Reply)} {cost : Word}
    (h : Says (submit account gasLimit round nonce).outcome log (.ok cost)) :
    log.countP isSend = 1 := by
  obtain ⟨value, hash, asks, cleared, rfl⟩ := says_submit h
  rw [List.countP_append, cleared.countP_isSend]
  rfl

/-- A worker that has a nonce claims the challenge and sends the solution, also when another round
is stored by now. -/
theorem plays_submit (crew : Crew) {d : Word} {nonce : Nonce}
    (hp : phases[i]? = some (.claiming (easyRound d) nonce)) (h : Presents c w)
    (hlast : crew.lastClaimed ≠ some d) :
    ∃ w', Presents c w' ∧ Plays c [d] ⟨crew, phases, w⟩
      ⟨{ crew with lastClaimed := some d, submissions := crew.submissions + 1 },
        phases.set i .ready, w'⟩ := by
  obtain ⟨hi, hset⟩ := phases_set_self hp
  let claimed : Crew := { crew with lastClaimed := some d }
  let counted : Crew := { claimed with submissions := crew.submissions + 1 }
  let p := (submit crew.account crew.settings.gasLimit (easyRound d) nonce).outcome
  let q := (recordCost crew.submissions 0).outcome
  have claim : Plays c [] ⟨crew, phases.set i (.claiming (easyRound d) nonce), w⟩
      ⟨claimed, phases.set i (.submitting (easyRound d) nonce p), w⟩ :=
    plays_turn hi h rfl .go (by
      have hne : ¬crew.lastClaimed = some (easyRound d).challenge := hlast
      simp only [Worker.turn, Worker.claim, hne, if_false]
      rfl)
  have submitting : Waits (.submitting (easyRound d) nonce) := fun _ _ => rfl
  obtain ⟨send, h'⟩ := plays_talk claimed submitting p hi h fun log op next hr => by
    obtain hread | ⟨value, cost, -, rfl⟩ := submit_asks hr
    · exact .inl hread
    · exact .inr (.inl ⟨_, rfl⟩)
  have sent : (p.run (surroundings Ledger.answer).answer w).1 = .ok 0 :=
    h.run_submit crew.account crew.settings.gasLimit nonce
  have said := Program.says_transcript (surroundings Ledger.answer).answer p w
  rw [sent] at said
  rw [calls_talk_submitting, countP_isSend_submit said, sent] at send
  generalize (p.run (surroundings Ledger.answer).answer w).2 = w' at send h'
  have count : Plays c []
      ⟨claimed, phases.set i (.submitting (easyRound d) nonce (.done (.ok 0))), w'⟩
      ⟨counted, phases.set i (.recording q), w'⟩ := plays_turn hi h' rfl .go rfl
  have recording : Waits .recording := fun _ _ => rfl
  obtain ⟨record, h''⟩ := plays_talk counted recording q hi h' fun log op next hr =>
    .inr (.inr ⟨_, _, Nat.mod_lt _ (by decide), (reaches_single hr).2⟩)
  have recorded : (q.run (surroundings Ledger.answer).answer w').1 = .ok () := by
    obtain ⟨records, hr, -⟩ := h'.stores
    show (World.stored (w'.store.put _ _).1).mapError Failure.ofProxy = .ok ()
    rw [(Proxy.Local.put_of_records hr _ _).1]
    rfl
  rw [calls_talk_eq_nil (fun _ _ _ => rfl), recorded] at record
  generalize (q.run (surroundings Ledger.answer).answer w').2 = w'' at record h''
  have ready : Plays c [] ⟨counted, phases.set i (.recording (.done (.ok ()))), w''⟩
      ⟨counted, phases.set i .ready, w''⟩ := plays_turn hi h'' rfl .go rfl
  have attempt := (((claim.trans send).trans count).trans record).trans ready
  rw [hset] at attempt
  exact ⟨_, h'', attempt⟩

end Plays

def easyWorld (c : Word) : World Ledger where
  chain := {}
  store := ⟨⟨[(["store"], .store
    [(Key.disputeStatus, Quantity.encode 1), (Key.currentChallenge, c.toBytes),
      (Key.currentRequestId, Quantity.encode 1), (Key.currentDifficulty, Quantity.encode 1),
      (Key.queryValue 1, Quantity.encode 100), (Key.gasPrice, Quantity.encode 0)] true)]⟩,
    some ⟨["store"], true⟩⟩
  web := []
  patience := 0
  clock := 0
  birth := 0

theorem presents_easyWorld (c : Word) : Presents c (easyWorld c) := by
  refine ⟨rfl, rfl, rfl, _, rfl, ?_⟩
  constructor <;> rfl

/-- A worker that nothing disturbs submits a solution of the easiest round. -/
theorem exists_run_submitting (account : Address) (c : Word) :
    ∃ h sc, Run (surroundings Ledger.answer) (begin account {} (easyWorld c)) h sc ∧
      calls h = [c] := by
  have present := presents_easyWorld c
  let crew := (begin account {} ()).crew
  have unclaimed : crew.lastClaimed ≠ some c := nofun
  have ready : [Phase.ready][0]? = some .ready := rfl
  have search := plays_search crew ready present rfl (show defaultCap ≠ 0 by decide) unclaimed
    (Nonce.ofNat 0)
  have claiming : [Phase.claiming (easyRound c) (Nonce.ofNat 0)][0]? = some _ := rfl
  obtain ⟨w, -, submit⟩ := plays_submit crew claiming present unclaimed
  obtain ⟨h, run, hcalls, -⟩ := search.trans submit
  exact ⟨h, _, run _ rfl, hcalls⟩

end Mining
end PriceOracle
