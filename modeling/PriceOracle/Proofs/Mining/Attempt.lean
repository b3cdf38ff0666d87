import PriceOracle.Proofs.Mining.Play

/-!
# PriceOracle.Proofs.Mining.Attempt

What stands behind a solution when it is sent. `Fits` says for each phase what the worker has asked
and heard in the attempt so far.

* `fits_answer`, `fits_turn`: a step of a worker keeps this.
* `fits_run`: so it holds throughout a run of a crew, for all its workers.
* `sends_are_backed`: a solution is sent only when the gate was open, the round was read and solved,
  and the way was clear; a cost is written only after that, and is the one that could be paid.
-/

namespace PriceOracle
namespace Mining

open Node Node.Action Chain
open Program (Exchange Says Reaches)

variable {σ : Type} {U : Surroundings σ} {account : Address} {settings : Settings}

/-- A round is searched: the gate was open, the round was read, and no look since then has shown
another one. -/
inductive Searched (round : Round) : List (Exchange Reply) → Prop where
  | begun {gate reading : List (Exchange Reply)} : Says checkGate.outcome gate (.ok ()) →
      Says readRound.outcome reading (.ok (some round)) → round.difficulty ≠ 0 →
      Searched round (gate ++ reading)
  | polled {search poll : List (Exchange Reply)} {result : Except Failure (Option Round)} :
      Searched round search → Says readRound.outcome poll result →
      Worker.superseded round result = false → Searched round (search ++ poll)

theorem Searched.countP_isSend {round : Round} {log : List (Exchange Reply)}
    (h : Searched round log) : log.countP isSend = 0 := by
  have quiet : ∀ {log : List (Exchange Reply)}, (∀ x ∈ log, IsGet x.op) →
      log.countP isSend = 0 := fun hlog =>
    List.countP_eq_zero.2 fun x hx => by simp [isSend_of_isReading (hlog x hx).isReading]
  induction h with
  | begun hg hr _ =>
    rw [List.countP_append, quiet (asks_checkGate.of_mem (Program.says_iff_reaches.1 hg)),
      quiet (asks_readRound.of_mem (Program.says_iff_reaches.1 hr))]
  | polled _ hp _ ih =>
    rw [List.countP_append, ih, quiet (asks_readRound.of_mem (Program.says_iff_reaches.1 hp))]

/-- The nonce solves the round for the account. -/
def Solves (account : Address) (round : Round) (nonce : Nonce) : Prop :=
  verify round.challenge.toBytes account nonce.text round.difficulty = true

/-- What a worker in a phase has asked and heard since it began its attempt. -/
def Fits (account : Address) (settings : Settings) (log : List (Exchange Reply)) : Phase → Prop
  | .ready | .resting | .gone => True
  | .looking rest => Reaches look.outcome log rest
  | .weighing round => Says look.outcome log (.ok (some round))
  | .searching round _ => Searched round log
  | .polling round _ rest =>
    ∃ search poll, log = search ++ poll ∧ Searched round search ∧
      Reaches readRound.outcome poll rest
  | .claiming round nonce => Searched round log ∧ Solves account round nonce
  | .submitting round nonce rest =>
    ∃ search asks, log = search ++ asks ∧ Searched round search ∧ Solves account round nonce ∧
      Reaches (submit account settings.gasLimit round nonce).outcome asks rest
  | .recording rest =>
    ∃ round nonce cost count search asks puts, log = search ++ asks ++ puts ∧
      Searched round search ∧ Solves account round nonce ∧
      Says (submit account settings.gasLimit round nonce).outcome asks (.ok cost) ∧
      Reaches (recordCost count cost).outcome puts rest

theorem fits_answer {log : List (Exchange Reply)} {phase : Phase} {question : Pending}
    (fits : Fits account settings log phase) (hq : phase.pending? = some question)
    (r : Reply question.op) :
    Fits account settings (log ++ [⟨question.op, r⟩]) (question.next r) := by
  obtain ⟨op, next, rfl, rfl⟩ | ⟨round, left, op, next, rfl, rfl⟩ |
    ⟨round, nonce, op, next, rfl, rfl⟩ | ⟨op, next, rfl, rfl⟩ := Phase.pending_cases hq
  · exact Reaches.snoc fits r
  · obtain ⟨search, poll, rfl, searched, hp⟩ := fits
    exact ⟨search, poll ++ [⟨op, r⟩], List.append_assoc .., searched, hp.snoc r⟩
  · obtain ⟨search, asks, rfl, searched, solves, ha⟩ := fits
    exact ⟨search, asks ++ [⟨op, r⟩], List.append_assoc .., searched, solves, ha.snoc r⟩
  · obtain ⟨round, nonce, cost, count, search, asks, puts, rfl, searched, solves, ha, hp⟩ := fits
    exact ⟨round, nonce, cost, count, search, asks, puts ++ [⟨op, r⟩], List.append_assoc ..,
      searched, solves, ha, hp.snoc r⟩

theorem fits_beginSearch {log : List (Exchange Reply)} {round : Round} (c : Crew)
    (h : Says look.outcome log (.ok (some round))) :
    Fits account settings log (Worker.beginSearch c round) := by
  unfold Worker.beginSearch
  split
  · trivial
  · next hd =>
    obtain ⟨gate, reading, _, rfl, h₁, h₂⟩ := says_andThen.1 h
    exact .begun h₁ h₂ fun hz => hd (.inl hz)

theorem fits_tryDraws {log : List (Exchange Reply)} {round : Round} (c : Crew)
    (hc : c.account = account) (left : Nat) (nonces : List Nonce) (h : Searched round log) :
    Fits account settings log (Worker.tryDraws c round left nonces) := by
  unfold Worker.tryDraws
  simp only
  split
  · next nonce found =>
    have solves := List.find?_some found
    rw [hc] at solves
    exact ⟨h, solves⟩
  · split
    · trivial
    · exact h

theorem fits_ready (signal : Signal) (c : Crew) :
    Fits account settings [] (Worker.turn signal .ready c).1 := by
  simp only [Worker.turn]
  split
  · trivial
  · exact Reaches.refl _

/-- What a worker does by itself leaves the attempt as it is, unless it begins a new one. -/
theorem fits_turn {log : List (Exchange Reply)} {phase : Phase} {c : Crew}
    (hc : c.account = account ∧ c.settings = settings) (fits : Fits account settings log phase)
    (hq : phase.pending? = none) (hr : phase ≠ .ready) (signal : Signal) :
    Fits account settings log (Worker.turn signal phase c).1 := by
  match phase, fits, hq with
  | .looking (.done (.ok (some round))), fits, _ => exact Program.says_iff_reaches.2 fits
  | .looking (.done (.ok none)), _, _ | .looking (.done (.error _)), _, _ => trivial
  | .weighing round, fits, _ =>
    simp only [Worker.turn]
    split
    · trivial
    · exact fits_beginSearch c fits
  | .searching round left, fits, _ =>
    simp only [Worker.turn]
    split
    · trivial
    · cases signal with
      | go => exact fits
      | draws nonces => exact fits_tryDraws c hc.1 left nonces fits
      | time => exact ⟨log, [], (List.append_nil log).symm, fits, .refl _⟩
  | .polling round left (.done result), ⟨search, poll, hlog, searched, hp⟩, _ =>
    simp only [Worker.turn]
    split
    · trivial
    · next hs =>
      rw [Bool.not_eq_true] at hs
      subst hlog
      exact searched.polled (Program.says_iff_reaches.2 hp) hs
  | .claiming round nonce, ⟨searched, solves⟩, _ =>
    simp only [Worker.turn, Worker.claim]
    split
    · trivial
    · rw [hc.1, hc.2]
      exact ⟨log, [], (List.append_nil log).symm, searched, solves, .refl _⟩
  | .submitting round nonce (.done (.ok cost)), ⟨search, asks, hlog, searched, solves, ha⟩, _ =>
    exact ⟨round, nonce, cost, c.submissions, search, asks, [], by rw [List.append_nil, hlog],
      searched, solves, Program.says_iff_reaches.2 ha, .refl _⟩
  | .submitting _ _ (.done (.error _)), _, _ => trivial
  | .recording (.done (.ok ())), _, _ | .recording (.done (.error _)), _, _ => trivial
  | .resting, _, _ =>
    simp only [Worker.turn]
    split
    · trivial
    · cases signal <;> trivial
  | .gone, _, _ => trivial

theorem turn_account (signal : Signal) (phase : Phase) (c : Crew) :
    (Worker.turn signal phase c).2.account = c.account ∧
      (Worker.turn signal phase c).2.settings = c.settings := by
  unfold Worker.turn
  split <;> try exact ⟨rfl, rfl⟩
  · split
    · exact ⟨rfl, rfl⟩
    · cases signal <;> exact ⟨rfl, rfl⟩
  · unfold Worker.claim
    split <;> exact ⟨rfl, rfl⟩
  · split
    · exact ⟨rfl, rfl⟩
    · cases signal <;> exact ⟨rfl, rfl⟩

/-- Whose crew it is, and what each worker has asked and heard. -/
def AllFit (account : Address) (settings : Settings) (h : List (Moment σ)) (sc : Scene σ) : Prop :=
  (sc.crew.account = account ∧ sc.crew.settings = settings) ∧
    ∀ i phase, sc.phases[i]? = some phase → Fits account settings (attempt i h) phase

theorem fits_step {h : List (Moment σ)} {sc sc' : Scene σ} {e : Event}
    (fit : AllFit account settings h sc) (step : Step U sc e sc') :
    AllFit account settings (⟨sc.world, e⟩ :: h) sc' := by
  obtain ⟨hc, fits⟩ := fit
  obtain ⟨i, phase, question, hp, hq, rfl, rfl⟩ | ⟨i, phase, signal, hp, hq, rfl, rfl⟩ |
    ⟨s, -, rfl, rfl⟩ | ⟨rfl, rfl⟩ := step.cases
  · refine ⟨hc, fun j phase' hj => ?_⟩
    obtain ⟨rfl, rfl⟩ | ⟨hij, hj⟩ := phases_set hj
    · rw [attempt_answered, if_pos rfl]
      exact fits_answer (fits i phase hp) hq _
    · rw [attempt_answered, if_neg hij]
      exact fits j phase' hj
  · obtain ⟨ha, hs⟩ := turn_account signal phase sc.crew
    refine ⟨⟨ha.trans hc.1, hs.trans hc.2⟩, fun j phase' hj => ?_⟩
    obtain ⟨rfl, rfl⟩ | ⟨hij, hj⟩ := phases_set hj
    · by_cases hr : phase = .ready
      · subst hr
        rw [attempt_ready]
        exact fits_ready signal sc.crew
      · rw [attempt_acted fun _ => hr]
        exact fits_turn hc (fits i phase hp) hq hr signal
    · rw [attempt_acted fun heq => absurd heq hij]
      exact fits j phase' hj
  · exact ⟨hc, fits⟩
  · exact ⟨hc, fits⟩

theorem fits_run {h : List (Moment σ)} {s : σ} {sc : Scene σ}
    (run : Run U (begin account settings s) h sc) : AllFit account settings h sc := by
  induction run with
  | refl =>
    refine ⟨⟨rfl, rfl⟩, fun i phase hp => ?_⟩
    have ready := List.eq_of_mem_replicate (List.mem_of_getElem? hp)
    subst ready
    trivial
  | snoc _ step ih => exact fits_step ih step

theorem fits_of_answered {h earlier : List (Moment σ)} {s w : σ} {sc : Scene σ} {i : Nat}
    {phase : Phase} {x : Exchange Reply} (run : Run U (begin account settings s) h sc)
    (hs : ⟨w, .answered i phase x⟩ :: earlier <:+ h) :
    Fits account settings (attempt i earlier) phase ∧
      ∃ question, phase.pending? = some question ∧ x.op = question.op := by
  obtain ⟨b, c, before, step, -⟩ := run.of_suffix hs
  obtain ⟨j, phase', question, hp, hq, he, -⟩ | ⟨_, _, _, _, _, he, -⟩ | ⟨_, _, he, -⟩ |
    ⟨he, -⟩ := step.cases
  · cases he
    exact ⟨(fits_run before).2 _ _ hp, question, hq, rfl⟩
  · cases he
  · cases he
  · cases he

/-- The solution of a round is to be sent, and everything speaks for it. -/
inductive Backed (account : Address) (settings : Settings) (cost : Word) :
    List (Exchange Reply) → Transaction → Prop where
  | mk {round : Round} {nonce : Nonce} {value : Word} {search asks : List (Exchange Reply)} :
      Searched round search → Solves account round nonce →
      Cleared account settings.gasLimit round.requestId value cost asks →
      Backed account settings cost (search ++ asks)
        (.submitSolution nonce.text (BitVec.ofNat 256 round.requestId) value)

/-- A worker only reads, apart from sending a solution that is backed by its attempt, and writing
down what it cost after that was accepted. -/
theorem sends_are_backed {h earlier : List (Moment σ)} {s w : σ} {sc : Scene σ} {i : Nat}
    {phase : Phase} {x : Exchange Reply} (run : Run U (begin account settings s) h sc)
    (hs : ⟨w, .answered i phase x⟩ :: earlier <:+ h) :
    IsReading x.op ∨
    (∃ solution cost, x.op = .chain (.send solution) ∧
      Backed account settings cost (attempt i earlier) solution) ∨
    ∃ solution cost before hash count,
      x.op = .put (Key.gasCost (count % Key.gasCostSlots)) (Quantity.encode cost) ∧
      attempt i earlier = before ++ [⟨.chain (.send solution), .ok hash⟩] ∧
      Backed account settings cost before solution := by
  obtain ⟨fits, question, hq, hop⟩ := fits_of_answered run hs
  rw [hop]
  obtain ⟨op, next, rfl, rfl⟩ | ⟨round, left, op, next, rfl, rfl⟩ |
    ⟨round, nonce, op, next, rfl, rfl⟩ | ⟨op, next, rfl, rfl⟩ := Phase.pending_cases hq
  · exact .inl (asks_look _ _ _ fits).isReading
  · obtain ⟨search, poll, -, -, hp⟩ := fits
    exact .inl (asks_readRound _ _ _ hp).isReading
  · obtain ⟨search, asks, hlog, searched, solves, ha⟩ := fits
    obtain hread | ⟨value, cost, cleared, rfl⟩ := submit_asks ha
    · exact .inl hread
    · rw [hlog]
      exact .inr (.inl ⟨_, cost, rfl, .mk searched solves cleared⟩)
  · obtain ⟨round, nonce, cost, count, search, asks, puts, hlog, searched, solves, ha, hp⟩ := fits
    obtain ⟨value, hash, asks, cleared, rfl⟩ := says_submit ha
    obtain ⟨rfl, rfl⟩ := reaches_single hp
    refine .inr (.inr ⟨_, cost, search ++ asks, hash, count, rfl, ?_, .mk searched solves cleared⟩)
    rw [hlog, List.append_nil, List.append_assoc]

/-- The solution of the easiest round is backed. -/
theorem easyRound_is_backed :
    ∃ h sc w i phase x t earlier, Run (surroundings Ledger.answer) (begin 0 {} (easyWorld 7)) h sc ∧
      ⟨w, .answered i phase x⟩ :: earlier <:+ h ∧ x.op = .chain (.send t) ∧
      ∃ cost, Backed 0 {} cost (attempt i earlier) t := by
  obtain ⟨h, sc, run, hcalls⟩ := exists_run_submitting 0 7
  obtain ⟨w, i, phase, x, t, earlier, hs, hop⟩ :=
    exists_send_of_mem_calls (h := h) (by rw [hcalls]; exact List.mem_singleton_self 7)
  refine ⟨h, sc, w, i, phase, x, t, earlier, run, hs, hop, ?_⟩
  obtain hread | ⟨solution, cost, hsend, backed⟩ | ⟨_, _, _, _, _, hput, _⟩ :=
    sends_are_backed run hs
  · rw [hop] at hread
    cases hread
  · rw [hop] at hsend
    cases hsend
    exact ⟨cost, backed⟩
  · rw [hop] at hput
    cases hput

end Mining
end PriceOracle
