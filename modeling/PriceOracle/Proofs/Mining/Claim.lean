import PriceOracle.Proofs.Mining.Attempt

/-!
# PriceOracle.Proofs.Mining.Claim

How often a challenge is submitted. The crew remembers only the challenge that was claimed last, so
a worker that found a solution late claims a challenge again when another one was claimed in
between. One worker alone cannot be late: a challenge that it claimed before the last one has been
replaced, and is not read again.

* `calls_nodup_of_single`: a crew of one worker sends one solution for a challenge at most.
* `exists_run_calling_twice`: a crew of two may send two.
* `calls_nodup_iff`: so the crews that keep to one solution are those with one worker, or with
  workers that do not search.
-/

namespace PriceOracle
namespace Mining

open Node Node.Action Chain
open Program (Exchange Says Reaches)

variable {σ : Type} {U : Surroundings σ} {account : Address} {settings : Settings}

/-! ## Challenges that were replaced -/

/-- Was the challenge replaced by another one? The latest one is the first. -/
def Replaced (seen : List Word) (c : Word) : Prop := c ∈ seen ∧ seen.head? ≠ some c

theorem Replaced.cons {a c : Word} {seen : List Word} (h : Replaced seen c)
    (hs : Settled (a :: seen)) : Replaced (a :: seen) c := by
  obtain ⟨hmem, hhead⟩ := h
  refine ⟨List.mem_cons_of_mem a hmem, fun heq => ?_⟩
  cases heq
  obtain hlast | hnew := hs.1
  · exact hhead hlast
  · exact hnew hmem

/-- A challenge that may be claimed: it was read, and every other one that was claimed before has
been replaced. -/
structure Candidate (seen claimed : List Word) (c : Word) : Prop where
  wasSeen : c ∈ seen
  notOlder : c ∉ claimed.tail
  others : ∀ d ∈ claimed, d ≠ c → Replaced seen d

theorem Candidate.cons {a c : Word} {seen claimed : List Word} (h : Candidate seen claimed c)
    (hs : Settled (a :: seen)) : Candidate (a :: seen) claimed c :=
  ⟨List.mem_cons_of_mem a h.wasSeen, h.notOlder, fun d hd hne => (h.others d hd hne).cons hs⟩

/-- The claims so far, the latest first: each one but the latest has been replaced. -/
structure Ordered (seen claimed : List Word) (last : Option Word) : Prop where
  last : last = claimed.head?
  wereSeen : ∀ c ∈ claimed, c ∈ seen
  older : ∀ c ∈ claimed.tail, Replaced seen c
  nodup : claimed.Nodup

namespace Ordered

variable {a c : Word} {seen claimed : List Word} {last : Option Word}

theorem cons (h : Ordered seen claimed last) (hs : Settled (a :: seen)) :
    Ordered (a :: seen) claimed last :=
  ⟨h.last, fun c hc => List.mem_cons_of_mem a (h.wereSeen c hc),
    fun c hc => (h.older c hc).cons hs, h.nodup⟩

/-- The challenge that is stored now is a candidate. -/
theorem candidate (h : Ordered (c :: seen) claimed last) : Candidate (c :: seen) claimed c where
  wasSeen := List.mem_cons_self
  notOlder := fun hc => (h.older c hc).2 rfl
  others := fun d hd hne => ⟨h.wereSeen d hd, fun heq => hne (Option.some.inj heq).symm⟩

/-- A candidate that is not the last claim was never claimed, and may be. -/
theorem claim (h : Ordered seen claimed last) (hc : Candidate seen claimed c)
    (hlast : last ≠ some c) : Ordered seen (c :: claimed) (some c) := by
  have fresh : c ∉ claimed := by
    intro hmem
    cases claimed with
    | nil => cases hmem
    | cons d claimed =>
      obtain rfl | hmem := List.mem_cons.1 hmem
      · exact hlast h.last
      · exact hc.notOlder hmem
  refine ⟨rfl, ?_, ?_, List.nodup_cons.2 ⟨fresh, h.nodup⟩⟩
  · intro d hd
    obtain rfl | hd := List.mem_cons.1 hd
    · exact hc.wasSeen
    · exact h.wereSeen d hd
  · intro d hd
    exact hc.others d hd fun heq => fresh (heq ▸ hd)

end Ordered

/-! ## A crew of one -/

/-- What a worker knows in a phase about the challenge that it is about. -/
def Aware (seen claimed called : List Word) (log : List (Exchange Reply)) : Phase → Prop
  | .looking _ => ∀ raw, ⟨.get Key.currentChallenge, .ok (some raw)⟩ ∈ log → raw.length = 32 →
      Candidate seen claimed (Word.ofBytes raw)
  | .weighing round | .searching round _ | .polling round _ _ | .claiming round _ =>
    Candidate seen claimed round.challenge
  | .submitting round _ _ =>
    log.countP isSend = 0 → (round.challenge :: called).Sublist claimed
  | _ => True

/-- The history of a crew of one: its claims are in order, each is followed by one call at most, and
its worker is aware of them. -/
structure Orderly (U : Surroundings σ) (h : List (Moment σ)) (sc : Scene σ) : Prop where
  single : sc.phases.length ≤ 1
  ordered : Ordered (stored U h) (claims h) sc.crew.lastClaimed
  called : (calls h).Sublist (claims h)
  aware : ∀ phase, sc.phases[0]? = some phase →
    Aware (stored U h) (claims h) (calls h) (attempt 0 h) phase

variable {h : List (Moment σ)} {sc sc' : Scene σ} {e : Event}

theorem stored_append (later earlier : List (Moment σ)) :
    stored U (later ++ earlier) = stored U later ++ stored U earlier := List.filterMap_append

theorem stored_cons (m : Moment σ) :
    stored U (m :: h) = (U.challenge? m.world).toList ++ stored U h := by
  simp only [stored, List.filterMap_cons]
  cases U.challenge? m.world <;> rfl

theorem settled_of_append {o : Option Word} {seen : List Word}
    (hs : Settled (o.toList ++ seen)) : Settled seen := by
  cases o with
  | none => exact hs
  | some a => exact hs.2

theorem Ordered.later {o : Option Word} {seen claimed : List Word} {last : Option Word}
    (h : Ordered seen claimed last) (hs : Settled (o.toList ++ seen)) :
    Ordered (o.toList ++ seen) claimed last := by
  cases o with
  | none => exact h
  | some a => exact h.cons hs

theorem Candidate.later {o : Option Word} {seen claimed : List Word} {c : Word}
    (h : Candidate seen claimed c) (hs : Settled (o.toList ++ seen)) :
    Candidate (o.toList ++ seen) claimed c := by
  cases o with
  | none => exact h
  | some a => exact h.cons hs

theorem Aware.later {o : Option Word} {seen claimed called : List Word}
    {log : List (Exchange Reply)} {phase : Phase} (h : Aware seen claimed called log phase)
    (hs : Settled (o.toList ++ seen)) : Aware (o.toList ++ seen) claimed called log phase := by
  cases phase with
  | looking rest => exact fun raw hraw hlength => (h raw hraw hlength).later hs
  | weighing round => exact Candidate.later h hs
  | searching round left => exact Candidate.later h hs
  | polling round left rest => exact Candidate.later h hs
  | claiming round nonce => exact Candidate.later h hs
  | _ => exact h

theorem challenge?_of_read {w : σ} {raw : Bytes} (hlength : raw.length = 32)
    (hr : (U.answer (.get Key.currentChallenge) w).1 = .ok (some raw)) :
    U.challenge? w = some (Word.ofBytes raw) := by
  simp only [Surroundings.challenge?, hr, hlength, if_true]

theorem countP_isSend_of_fits {log : List (Exchange Reply)} {round : Round} {nonce : Nonce}
    {t : Transaction} {next : Reply (.chain (.send t)) → Program Reply (Except Failure Word)}
    (fits : Fits account settings log (.submitting round nonce (.ask (.chain (.send t)) next))) :
    log.countP isSend = 0 := by
  obtain ⟨search, asks, rfl, searched, -, ha⟩ := fits
  obtain hread | ⟨value, cost, cleared, -⟩ := submit_asks ha
  · cases hread
  · rw [List.countP_append, searched.countP_isSend, cleared.countP_isSend]

section Answer

variable {w : σ} {phase : Phase} {question : Pending}

theorem aware_answer {last : Option Word} (ordered : Ordered (stored U h) (claims h) last)
    (hq : phase.pending? = some question)
    (aware : Aware (stored U h) (claims h) (calls h) (attempt 0 h) phase)
    (hs : Settled ((U.challenge? w).toList ++ stored U h)) :
    Aware ((U.challenge? w).toList ++ stored U h) (claims h)
      (calls (⟨w, .answered 0 phase ⟨question.op, (U.answer question.op w).1⟩⟩ :: h))
      (attempt 0 h ++ [⟨question.op, (U.answer question.op w).1⟩])
      (question.next (U.answer question.op w).1) := by
  obtain ⟨op, next, rfl, rfl⟩ | ⟨round, left, op, next, rfl, rfl⟩ |
    ⟨round, nonce, op, next, rfl, rfl⟩ | ⟨op, next, rfl, rfl⟩ := Phase.pending_cases hq
  · intro raw hraw hlength
    obtain hraw | hraw := List.mem_append.1 hraw
    · exact (aware raw hraw hlength).later hs
    · injection List.mem_singleton.1 hraw with hop hreply
      subst hop
      have hc := challenge?_of_read hlength (eq_of_heq hreply).symm
      have later := ordered.later hs
      rw [hc] at later ⊢
      exact later.candidate
  · exact Candidate.later aware hs
  · intro hnone
    rw [List.countP_append, List.countP_singleton] at hnone
    have unsent : isSend ⟨op, (U.answer op w).1⟩ = false := by
      cases hsend : isSend ⟨op, (U.answer op w).1⟩ with
      | false => rfl
      | true => simp [hsend] at hnone
    simp only [calls, List.filterMap_cons, called_submitting, unsent, Bool.false_eq_true, if_false]
    exact aware (by omega)
  · trivial

theorem called_answer (fits : Fits account settings (attempt 0 h) phase)
    (hq : phase.pending? = some question)
    (aware : Aware (stored U h) (claims h) (calls h) (attempt 0 h) phase)
    (called : (calls h).Sublist (claims h)) (r : Reply question.op) :
    (calls (⟨w, .answered 0 phase ⟨question.op, r⟩⟩ :: h)).Sublist (claims h) := by
  obtain ⟨op, next, rfl, rfl⟩ | ⟨round, left, op, next, rfl, rfl⟩ |
    ⟨round, nonce, op, next, rfl, rfl⟩ | ⟨op, next, rfl, rfl⟩ := Phase.pending_cases hq
  · exact called
  · exact called
  · simp only [calls, List.filterMap_cons, called_submitting]
    cases hsend : isSend ⟨op, r⟩ with
    | false => exact called
    | true =>
      cases op with
      | chain call =>
        cases call with
        | query q => cases hsend
        | send t => exact aware (countP_isSend_of_fits fits)
      | _ => cases hsend
  · exact called

end Answer

section Turn

variable {phase : Phase} {c : Crew} {seen claimed called : List Word}
  {log : List (Exchange Reply)}

theorem candidate_of_log {round : Round} {rest : Program Reply (Except Failure (Option Round))}
    (h : Says look.outcome log (.ok (some round)))
    (aware : Aware seen claimed called log (.looking rest)) :
    Candidate seen claimed round.challenge := by
  obtain ⟨gate, reading, _, rfl, -, hr⟩ := says_andThen.1 h
  obtain ⟨raw, _, _, _, hlength, -, -, -, hchallenge, rfl⟩ := says_readRound.1 hr
  rw [hchallenge]
  exact aware raw (List.mem_append_right _ List.mem_cons_self) hlength

theorem aware_ready (signal : Signal) :
    Aware seen claimed called [] (Worker.turn signal .ready c).1 := by
  simp only [Worker.turn]
  split
  · trivial
  · exact fun _ hraw => absurd hraw List.not_mem_nil

theorem aware_turn (fits : Fits account settings log phase) (hq : phase.pending? = none)
    (aware : Aware seen claimed called log phase) (hr : phase ≠ .ready)
    (hclaim : ∀ round nonce, phase ≠ .claiming round nonce) (signal : Signal) :
    Aware seen claimed called log (Worker.turn signal phase c).1 := by
  match phase, fits, hq, aware with
  | .looking (.done (.ok (some round))), fits, _, aware =>
    exact candidate_of_log (Program.says_iff_reaches.2 fits) aware
  | .looking (.done (.ok none)), _, _, _ | .looking (.done (.error _)), _, _, _ => trivial
  | .weighing round, _, _, aware =>
    simp only [Worker.turn]
    split
    · trivial
    · unfold Worker.beginSearch
      split
      · trivial
      · exact aware
  | .searching round left, _, _, aware =>
    simp only [Worker.turn]
    split
    · trivial
    · cases signal with
      | draws nonces =>
        simp only [Worker.tryDraws]
        split
        · exact aware
        · split
          · trivial
          · exact aware
      | _ => exact aware
  | .polling round left (.done result), _, _, aware =>
    simp only [Worker.turn]
    split
    · trivial
    · exact aware
  | .claiming round nonce, _, _, _ => exact absurd rfl (hclaim round nonce)
  | .submitting _ _ (.done (.ok _)), _, _, _ | .submitting _ _ (.done (.error _)), _, _, _
  | .recording (.done (.ok ())), _, _, _ | .recording (.done (.error _)), _, _, _ => trivial
  | .resting, _, _, _ =>
    simp only [Worker.turn]
    split
    · trivial
    · cases signal <;> trivial
  | .gone, _, _, _ => trivial

theorem turn_lastClaimed (hclaim : ∀ round nonce, phase ≠ .claiming round nonce)
    (signal : Signal) : (Worker.turn signal phase c).2.lastClaimed = c.lastClaimed := by
  unfold Worker.turn
  split <;> try rfl
  · split
    · rfl
    · cases signal <;> rfl
  · next round nonce => exact absurd rfl (hclaim round nonce)
  · split
    · rfl
    · cases signal <;> rfl

end Turn

theorem orderly_of_unclaimed (orderly : Orderly U h sc)
    (hs : Settled (stored U (⟨sc.world, e⟩ :: h))) (hclaimed : e.claimed? = none)
    (called : (calls (⟨sc.world, e⟩ :: h)).Sublist (claims h))
    (hlast : sc'.crew.lastClaimed = sc.crew.lastClaimed)
    (hlength : sc'.phases.length = sc.phases.length)
    (aware : ∀ phase, sc'.phases[0]? = some phase →
      Aware (stored U (⟨sc.world, e⟩ :: h)) (claims h) (calls (⟨sc.world, e⟩ :: h))
        (attempt 0 (⟨sc.world, e⟩ :: h)) phase) :
    Orderly U (⟨sc.world, e⟩ :: h) sc' := by
  have hclaims : claims (⟨sc.world, e⟩ :: h) = claims h := by
    simp only [claims, List.filterMap_cons, hclaimed]
  refine ⟨hlength ▸ orderly.single, ?_, ?_, ?_⟩
  · rw [hclaims, hlast, stored_cons]
    rw [stored_cons] at hs
    exact orderly.ordered.later hs
  · rw [hclaims]
    exact called
  · rw [hclaims]
    exact aware

theorem claimed?_acted {i : Nat} {phase next : Phase}
    (hclaim : ∀ round nonce, phase ≠ .claiming round nonce) :
    (Event.acted i phase next).claimed? = none := by
  unfold Event.claimed?
  split
  · next heq =>
    cases heq
    exact absurd rfl (hclaim _ _)
  · rfl

/-- The worker claims its challenge, if it was not the last one to be claimed. -/
theorem orderly_claim (orderly : Orderly U h sc) {round : Round} {nonce : Nonce} (signal : Signal)
    (hp : sc.phases[0]? = some (.claiming round nonce))
    (hs : Settled ((U.challenge? sc.world).toList ++ stored U h)) :
    Orderly U (⟨sc.world, .acted 0 (.claiming round nonce)
        (Worker.turn signal (.claiming round nonce) sc.crew).1⟩ :: h)
      ⟨(Worker.turn signal (.claiming round nonce) sc.crew).2,
        sc.phases.set 0 (Worker.turn signal (.claiming round nonce) sc.crew).1, sc.world⟩ := by
  have candidate : Candidate (stored U h) (claims h) round.challenge := orderly.aware _ hp
  have ordered := orderly.ordered.later hs
  simp only [Worker.turn, Worker.claim]
  split
  · refine ⟨by simpa using orderly.single, ?_, orderly.called, fun phase hp' => ?_⟩
    · rw [stored_cons]
      exact ordered
    · obtain ⟨-, rfl⟩ | ⟨hne, -⟩ := phases_set hp'
      · trivial
      · exact absurd rfl hne
  · next hlast =>
    refine ⟨by simpa using orderly.single, ?_, orderly.called.cons _, fun phase hp' => ?_⟩
    · rw [stored_cons]
      exact ordered.claim (candidate.later hs) hlast
    · obtain ⟨-, rfl⟩ | ⟨hne, -⟩ := phases_set hp'
      · exact fun _ => orderly.called.cons_cons _
      · exact absurd rfl hne

theorem orderly_step (fit : AllFit account settings h sc) (orderly : Orderly U h sc)
    (step : Step U sc e sc') (hs : Settled (stored U (⟨sc.world, e⟩ :: h))) :
    Orderly U (⟨sc.world, e⟩ :: h) sc' := by
  have first : ∀ {i : Nat} {phase : Phase}, sc.phases[i]? = some phase → i = 0 := fun hp => by
    have := (phases_set_self hp).1
    have := orderly.single
    omega
  have hs' := hs
  rw [stored_cons] at hs'
  obtain ⟨i, phase, question, hp, hq, rfl, rfl⟩ | ⟨i, phase, signal, hp, hq, rfl, rfl⟩ |
    ⟨s, -, rfl, rfl⟩ | ⟨rfl, rfl⟩ := step.cases
  · obtain rfl := first hp
    have aware := orderly.aware phase hp
    refine orderly_of_unclaimed orderly hs rfl
      (called_answer (fit.2 0 phase hp) hq aware orderly.called _) rfl List.length_set ?_
    intro phase' hp'
    obtain ⟨-, rfl⟩ | ⟨hne, -⟩ := phases_set hp'
    · rw [stored_cons, attempt_answered, if_pos rfl]
      exact aware_answer orderly.ordered hq aware hs'
    · exact absurd rfl hne
  · obtain rfl := first hp
    by_cases hclaim : ∃ round nonce, phase = .claiming round nonce
    · obtain ⟨round, nonce, rfl⟩ := hclaim
      exact orderly_claim orderly signal hp hs'
    · have hclaim : ∀ round nonce, phase ≠ .claiming round nonce :=
        fun round nonce heq => hclaim ⟨round, nonce, heq⟩
      refine orderly_of_unclaimed orderly hs (claimed?_acted hclaim) orderly.called
        (turn_lastClaimed hclaim signal) List.length_set ?_
      intro phase' hp'
      obtain ⟨-, rfl⟩ | ⟨hne, -⟩ := phases_set hp'
      · rw [stored_cons]
        refine Aware.later ?_ hs'
        by_cases hr : phase = .ready
        · subst hr
          rw [attempt_ready]
          exact aware_ready signal
        · rw [attempt_acted fun _ => hr]
          exact aware_turn (fit.2 0 phase hp) hq (orderly.aware phase hp) hr hclaim signal
      · exact absurd rfl hne
  · refine orderly_of_unclaimed orderly hs rfl orderly.called rfl rfl fun phase hp => ?_
    rw [stored_cons]
    exact (orderly.aware phase hp).later hs'
  · refine orderly_of_unclaimed orderly hs rfl orderly.called rfl rfl fun phase hp => ?_
    rw [stored_cons]
    exact (orderly.aware phase hp).later hs'

theorem orderly_run {s : σ} (run : Run U (begin account settings s) h sc)
    (hw : settings.workers ≤ 1) (hs : Settled (stored U h)) : Orderly U h sc := by
  induction run with
  | refl =>
    refine ⟨?_, ⟨rfl, ?_, ?_, List.nodup_nil⟩, List.Sublist.refl _, fun phase hp => ?_⟩
    · simpa [begin, Manager.newGroup, Manager.new] using hw
    · exact fun c hc => absurd hc List.not_mem_nil
    · exact fun c hc => absurd hc List.not_mem_nil
    · have ready := List.eq_of_mem_replicate (List.mem_of_getElem? hp)
      subst ready
      trivial
  | snoc run step ih =>
    have hearlier := hs
    rw [stored_cons] at hearlier
    exact orderly_step (fits_run run) (ih (settled_of_append hearlier)) step hs

/-- A crew of one worker sends one solution for a challenge at most. -/
theorem calls_nodup_of_single {s : σ} (run : Run U (begin account settings s) h sc)
    (hw : settings.workers ≤ 1) (hs : Settled (stored U h)) : (calls h).Nodup :=
  have orderly := orderly_run run hw hs
  orderly.ordered.nodup.sublist orderly.called

/-! ## Workers that do not search -/

/-- A worker that is not in a search and has found nothing. -/
def Searchless : Phase → Prop
  | .ready | .looking _ | .weighing _ | .resting | .gone => True
  | _ => False

theorem searchless_turn {phase : Phase} {c : Crew} (hcap : c.settings.cap = 0)
    (idle : Searchless phase) (signal : Signal) : Searchless (Worker.turn signal phase c).1 := by
  cases phase with
  | ready =>
    simp only [Worker.turn]
    split <;> trivial
  | looking rest =>
    cases rest with
    | done result =>
      cases result with
      | ok found => cases found <;> trivial
      | error e => trivial
    | ask op next => trivial
  | weighing round =>
    simp only [Worker.turn, Worker.beginSearch, hcap, or_true, if_true, ite_self]
    trivial
  | resting =>
    simp only [Worker.turn]
    split
    · trivial
    · cases signal <;> trivial
  | gone => trivial
  | _ => cases idle

theorem searchless_run {s : σ} (run : Run U (begin account settings s) h sc)
    (hcap : settings.cap = 0) :
    (∀ (i : Nat) phase, sc.phases[i]? = some phase → Searchless phase) ∧ calls h = [] := by
  induction run with
  | refl =>
    refine ⟨fun i phase hp => ?_, rfl⟩
    have ready := List.eq_of_mem_replicate (List.mem_of_getElem? hp)
    subst ready
    trivial
  | snoc run step ih =>
    obtain ⟨idle, hcalls⟩ := ih
    have hsettings := (fits_run run).1.2
    obtain ⟨i, phase, question, hp, hq, rfl, rfl⟩ | ⟨i, phase, signal, hp, hq, rfl, rfl⟩ |
      ⟨s, -, rfl, rfl⟩ | ⟨rfl, rfl⟩ := step.cases
    · obtain ⟨op, next, rfl, rfl⟩ | ⟨_, _, _, _, rfl, -⟩ | ⟨_, _, _, _, rfl, -⟩ | ⟨_, _, rfl, -⟩ :=
        Phase.pending_cases hq
      · refine ⟨fun j phase' hj => ?_, hcalls⟩
        obtain ⟨-, rfl⟩ | ⟨-, hj⟩ := phases_set hj
        · trivial
        · exact idle j phase' hj
      · exact (idle _ _ hp).elim
      · exact (idle _ _ hp).elim
      · exact (idle _ _ hp).elim
    · refine ⟨fun j phase' hj => ?_, hcalls⟩
      obtain ⟨-, rfl⟩ | ⟨-, hj⟩ := phases_set hj
      · exact searchless_turn (hsettings ▸ hcap) (idle i phase hp) signal
      · exact idle j phase' hj
    · exact ⟨idle, hcalls⟩
    · exact ⟨idle, hcalls⟩

/-! ## A crew of two -/

theorem settled_of_forall_eq {c : Word} {seen : List Word} (h : ∀ a ∈ seen, a = c) :
    Settled seen := by
  induction seen with
  | nil => trivial
  | cons a seen ih =>
    refine ⟨?_, ih fun b hb => h b (List.mem_cons_of_mem a hb)⟩
    cases seen with
    | nil => exact .inr List.not_mem_nil
    | cons b seen =>
      have ha := h a List.mem_cons_self
      have hb := h b (List.mem_cons_of_mem a List.mem_cons_self)
      exact .inl (by rw [List.head?_cons, ha, hb])

theorem settled_of_replaced {c d : Word} (hne : c ≠ d) {later earlier : List Word}
    (hl : ∀ a ∈ later, a = d) (he : ∀ a ∈ earlier, a = c) : Settled (later ++ earlier) := by
  induction later with
  | nil => exact settled_of_forall_eq he
  | cons a later ih =>
    refine ⟨?_, ih fun b hb => hl b (List.mem_cons_of_mem a hb)⟩
    obtain rfl := hl a List.mem_cons_self
    cases later with
    | nil => exact .inr fun hmem => hne (he a hmem).symm
    | cons b later =>
      have hb := hl b (List.mem_cons_of_mem a List.mem_cons_self)
      exact .inl (congrArg some hb)

theorem eq_of_mem_stored {c : Word} {h : List (Moment (World Ledger))}
    (hm : ∀ m ∈ h, Presents c m.world) : ∀ a ∈ stored (surroundings Ledger.answer) h, a = c := by
  intro a ha
  obtain ⟨m, hmem, heq⟩ := List.mem_filterMap.1 ha
  rw [(hm m hmem).challenge] at heq
  exact (Option.some.inj heq).symm

/-- Two workers have a solution for a challenge, and the first one claims and sends it. Then another
challenge replaces it, for which the first worker sends a solution too. When the second worker comes
to claim the old challenge, that is not the one that was claimed last. -/
theorem exists_run_of_two {crew : Crew} {phases : List Phase} {w : World Ledger} {c d : Word}
    (h₀ : phases[0]? = some .ready) (h₁ : phases[1]? = some .ready) (hd : crew.dismissed = false)
    (hcap : crew.settings.cap ≠ 0) (hlast : crew.lastClaimed = none) (hne : c ≠ d)
    (present : Presents c w) :
    ∃ h sc, Run (surroundings Ledger.answer) ⟨crew, phases, w⟩ h sc ∧
      Settled (stored (surroundings Ledger.answer) h) ∧ calls h = [c, d, c] := by
  let n := Nonce.ofNat 0
  have fresh : crew.lastClaimed ≠ some c := by
    rw [hlast]
    exact nofun
  -- Both workers find a solution, and the first one sends it.
  have search₀ := plays_search crew h₀ present hd hcap fresh n
  obtain ⟨h₀, h₁⟩ := phases_set_of h₀ (by decide) h₁ (.claiming (easyRound c) n)
  generalize phases.set 0 _ = phases at search₀ h₀ h₁
  have search₁ := plays_search crew h₁ present hd hcap fresh n
  obtain ⟨h₁, h₀⟩ := phases_set_of h₁ (by decide) h₀ (.claiming (easyRound c) n)
  generalize phases.set 1 _ = phases at search₁ h₀ h₁
  obtain ⟨w₁, present₁, submit₀⟩ := plays_submit crew h₀ present fresh
  obtain ⟨h₀, h₁⟩ := phases_set_of h₀ (by decide) h₁ (.ready)
  generalize phases.set 0 _ = phases at submit₀ h₀ h₁
  obtain ⟨earlier, run₁, hcalls₁, hm₁⟩ := (search₀.trans search₁).trans submit₀
  -- Another challenge is stored, and the first worker solves and sends it.
  have change : (surroundings Ledger.answer).change w₁
      { w₁ with store := (w₁.store.put Key.currentChallenge d.toBytes).2 } :=
    .inl ⟨Key.currentChallenge, d.toBytes, rfl⟩
  have present₂ := present₁.put_challenge d
  have other : some c ≠ some d := fun heq => hne (Option.some.inj heq)
  let second : Crew := { crew with lastClaimed := some c, submissions := crew.submissions + 1 }
  have search₂ := plays_search second h₀ present₂ hd hcap other n
  obtain ⟨h₀, h₁⟩ := phases_set_of h₀ (by decide) h₁ (.claiming (easyRound d) n)
  generalize phases.set 0 _ = phases at search₂ h₀ h₁
  obtain ⟨w₃, present₃, submit₂⟩ := plays_submit second h₀ present₂ other
  obtain ⟨h₀, h₁⟩ := phases_set_of h₀ (by decide) h₁ (.ready)
  generalize phases.set 0 _ = phases at submit₂ h₀ h₁
  -- The second worker comes to claim the old challenge.
  let third : Crew := { second with lastClaimed := some d, submissions := second.submissions + 1 }
  obtain ⟨w₄, -, submit₃⟩ := plays_submit third h₁ present₃ other.symm
  obtain ⟨later, run₂, hcalls₂, hm₂⟩ := (search₂.trans submit₂).trans submit₃
  have run := (Run.snoc (run₁ _ rfl) (.change change)).trans (run₂ _ rfl)
  refine ⟨_, _, run, ?_, ?_⟩
  · rw [stored_append]
    refine settled_of_replaced hne (eq_of_mem_stored hm₂) (eq_of_mem_stored fun m hm => ?_)
    obtain rfl | hm := List.mem_cons.1 hm
    · exact present₁
    · exact hm₁ m hm
  · rw [calls_append, hcalls₂]
    exact congrArg ([c, d] ++ ·) hcalls₁

/-- Two workers of a crew may send solutions for the same challenge. -/
theorem exists_run_calling_twice (account : Address) (settings : Settings)
    (hw : 2 ≤ settings.workers) (hcap : settings.cap ≠ 0) {c d : Word} (hne : c ≠ d) :
    ∃ h sc, Run (surroundings Ledger.answer) (begin account settings (easyWorld c)) h sc ∧
      Settled (stored (surroundings Ledger.answer) h) ∧ calls h = [c, d, c] := by
  have ready : ∀ i, i < settings.workers →
      (List.replicate settings.workers Phase.ready)[i]? = some .ready := fun i hi => by
    rw [List.getElem?_replicate, if_pos hi]
  exact exists_run_of_two (ready 0 (by omega)) (ready 1 hw) rfl hcap rfl hne (presents_easyWorld c)

/-- Whatever the chain does and whatever is written, a crew keeps to one solution for a challenge
that does not come back: this is so just when one worker mines alone, or no worker searches. -/
theorem calls_nodup_iff (account : Address) (settings : Settings) :
    (∀ (χ : Type) (answerChain : Program.Answerer Call.Answer χ) (w : World χ)
        (h : List (Moment (World χ))) (sc : Scene (World χ)),
      Run (surroundings answerChain) (begin account settings w) h sc →
        Settled (stored (surroundings answerChain) h) → (calls h).Nodup) ↔
      settings.workers ≤ 1 ∨ settings.cap = 0 := by
  constructor
  · intro always
    refine Decidable.byContradiction fun hmore => ?_
    obtain ⟨hw, hcap⟩ := not_or.1 hmore
    obtain ⟨h, sc, run, hs, hcalls⟩ := exists_run_calling_twice account settings (by omega) hcap
      (show (1 : Word) ≠ 2 by decide)
    have nodup := always _ _ _ _ _ run hs
    rw [hcalls] at nodup
    simp at nodup
  · rintro (hw | hcap) χ answerChain w h sc run hs
    · exact calls_nodup_of_single run hw hs
    · rw [(searchless_run run hcap).2]
      exact List.nodup_nil

/-- Two workers send three solutions for two challenges. -/
theorem two_workers_call_twice :
    ∃ h sc, Run (surroundings Ledger.answer) (begin 0 { workers := 2 } (easyWorld 1)) h sc ∧
      Settled (stored (surroundings Ledger.answer) h) ∧ ¬(calls h).Nodup := by
  obtain ⟨h, sc, run, hs, hcalls⟩ := exists_run_calling_twice 0 { workers := 2 } (by decide)
    (by decide) (show (1 : Word) ≠ 2 by decide)
  refine ⟨h, sc, run, hs, ?_⟩
  rw [hcalls]
  simp

end Mining
end PriceOracle
