import PriceOracle.Mining.Solver
import PriceOracle.Proofs.First

/-!
# PriceOracle.Proofs.Mining.Search

Searches of one solver, one after another, while others call `stop` and `resume` at any time. What
a search finds in the flag at each of its steps (`looks`) decides what it answers.

* `seek_eq_some_iff`: a search ends at the first draw that solves, unless it is stopped before.
* `solver_run`, `Session.Flagged.run`: no search touches the one flag, and the other one is up just
  while a search tries its draws.
* `Search.Next.due`, `answers_run_moves`: no step changes what a search is going to answer.
* `sessions_account`: what each search of a session answers.
-/

namespace PriceOracle
namespace Mining

section Seek

variable {accepts : Nonce → Bool} {draw : Nat → Nonce} {stopped : Nat → Bool}

theorem seek_eq_some_iff {first left : Nat} {nonce : Nonce} :
    seek accepts draw stopped first left = some nonce ↔
      ∃ n < first + left, IsFirst (fun i => stopped i = true ∨ accepts (draw i) = true) first n ∧
        stopped n = false ∧ nonce = draw n := by
  induction left generalizing first with
  | zero =>
    simp only [seek, reduceCtorEq, false_iff]
    rintro ⟨n, hlt, hfirst, -⟩
    exact absurd hfirst.le (Nat.not_le.2 hlt)
  | succ left ih =>
    have hhere := @isFirst_iff_eq fun i => stopped i = true ∨ accepts (draw i) = true
    have hnext := @isFirst_succ_iff fun i => stopped i = true ∨ accepts (draw i) = true
    rw [seek]
    by_cases hstop : stopped first = true
    · rw [if_pos hstop]
      simp only [reduceCtorEq, false_iff]
      rintro ⟨n, -, hfirst, hheard, -⟩
      obtain rfl := (hhere (.inl hstop)).1 hfirst
      rw [hheard] at hstop
      cases hstop
    · rw [if_neg hstop]
      by_cases haccepts : accepts (draw first) = true
      · rw [if_pos haccepts, Option.some.injEq]
        constructor
        · rintro rfl
          exact ⟨first, by omega, (hhere (.inr haccepts)).2 rfl, Bool.eq_false_iff.2 hstop, rfl⟩
        · rintro ⟨n, -, hfirst, -, rfl⟩
          rw [(hhere (.inr haccepts)).1 hfirst]
      · rw [if_neg haccepts, ih, Nat.add_right_comm first 1 left]
        simp only [hnext (not_or.2 ⟨hstop, haccepts⟩), Nat.add_assoc]

/-- A search that is not stopped ends at the first draw that is accepted. -/
theorem isFirst_and_heard_iff {n : Nat} :
    IsFirst (fun i => stopped i = true ∨ accepts (draw i) = true) 0 n ∧ stopped n = false ↔
      (∀ i ≤ n, stopped i = false) ∧ accepts (draw n) = true ∧
        ∀ i < n, accepts (draw i) = false := by
  rw [isFirst_zero_iff]
  simp only [not_or, Bool.not_eq_true]
  constructor
  · rintro ⟨⟨hn, hbefore⟩, hheard⟩
    refine ⟨fun i hi => ?_, hn.resolve_left (by rw [hheard]; decide), fun i hi => (hbefore i hi).2⟩
    obtain hi | rfl := Nat.lt_or_eq_of_le hi
    · exact (hbefore i hi).1
    · exact hheard
  · rintro ⟨hheard, hn, hbefore⟩
    exact ⟨⟨.inr hn, fun i hi => ⟨hheard i (Nat.le_of_lt hi), hbefore i hi⟩⟩,
      hheard n (Nat.le_refl n)⟩

theorem seek_of_lt {n cap : Nat} (h : n < cap) : seek accepts draw stopped n (cap - n) =
    if stopped n then none
    else if accepts (draw n) then some (draw n)
    else seek accepts draw stopped (n + 1) (cap - (n + 1)) := by
  obtain ⟨left, hleft⟩ : ∃ left, cap - n = left + 1 := ⟨cap - n - 1, by omega⟩
  rw [hleft, seek, show cap - (n + 1) = left by omega]

end Seek

namespace Solver

namespace Search

/-- What one step of a search comes to. -/
inductive Next (task : Task) (s : Solver) : Search → Search → Solver → Prop where
  | refused : task.difficulty = 0 ∨ s.canMine = false → Next task s .called (.answered none) s
  | admitted : task.difficulty ≠ 0 → s.canMine = true → Next task s .called .admitted s
  | begun : Next task s .admitted (.trying 0) { s with isMining := true }
  | stopped {n : Nat} : s.cap ≤ n ∨ s.canMine = false → Next task s (.trying n) (.leaving none) s
  | found {n : Nat} : n < s.cap → s.canMine = true → task.divides s.miner (task.draw n) = true →
      Next task s (.trying n) (.leaving (some (task.draw n).text)) s
  | missed {n : Nat} : n < s.cap → s.canMine = true → task.divides s.miner (task.draw n) = false →
      Next task s (.trying n) (.trying (n + 1)) s
  | ended {answer : Option String} :
      Next task s (.leaving answer) (.answered answer) { s with isMining := false }
  | answered {answer : Option String} : Next task s (.answered answer) (.answered answer) s

theorem halts_iff {P : Prop} [Decidable P] {can : Bool} :
    (decide P || !can) = true ↔ P ∨ can = false := by
  rw [Bool.or_eq_true, decide_eq_true_iff, Bool.not_eq_true']

theorem next_step (task : Task) (s : Solver) (p : Search) :
    Next task s p (p.step task s).1 (p.step task s).2 := by
  cases p with
  | called =>
    by_cases h : task.difficulty = 0 ∨ s.canMine = false
    · rw [step, if_pos (halts_iff.2 h)]
      exact .refused h
    · rw [step, if_neg (mt halts_iff.1 h)]
      rw [not_or, Bool.not_eq_false] at h
      exact .admitted h.1 h.2
  | admitted => exact .begun
  | trying n =>
    by_cases h : s.cap ≤ n ∨ s.canMine = false
    · rw [step, if_pos (halts_iff.2 h)]
      exact .stopped h
    · rw [step, if_neg (mt halts_iff.1 h)]
      rw [not_or, Nat.not_le, Bool.not_eq_false] at h
      cases hdivides : task.divides s.miner (task.draw n) with
      | true => exact .found h.1 h.2 hdivides
      | false => exact .missed h.1 h.2 hdivides
  | leaving answer => exact .ended
  | answered answer => exact .answered

/-- Has the search said that it searches? -/
def isUnderWay : Search → Bool
  | .trying _ | .leaving _ => true
  | .called | .admitted | .answered _ => false

/-- How often a search has taken the flags; a search that has its answer looks no more. -/
def place? : Search → Option Nat
  | .called => some 0
  | .admitted => some 1
  | .trying n => some (n + 2)
  | .leaving _ | .answered _ => none

/-- How many steps a search has left at most. -/
def remaining (cap : Nat) : Search → Nat
  | .called => cap + 4
  | .admitted => cap + 3
  | .trying n => cap - n + 2
  | .leaving _ | .answered _ => 1

/-- What a search answers from the draw `n` on, if it finds the flag like this. -/
def tried (task : Task) (miner : Address) (cap : Nat) (flag : Nat → Bool) (n : Nat) :
    Option String :=
  (seek (task.divides miner) task.draw (fun i => !flag (i + 2)) n (cap - n)).map Nonce.text

/-- What a search is going to answer, if it finds the flag like this. -/
def due (task : Task) (miner : Address) (cap : Nat) (flag : Nat → Bool) : Search → Option String
  | .called => if task.difficulty = 0 ∨ flag 0 = false then none else tried task miner cap flag 0
  | .admitted => tried task miner cap flag 0
  | .trying n => tried task miner cap flag n
  | .leaving answer | .answered answer => answer

section Next

variable {task : Task} {s s' : Solver} {p q : Search} {flag : Nat → Bool}

theorem Next.solver (h : Next task s p q s') : ∃ isMining, s' = { s with isMining } := by
  cases h with
  | begun => exact ⟨true, rfl⟩
  | ended => exact ⟨false, rfl⟩
  | refused | admitted | stopped | found | missed | answered => exact ⟨s.isMining, rfl⟩

theorem Next.isMining (h : Next task s p q s') (hp : s.isMining = p.isUnderWay) :
    s'.isMining = q.isUnderWay := by
  cases h with
  | begun | ended => rfl
  | refused | admitted | stopped | found | missed | answered => exact hp

theorem Next.place (h : Next task s p q s') {k : Nat} (hk : q.place? = some k) :
    ∃ j, p.place? = some j ∧ k = j + 1 := by
  cases h with
  | admitted | begun | missed =>
    cases hk
    exact ⟨_, rfl, rfl⟩
  | refused | stopped | found | ended | answered => cases hk

theorem remaining_pos (cap : Nat) (p : Search) : 0 < p.remaining cap := by
  cases p <;> exact Nat.succ_pos _

theorem Next.remaining (h : Next task s p q s') :
    (∃ answer, q = .answered answer) ∨ q.remaining s.cap < p.remaining s.cap := by
  cases h with
  | refused | ended | answered => exact .inl ⟨_, rfl⟩
  | admitted | begun | stopped | found | missed =>
    simp only [Search.remaining]
    omega

/-- No step changes what a search is going to answer. -/
theorem Next.due (h : Next task s p q s') (hflag : ∀ k, p.place? = some k → flag k = s.canMine) :
    q.due task s.miner s.cap flag = p.due task s.miner s.cap flag := by
  cases h with
  | refused h =>
    rw [← hflag 0 rfl] at h
    exact (if_pos h).symm
  | admitted hdifficulty hcan =>
    rw [← hflag 0 rfl] at hcan
    refine (if_neg ?_).symm
    rw [not_or, Bool.not_eq_false]
    exact ⟨hdifficulty, hcan⟩
  | @stopped n h =>
    obtain hcap | hcan := h
    · simp only [Search.due, tried, Nat.sub_eq_zero_of_le hcap, seek, Option.map_none]
    · by_cases hcap : n < s.cap
      · have hn : flag (n + 2) = false := (hflag (n + 2) rfl).trans hcan
        simp [Search.due, tried, seek_of_lt hcap, hn]
      · simp only [Search.due, tried, Nat.sub_eq_zero_of_le (Nat.le_of_not_lt hcap), seek,
          Option.map_none]
  | @found n hcap hcan hdivides =>
    have hn : flag (n + 2) = true := (hflag (n + 2) rfl).trans hcan
    simp [Search.due, tried, seek_of_lt hcap, hn, hdivides]
  | @missed n hcap hcan hdivides =>
    have hn : flag (n + 2) = true := (hflag (n + 2) rfl).trans hcan
    simp [Search.due, tried, seek_of_lt hcap, hn, hdivides]
  | begun | ended | answered => rfl

end Next

end Search

/-! ## Sessions -/

/-- What happens while a search is under way. -/
inductive Move where
  /-- The search takes its next step. -/
  | go
  | stop
  | resume
  deriving DecidableEq

inductive Event where
  | solve (task : Task)
  | move (m : Move)

/-- A solver, the search that is under way, and what the earlier ones have answered. -/
structure Session where
  solver : Solver
  search : Option (Task × Search)
  answers : List (Option String)

namespace Session

def fresh (miner : Address) (cap : Nat) : Session := ⟨.idle miner cap, none, []⟩

/-- Who waits for a search does not begin another one. -/
def step (st : Session) : Event → Session
  | .solve task =>
    match st.search with
    | none => { st with search := some (task, .called) }
    | some _ => st
  | .move .go =>
    match st.search with
    | none => st
    | some (task, search) =>
      match search.step task st.solver with
      | (.answered answer, solver) => ⟨solver, none, st.answers ++ [answer]⟩
      | (search, solver) => ⟨solver, some (task, search), st.answers⟩
  | .move .stop => { st with solver := st.solver.stop }
  | .move .resume => { st with solver := st.solver.resume }

def run (events : List Event) (st : Session) : Session := events.foldl step st

@[simp] theorem run_nil (st : Session) : run [] st = st := rfl

@[simp] theorem run_cons (e : Event) (events : List Event) (st : Session) :
    run (e :: events) st = run events (st.step e) := rfl

end Session

/-- What a move leaves of the flag. -/
def Move.leaves (can : Bool) : Move → Bool
  | .go => can
  | .stop => false
  | .resume => true

def Event.leaves (can : Bool) : Event → Bool
  | .solve _ => can
  | .move m => m.leaves can

/-- What the last call of `stop` or `resume` leaves of the flag. -/
def standing (can : Bool) (events : List Event) : Bool := events.foldl Event.leaves can

/-- What the search finds in the flag at each of its steps. -/
def looks (can : Bool) : List Move → List Bool
  | [] => []
  | .go :: moves => can :: looks can moves
  | .stop :: moves => looks false moves
  | .resume :: moves => looks true moves

section Session

variable {task : Task} {s : Solver} {st : Session} {p : Search} {flag : Nat → Bool}
  {answers : List (Option String)}

/-- A step of the search is its last one, or the search goes on. -/
theorem Session.step_go (task : Task) (s : Solver) (p : Search) (answers : List (Option String)) :
    ∃ q s', Search.Next task s p q s' ∧
      ((∃ answer, q = .answered answer ∧ Session.step ⟨s, some (task, p), answers⟩ (.move .go) =
          ⟨s', none, answers ++ [answer]⟩) ∨
        (∀ answer, q ≠ .answered answer) ∧
          Session.step ⟨s, some (task, p), answers⟩ (.move .go) =
            ⟨s', some (task, q), answers⟩) := by
  have hnext := Search.next_step task s p
  obtain ⟨q, s', hq⟩ : ∃ q s', p.step task s = (q, s') := ⟨_, _, rfl⟩
  rw [hq] at hnext
  refine ⟨q, s', hnext, ?_⟩
  simp only [Session.step, hq]
  cases q with
  | answered answer => exact .inl ⟨answer, rfl, rfl⟩
  | called | admitted | trying | leaving => exact .inr ⟨nofun, rfl⟩

/-! ## The flags -/

theorem solver_step (st : Session) (e : Event) : ∃ isMining,
    (st.step e).solver = { st.solver with canMine := e.leaves st.solver.canMine, isMining } := by
  obtain ⟨s, search, answers⟩ := st
  match search, e with
  | none, .solve _ | some _, .solve _ | none, .move .go => exact ⟨s.isMining, rfl⟩
  | _, .move .stop | _, .move .resume => exact ⟨s.isMining, rfl⟩
  | some (task, p), .move .go =>
    obtain ⟨q, s', hnext, hst⟩ := Session.step_go task s p answers
    obtain ⟨isMining, rfl⟩ := hnext.solver
    refine ⟨isMining, ?_⟩
    obtain ⟨answer, -, hst⟩ | ⟨-, hst⟩ := hst
    · rw [hst]
      rfl
    · rw [hst]
      rfl

/-- No search touches the flag that lets it search. -/
theorem solver_run (events : List Event) (st : Session) : ∃ isMining, (st.run events).solver =
    { st.solver with canMine := standing st.solver.canMine events, isMining } := by
  induction events generalizing st with
  | nil => exact ⟨st.solver.isMining, rfl⟩
  | cons e events ih =>
    obtain ⟨_, hstep⟩ := solver_step st e
    obtain ⟨isMining, hrun⟩ := ih (st.step e)
    refine ⟨isMining, ?_⟩
    rw [Session.run_cons, hrun, hstep]
    rfl

/-- The other flag is up while the search says that it searches. -/
def Session.Flagged (st : Session) : Prop :=
  st.solver.isMining = st.search.any fun (_, p) => p.isUnderWay

theorem Session.Flagged.step (h : st.Flagged) (e : Event) : (st.step e).Flagged := by
  obtain ⟨s, search, answers⟩ := st
  match search, e with
  | none, .solve _ | some _, .solve _ | none, .move .go => exact h
  | _, .move .stop | _, .move .resume => exact h
  | some (task, p), .move .go =>
    obtain ⟨q, s', hnext, ⟨answer, rfl, hst⟩ | ⟨-, hst⟩⟩ := Session.step_go task s p answers
    · rw [hst]
      exact hnext.isMining h
    · rw [hst]
      exact hnext.isMining h

theorem Session.Flagged.run (h : st.Flagged) (events : List Event) : (st.run events).Flagged := by
  induction events generalizing st with
  | nil => exact h
  | cons e events ih => exact ih (h.step e)

/-! ## What a search answers -/

theorem run_moves_of_none (moves : List Move) :
    (Session.run (moves.map .move) ⟨s, none, answers⟩).search = none ∧
      (Session.run (moves.map .move) ⟨s, none, answers⟩).answers = answers := by
  induction moves generalizing s with
  | nil => exact ⟨rfl, rfl⟩
  | cons m moves ih =>
    rw [List.map_cons, Session.run_cons]
    cases m with
    | go => exact ih
    | stop => exact @ih s.stop
    | resume => exact @ih s.resume

/-- A search that has ended has answered as it was due, whatever came between its steps. -/
theorem answers_run_moves {moves : List Move}
    (hflag : ∀ k, p.place? = some k → ∀ i can, (looks s.canMine moves)[i]? = some can →
      flag (k + i) = can)
    (hend : (Session.run (moves.map .move) ⟨s, some (task, p), answers⟩).search = none) :
    (Session.run (moves.map .move) ⟨s, some (task, p), answers⟩).answers =
      answers ++ [p.due task s.miner s.cap flag] := by
  induction moves generalizing s p with
  | nil => cases hend
  | cons m moves ih =>
    rw [List.map_cons, Session.run_cons] at hend ⊢
    cases m with
    | stop => exact @ih s.stop p hflag hend
    | resume => exact @ih s.resume p hflag hend
    | go =>
      have hhere : ∀ k, p.place? = some k → flag k = s.canMine :=
        fun k hk => hflag k hk 0 s.canMine rfl
      obtain ⟨q, s', hnext, hst⟩ := Session.step_go task s p answers
      rw [← hnext.due hhere]
      obtain ⟨answer, rfl, hst⟩ | ⟨-, hst⟩ := hst
      · rw [hst, (run_moves_of_none moves).2]
        rfl
      · obtain ⟨isMining, rfl⟩ := hnext.solver
        rw [hst] at hend ⊢
        refine @ih { s with isMining } q (fun k hk i can hcan => ?_) hend
        obtain ⟨j, hj, rfl⟩ := hnext.place hk
        rw [Nat.add_assoc, Nat.add_comm 1 i]
        exact hflag j hj (i + 1) can hcan

/-- A search ends when it is given its steps. -/
theorem search_run_moves {moves : List Move} (hsteps : p.remaining s.cap ≤ moves.count .go) :
    (Session.run (moves.map .move) ⟨s, some (task, p), answers⟩).search = none := by
  induction moves generalizing s p with
  | nil => exact absurd hsteps (Nat.not_le.2 (p.remaining_pos s.cap))
  | cons m moves ih =>
    rw [List.map_cons, Session.run_cons]
    cases m with
    | stop => exact @ih s.stop p hsteps
    | resume => exact @ih s.resume p hsteps
    | go =>
      rw [List.count_cons_self] at hsteps
      obtain ⟨q, s', hnext, ⟨answer, -, hst⟩ | ⟨hnot, hst⟩⟩ := Session.step_go task s p answers
      · rw [hst]
        exact (run_moves_of_none moves).1
      · rw [hst]
        obtain ⟨answer, hover⟩ | hlt := hnext.remaining
        · exact absurd hover (hnot answer)
        · obtain ⟨isMining, rfl⟩ := hnext.solver
          refine @ih { s with isMining } q ?_
          show q.remaining s.cap ≤ moves.count .go
          omega

/-! ## A stopped solver -/

/-- No search can get past its first look. -/
structure Session.Barred (st : Session) : Prop where
  canMine : st.solver.canMine = false
  called : ∀ search ∈ st.search, search.2 = .called

theorem Session.Barred.step (h : st.Barred) {e : Event} (he : e ≠ .move .resume) :
    (st.step e).Barred ∧ ∃ k, (st.step e).answers = st.answers ++ List.replicate k none := by
  obtain ⟨s, search, answers⟩ := st
  have hnil : answers = answers ++ List.replicate 0 none := by simp
  match search, e with
  | none, .solve task =>
    refine ⟨⟨h.canMine, ?_⟩, 0, hnil⟩
    rintro search ⟨⟩
    rfl
  | some _, .solve _ | none, .move .go => exact ⟨h, 0, hnil⟩
  | _, .move .stop => exact ⟨⟨rfl, h.called⟩, 0, hnil⟩
  | _, .move .resume => exact absurd rfl he
  | some (task, p), .move .go =>
    obtain rfl : p = .called := h.called _ rfl
    obtain ⟨q, s', hnext, hst⟩ := Session.step_go task s .called answers
    cases hnext with
    | refused _ =>
      obtain ⟨answer, hanswer, hst⟩ | ⟨hnot, -⟩ := hst
      · cases hanswer
        rw [hst]
        exact ⟨⟨h.canMine, nofun⟩, 1, rfl⟩
      · exact absurd rfl (hnot none)
    | admitted _ hcan =>
      have hno : s.canMine = false := h.canMine
      rw [hno] at hcan
      cases hcan

theorem Session.Barred.run (h : st.Barred) {events : List Event}
    (hevents : .move .resume ∉ events) :
    ∃ k, (st.run events).answers = st.answers ++ List.replicate k none := by
  induction events generalizing st with
  | nil => exact ⟨0, by simp⟩
  | cons e events ih =>
    rw [List.mem_cons, not_or] at hevents
    obtain ⟨hnext, k, hk⟩ := h.step (Ne.symm hevents.1)
    obtain ⟨k', hk'⟩ := ih hnext hevents.2
    refine ⟨k + k', ?_⟩
    rw [Session.run_cons, hk', hk, List.append_assoc, List.replicate_append_replicate]

end Session

/-! ## The account -/

section Account

variable {task : Task} {miner : Address} {cap : Nat} {flag : Nat → Bool} {text : String}

/-- The hash of a draw is a multiple of the difficulty. -/
def Task.Solves (task : Task) (miner : Address) (n : Nat) : Prop :=
  task.difficulty.toNat ∣ (digest task.challenge miner (task.draw n).text).toNat

theorem Task.divides_iff {n : Nat} :
    task.divides miner (task.draw n) = true ↔ task.Solves miner n := by
  rw [divides, decide_eq_true_iff, Solves, Nat.dvd_iff_mod_eq_zero]

theorem Task.verify_iff {n : Nat} :
    verify task.challenge miner (task.draw n).text task.difficulty = true ↔
      task.difficulty ≠ 0 ∧ task.Solves miner n := by
  rw [verify, Bool.and_eq_true, decide_eq_true_iff, decide_eq_true_iff, Solves,
    Nat.dvd_iff_mod_eq_zero]

/-- What a search answers that finds the flag like this: at its call, and then, after it has said
that it searches, before the draw `n` at its step `n + 2`. -/
structure Answered (task : Task) (miner : Address) (cap : Nat) (flag : Nat → Bool)
    (answer : Option String) : Prop where
  found : ∀ text, answer = some text ↔ task.difficulty ≠ 0 ∧ flag 0 = true ∧
    ∃ n < cap, (∀ i ≤ n, flag (i + 2) = true) ∧ task.Solves miner n ∧
      (∀ i < n, ¬task.Solves miner i) ∧ text = (task.draw n).text
  finds : answer.isSome = true ↔ task.difficulty ≠ 0 ∧ flag 0 = true ∧
    ∃ n < cap, (∀ i ≤ n, flag (i + 2) = true) ∧ task.Solves miner n
  verified : ∀ text, answer = some text →
    verify task.challenge miner text task.difficulty = true
  solved : answer = (solve ⟨miner, cap, flag 0, false⟩ task.challenge task.difficulty task.draw
    fun n => !flag (n + 2)).map Nonce.text

theorem tried_eq_some_iff : Search.tried task miner cap flag 0 = some text ↔
    ∃ n < cap, (∀ i ≤ n, flag (i + 2) = true) ∧ task.Solves miner n ∧
      (∀ i < n, ¬task.Solves miner i) ∧ text = (task.draw n).text := by
  have hends := @isFirst_and_heard_iff (task.divides miner) task.draw fun i => !flag (i + 2)
  simp only [Bool.not_eq_false'] at hends
  simp only [Search.tried, Option.map_eq_some_iff, seek_eq_some_iff, Nat.sub_zero, Nat.zero_add,
    Bool.not_eq_false', ← Task.divides_iff, Bool.not_eq_true]
  constructor
  · rintro ⟨nonce, ⟨n, hlt, hfirst, hheard, rfl⟩, rfl⟩
    obtain ⟨hflag, hn, hbefore⟩ := hends.1 ⟨hfirst, hheard⟩
    exact ⟨n, hlt, hflag, hn, hbefore, rfl⟩
  · rintro ⟨n, hlt, hflag, hn, hbefore, rfl⟩
    obtain ⟨hfirst, hheard⟩ := hends.2 ⟨hflag, hn, hbefore⟩
    exact ⟨_, ⟨n, hlt, hfirst, hheard, rfl⟩, rfl⟩

theorem due_called_eq_some_iff : Search.called.due task miner cap flag = some text ↔
    task.difficulty ≠ 0 ∧ flag 0 = true ∧
      ∃ n < cap, (∀ i ≤ n, flag (i + 2) = true) ∧ task.Solves miner n ∧
        (∀ i < n, ¬task.Solves miner i) ∧ text = (task.draw n).text := by
  rw [Search.due]
  by_cases h : task.difficulty = 0 ∨ flag 0 = false
  · rw [if_pos h]
    simp only [reduceCtorEq, false_iff]
    rintro ⟨hdifficulty, hflag, -⟩
    obtain h | h := h
    · exact hdifficulty h
    · rw [h] at hflag
      cases hflag
  · rw [if_neg h, tried_eq_some_iff]
    rw [not_or, Bool.not_eq_false] at h
    simp only [ne_eq, h, not_false_eq_true, true_and]

theorem due_called_eq_solve (task : Task) (miner : Address) (cap : Nat) (flag : Nat → Bool) :
    Search.called.due task miner cap flag = (solve ⟨miner, cap, flag 0, false⟩ task.challenge
      task.difficulty task.draw fun n => !flag (n + 2)).map Nonce.text := by
  rw [Search.due, solve]
  by_cases h : task.difficulty = 0 ∨ flag 0 = false
  · rw [if_pos h, if_pos (Search.halts_iff.2 h)]
    rfl
  · rw [if_neg h, if_neg (mt Search.halts_iff.1 h), Search.tried]
    have haccepts : task.divides miner =
        fun nonce => verify task.challenge miner nonce.text task.difficulty := by
      funext nonce
      simp only [Task.divides, verify, (not_or.1 h).1, ne_eq, not_false_eq_true, decide_true,
        Bool.true_and]
    rw [haccepts]
    rfl

theorem answered_due (task : Task) (miner : Address) (cap : Nat) (flag : Nat → Bool) :
    Answered task miner cap flag (Search.called.due task miner cap flag) where
  found := fun _ => due_called_eq_some_iff
  finds := by
    rw [Option.isSome_iff_exists]
    simp only [due_called_eq_some_iff]
    constructor
    · rintro ⟨text, hdifficulty, hflag, n, hlt, hn, hsolves, -, -⟩
      exact ⟨hdifficulty, hflag, n, hlt, hn, hsolves⟩
    · rintro ⟨hdifficulty, hflag, n, hlt, hn, hsolves⟩
      obtain ⟨m, hmn, hfirst⟩ := exists_isFirst hsolves
      obtain ⟨hm, hbefore⟩ := isFirst_zero_iff.1 hfirst
      exact ⟨_, hdifficulty, hflag, m, Nat.lt_of_le_of_lt hmn hlt,
        fun i hi => hn i (Nat.le_trans hi hmn), hm, hbefore, rfl⟩
  verified := by
    intro text h
    obtain ⟨hdifficulty, -, n, -, -, hsolves, -, rfl⟩ := due_called_eq_some_iff.1 h
    exact Task.verify_iff.2 ⟨hdifficulty, hsolves⟩
  solved := due_called_eq_solve task miner cap flag

/-- A search that has ended has answered by what it has found in the flag. -/
theorem exists_answered {s : Solver} {during : List Move} {answers : List (Option String)}
    (hend : (Session.run (during.map .move) ⟨s, some (task, .called), answers⟩).search = none) :
    ∃ answer, (Session.run (during.map .move) ⟨s, some (task, .called), answers⟩).answers =
        answers ++ [answer] ∧
      Answered task s.miner s.cap (fun k => decide ((looks s.canMine during)[k]? = some true))
        answer := by
  refine ⟨_, answers_run_moves ?_ hend, answered_due task s.miner s.cap _⟩
  rintro k ⟨⟩ i can hlook
  rw [Nat.zero_add, hlook]
  cases can <;> rfl

/-- In any session of a solver only `stop` and `resume` touch the flag that lets it search, and the
flag that it searches is down between searches. A search comes to an end, whatever is called
meanwhile, and answers as it must by what it has found in the flag. Once a solver is stopped, all
later searches answer nothing until it is resumed. -/
theorem sessions_account (miner : Address) (cap : Nat) (events : List Event) :
    let st := Session.run events (.fresh miner cap)
    st.solver.canMine = standing true events ∧
      (st.search = none → st.solver.isMining = false) ∧
      (st.search = none → ∀ task (during : List Move),
        let st' := Session.run (.solve task :: during.map .move) st
        (cap + 4 ≤ during.count .go → st'.search = none) ∧
          (st'.search = none → ∃ answer, st'.answers = st.answers ++ [answer] ∧
            Answered task miner cap
              (fun k => decide ((looks st.solver.canMine during)[k]? = some true)) answer)) ∧
      (st.search = none → st.solver.canMine = false → ∀ later, .move .resume ∉ later →
        ∃ k, (Session.run later st).answers = st.answers ++ List.replicate k none) := by
  intro st
  obtain ⟨isMining, hsolver⟩ := solver_run events (.fresh miner cap)
  have hfresh : (Session.fresh miner cap).Flagged := rfl
  have hflagged : st.Flagged := hfresh.run events
  have hcan : st.solver.canMine = standing true events := congrArg canMine hsolver
  refine ⟨hcan, ?_, ?_, ?_⟩
  · intro hnone
    rw [Session.Flagged, hnone] at hflagged
    exact hflagged
  · intro hnone task during st'
    have hst' : st' = Session.run (during.map .move)
        ⟨st.solver, some (task, .called), st.answers⟩ := by
      show Session.run (during.map .move) (st.step (.solve task)) = _
      simp only [Session.step, hnone]
    have hcap : st.solver.cap = cap := congrArg Solver.cap hsolver
    have hminer : st.solver.miner = miner := congrArg Solver.miner hsolver
    rw [hst', ← hcap, ← hminer]
    exact ⟨fun hsteps => search_run_moves hsteps, fun hend => exists_answered hend⟩
  · intro hnone hstopped later hlater
    refine Session.Barred.run ⟨hstopped, ?_⟩ hlater
    rw [hnone]
    exact nofun

end Account

end Solver
end Mining
end PriceOracle
