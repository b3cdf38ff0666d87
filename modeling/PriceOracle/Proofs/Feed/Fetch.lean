import Mathlib.Algebra.Order.Floor.Div
import PriceOracle.Config.Basic
import PriceOracle.Feed.Fetch

/-!
# PriceOracle.Proofs.Feed.Fetch

How a fetch comes to its end. `leftAt` is what is left of the budget when an attempt begins, if
those before it have failed; nothing but attempts and pauses takes of it.

* `ending_within`: attempts follow one another until one is granted or nothing is left.
* `leftAt_add_le`: every attempt that fails costs half a second at least, or else the rest.
* `spent_runFrom`: as long as attempts keep within what is left, so does the fetch.
* `account_within`: when a fetch ends, after how many attempts, and with what.
* `fetch_account`: this is so just when the clock can show the deadline.
* `exists_no_deadline`: a timeout with which it cannot.
-/

namespace PriceOracle
namespace Fetch

namespace Outcome

/-- What a fetch ends with when its request was granted. -/
def granted? : Outcome → Option (Except Error Bytes)
  | .body content => some (.ok content)
  | .brokenBody => some (.error .brokenBody)
  | .status _ _ | .transport => none

/-- The failure of a request that was not granted. -/
def failure? : Outcome → Option Last
  | .status code payload => some (.status code payload)
  | .transport => some .transport
  | .body _ | .brokenBody => none

/-- The pause that follows, if there is time for all of it. -/
def pause : Outcome → Nat
  | .status _ _ => statusPause
  | .transport => transportPause
  | .body _ | .brokenBody => 0

section Judge

variable {o : Outcome} {result : Except Error Bytes} {pause : Nat} {last : Last}

theorem judge_eq_stop_iff : judge o = .stop result ↔ o.granted? = some result := by
  cases o <;> simp [judge, granted?]

theorem judge_eq_retry_iff :
    judge o = .retry pause last ↔ o.failure? = some last ∧ pause = o.pause := by
  cases o <;> simp [judge, failure?, Outcome.pause, eq_comm, and_comm]

theorem granted?_eq_none_iff : o.granted? = none ↔ ∃ last, o.failure? = some last := by
  cases o <;> simp [granted?, failure?]

theorem statusPause_le (h : o.granted? = none) : statusPause ≤ o.pause := by
  cases o with
  | body | brokenBody => cases h
  | status => exact Nat.le_refl statusPause
  | transport =>
    show statusPause ≤ transportPause
    decide

theorem granted?_ne_timeout : o.granted? ≠ some (.error (.timeout last)) := by
  cases o <;> simp [granted?]

theorem failure?_ne_noTimeLeft : o.failure? ≠ some .noTimeLeft := by
  cases o <;> simp [failure?]

end Judge

end Outcome

/-- Was the request of this attempt refused? -/
def Attempt.Fails (a : Attempt) : Prop := a.outcome.granted? = none

/-- What is left of the budget after `n` attempts that have failed, and the pauses behind them. -/
def leftAt (attempt : Nat → Attempt) (budget : Nat) : (n : Nat) → Nat
  | 0 => budget
  | n + 1 => leftAt attempt budget n - (attempt n).took - (attempt n).outcome.pause

/-- The failure of the last one of `n` attempts. -/
def lastOf (attempt : Nat → Attempt) : (n : Nat) → Last
  | 0 => .noTimeLeft
  | n + 1 => (attempt n).outcome.failure?.getD .noTimeLeft

section Run

variable {attempt : Nat → Attempt} {budget n : Nat} {r : Run}

/-- A fetch goes on while there is time, and it ends at a granted request or at the deadline. -/
inductive Ending (attempt : Nat → Attempt) (budget : Nat) (r : Run) : Prop where
  | granted {n : Nat} {result : Except Error Bytes} :
      r.attempts = n + 1 → (∀ i < n, (attempt i).Fails) → (∀ i ≤ n, 0 < leftAt attempt budget i) →
      (attempt n).outcome.granted? = some result → r.result = result → Ending attempt budget r
  | timeout :
      (∀ i < r.attempts, (attempt i).Fails) → (∀ i < r.attempts, 0 < leftAt attempt budget i) →
      leftAt attempt budget r.attempts = 0 →
      r.result = .error (.timeout (lastOf attempt r.attempts)) → Ending attempt budget r

/-- A pause is cut to what is left. -/
theorem leftAt_succ_eq {done left : Nat} (hleft : left = leftAt attempt budget done) :
    left - (attempt done).took - min (attempt done).outcome.pause (left - (attempt done).took) =
      leftAt attempt budget (done + 1) := by
  rw [leftAt]
  omega

theorem ending_runFrom {done spent left : Nat} {last : Last}
    (hfails : ∀ i < done, (attempt i).Fails) (hpos : ∀ i < done, 0 < leftAt attempt budget i)
    (hleft : left = leftAt attempt budget done) (hlast : last = lastOf attempt done) :
    Ending attempt budget (runFrom attempt done spent left last) := by
  fun_induction runFrom attempt done spent left last with
  | case1 done spent last =>
    exact .timeout hfails hpos hleft.symm (by rw [hlast])
  | case2 done spent left last hne a result hstop =>
    refine .granted rfl hfails ?_ (Outcome.judge_eq_stop_iff.1 hstop) rfl
    intro i hi
    obtain hi | rfl := Nat.lt_or_eq_of_le hi
    · exact hpos i hi
    · omega
  | case3 done spent left last hne a pause last' hretry hpause rest ih =>
    obtain ⟨hfailure, rfl⟩ := Outcome.judge_eq_retry_iff.1 hretry
    refine ih ?_ ?_ (leftAt_succ_eq hleft) ?_
    · intro i hi
      obtain hi | rfl := Nat.lt_succ_iff_lt_or_eq.1 hi
      · exact hfails i hi
      · exact Outcome.granted?_eq_none_iff.2 ⟨last', hfailure⟩
    · intro i hi
      obtain hi | rfl := Nat.lt_succ_iff_lt_or_eq.1 hi
      · exact hpos i hi
      · omega
    · show last' = a.outcome.failure?.getD .noTimeLeft
      rw [hfailure]
      rfl

theorem ending_within (attempt : Nat → Attempt) (budget : Nat) :
    Ending attempt budget (within attempt budget) :=
  ending_runFrom nofun nofun rfl rfl

/-! ## The number of attempts -/

theorem leftAt_antitone (attempt : Nat → Attempt) (budget : Nat) :
    Antitone (leftAt attempt budget) := by
  refine antitone_nat_of_succ_le fun n => ?_
  rw [leftAt]
  omega

theorem leftAt_add_le (hfails : ∀ i < n, (attempt i).Fails) (hpos : 0 < leftAt attempt budget n) :
    leftAt attempt budget n + n * statusPause ≤ budget := by
  induction n with
  | zero => rw [leftAt, Nat.zero_mul, Nat.add_zero]
  | succ n ih =>
    have hpause := Outcome.statusPause_le (hfails n (Nat.lt_succ_self n))
    have hle := ih (fun i hi => hfails i (Nat.lt_succ_of_lt hi))
    rw [leftAt] at hpos ⊢
    rw [Nat.succ_mul]
    have := hle (by omega)
    omega

theorem Ending.lt_attempts_iff (h : Ending attempt budget r) :
    n < r.attempts ↔ 0 < leftAt attempt budget n ∧ ∀ i < n, (attempt i).Fails := by
  cases h with
  | @granted m result hm hfails hpos hgranted _ =>
    rw [hm, Nat.lt_succ_iff]
    constructor
    · intro hn
      exact ⟨hpos n hn, fun i hi => hfails i (Nat.lt_of_lt_of_le hi hn)⟩
    · rintro ⟨-, hfails'⟩
      by_contra hn
      have hfail : (attempt m).outcome.granted? = none := hfails' m (Nat.lt_of_not_le hn)
      rw [hgranted] at hfail
      cases hfail
  | timeout hfails hpos hnone _ =>
    constructor
    · intro hn
      exact ⟨hpos n hn, fun i hi => hfails i (Nat.lt_trans hi hn)⟩
    · rintro ⟨hleft, -⟩
      by_contra hn
      have hle : leftAt attempt budget n ≤ leftAt attempt budget r.attempts :=
        leftAt_antitone attempt budget (Nat.le_of_not_lt hn)
      omega

theorem attempts_le_of_lt_iff {k : Nat}
    (h : ∀ n, n < k ↔ 0 < leftAt attempt budget n ∧ ∀ i < n, (attempt i).Fails) :
    k ≤ budget ⌈/⌉ statusPause := by
  cases k with
  | zero => exact Nat.zero_le _
  | succ k =>
    obtain ⟨hpos, hfails⟩ := (h k).1 (Nat.lt_succ_self k)
    have hle := leftAt_add_le hfails hpos
    by_contra hlt
    have hceil : budget ⌈/⌉ statusPause ≤ k := by omega
    rw [ceilDiv_le_iff_le_mul (by decide), Nat.mul_comm] at hceil
    omega

/-! ## The result -/

theorem Ending.result_of_granted (h : Ending attempt budget r) (hn : n < r.attempts)
    {result : Except Error Bytes} (hresult : (attempt n).outcome.granted? = some result) :
    r.attempts = n + 1 ∧ r.result = result := by
  cases h with
  | @granted m result' hm hfails _ hgranted hr =>
    obtain hlt | rfl := Nat.lt_or_eq_of_le (Nat.lt_succ_iff.1 (hm ▸ hn))
    · have hfail : (attempt n).outcome.granted? = none := hfails n hlt
      rw [hresult] at hfail
      cases hfail
    · rw [hgranted, Option.some.injEq] at hresult
      exact ⟨hm, hr.trans hresult⟩
  | timeout hfails =>
    have hfail : (attempt n).outcome.granted? = none := hfails n hn
    rw [hresult] at hfail
    cases hfail

theorem Ending.result_of_fails (h : Ending attempt budget r)
    (hfails : ∀ n < r.attempts, (attempt n).Fails) :
    r.result = .error (.timeout (lastOf attempt r.attempts)) := by
  cases h with
  | @granted m result hm _ _ hgranted _ =>
    have hfail : (attempt m).outcome.granted? = none := hfails m (by omega)
    rw [hgranted] at hfail
    cases hfail
  | timeout _ _ _ hr => exact hr

theorem lastOf_eq_noTimeLeft_iff (hfails : ∀ i < n, (attempt i).Fails) :
    lastOf attempt n = .noTimeLeft ↔ n = 0 := by
  cases n with
  | zero => simp [lastOf]
  | succ n =>
    obtain ⟨last, hlast⟩ := Outcome.granted?_eq_none_iff.1 (hfails n (Nat.lt_succ_self n))
    simp only [lastOf, hlast, Option.getD_some, Nat.succ_ne_zero, iff_false]
    rintro rfl
    exact Outcome.failure?_ne_noTimeLeft hlast

theorem Ending.noTimeLeft_iff (h : Ending attempt budget r) :
    r.result = .error (.timeout .noTimeLeft) ↔ r.attempts = 0 := by
  cases h with
  | @granted m result hm _ _ hgranted hr =>
    rw [hr, hm]
    simp only [Nat.succ_ne_zero, iff_false]
    rintro rfl
    exact Outcome.granted?_ne_timeout hgranted
  | timeout hfails _ _ hr =>
    rw [hr, Except.error.injEq, Error.timeout.injEq]
    exact lastOf_eq_noTimeLeft_iff hfails

/-! ## The time -/

theorem le_attempts (attempt : Nat → Attempt) (done spent left : Nat) (last : Last) :
    done ≤ (runFrom attempt done spent left last).attempts := by
  fun_induction runFrom attempt done spent left last with
  | case1 => exact Nat.le_refl _
  | case2 => exact Nat.le_succ _
  | case3 done spent left last hne a pause last' hretry hpause rest ih => exact Nat.le_of_succ_le ih

/-- Attempts that keep within what is left keep the fetch within it. One that does not end before
the deadline ends at it. -/
theorem spent_runFrom {done spent left : Nat} {last : Last}
    (hleft : left = leftAt attempt budget done) :
    let r := runFrom attempt done spent left last
    (∀ n, done ≤ n → n < r.attempts → (attempt n).took ≤ leftAt attempt budget n) →
      r.spent ≤ spent + left ∧
        ∀ last', r.result = .error (.timeout last') → r.spent = spent + left := by
  fun_induction runFrom attempt done spent left last with
  | case1 done spent last =>
    intro r _
    exact ⟨Nat.le_refl _, fun _ _ => rfl⟩
  | case2 done spent left last hne a result hstop =>
    intro r htime
    have htook : a.took ≤ left := hleft ▸ htime done (Nat.le_refl _) (Nat.lt_succ_self _)
    refine ⟨Nat.add_le_add_left htook _, fun last' hresult => ?_⟩
    obtain rfl : result = .error (.timeout last') := hresult
    exact absurd (Outcome.judge_eq_stop_iff.1 hstop) Outcome.granted?_ne_timeout
  | case3 done spent left last hne a pause last' hretry hpause rest ih =>
    intro r htime
    have htook : a.took ≤ left :=
      hleft ▸ htime done (Nat.le_refl _) (le_attempts attempt (done + 1) _ _ _)
    have hrest : rest ≤ left - a.took := Nat.min_le_right _ _
    obtain ⟨-, rfl⟩ := Outcome.judge_eq_retry_iff.1 hretry
    have hsum : spent + a.took + rest + (left - a.took - rest) = spent + left := by omega
    rw [← hsum]
    exact ih (leftAt_succ_eq hleft) fun n hn => htime n (Nat.le_of_succ_le hn)

/-- When a fetch ends, after how many attempts, and with what. -/
structure Account (attempt : Nat → Attempt) (budget : Nat) (r : Run) : Prop where
  /-- Attempts are made as long as there is time and none of them was granted. -/
  made : ∀ n, n < r.attempts ↔ 0 < leftAt attempt budget n ∧ ∀ i < n, (attempt i).Fails
  idle : r.attempts = 0 ↔ budget = 0
  /-- There are no more of them than begun half seconds. -/
  few : r.attempts ≤ budget ⌈/⌉ statusPause
  /-- What the first granted attempt brings is the result. -/
  granted : ∀ n < r.attempts, ∀ result, (attempt n).outcome.granted? = some result →
    r.attempts = n + 1 ∧ r.result = result
  /-- If there is none, the failure of the last attempt is. -/
  refused : (∀ n < r.attempts, (attempt n).Fails) →
    r.result = .error (.timeout (lastOf attempt r.attempts))
  noTimeLeft : r.result = .error (.timeout .noTimeLeft) ↔ budget = 0
  /-- As long as attempts keep within what is left, so does the fetch. One that is timed out ends
  at the deadline. -/
  time : (∀ n < r.attempts, (attempt n).took ≤ leftAt attempt budget n) →
    r.spent ≤ budget ∧ ∀ last, r.result = .error (.timeout last) → r.spent = budget

theorem account_within (attempt : Nat → Attempt) (budget : Nat) :
    Account attempt budget (within attempt budget) := by
  have hend := ending_within attempt budget
  generalize hr : within attempt budget = r at hend ⊢
  have hmade : ∀ n, n < r.attempts ↔ 0 < leftAt attempt budget n ∧ ∀ i < n, (attempt i).Fails :=
    fun n => hend.lt_attempts_iff
  have hnone : r.attempts = 0 ↔ budget = 0 := by
    have hfirst := hmade 0
    rw [leftAt] at hfirst
    constructor
    · intro h
      by_contra hb
      have := hfirst.2 ⟨Nat.pos_of_ne_zero hb, nofun⟩
      omega
    · intro h
      by_contra hr
      have := (hfirst.1 (Nat.pos_of_ne_zero hr)).1
      omega
  refine ⟨hmade, hnone, attempts_le_of_lt_iff hmade, ?_, hend.result_of_fails,
    hend.noTimeLeft_iff.trans hnone, ?_⟩
  · intro n hn result hresult
    exact hend.result_of_granted hn hresult
  · subst hr
    intro htime
    have hspent := @spent_runFrom attempt budget 0 0 budget .noTimeLeft rfl fun n _ => htime n
    rwa [Nat.zero_add] at hspent

/-! ## The deadline -/

section Deadline

variable {clock : Nat}

theorem run_of_lt (hshown : clock + budget < clockEnd) :
    run attempt clock budget = some (within attempt budget) := by
  rw [run, deadline?, if_pos hshown, Option.map_some, Nat.add_sub_cancel_left]

theorem run_of_le (hbeyond : clockEnd ≤ clock + budget) : run attempt clock budget = none := by
  rw [run, deadline?, if_neg (Nat.not_lt.2 hbeyond), Option.map_none]

end Deadline

/-- Whatever the attempts come to and however long they take, a fetch comes to an end, and to the
right one, just when the clock can show its deadline. Otherwise it comes to none. -/
theorem fetch_account (attempt : Nat → Attempt) (clock budget : Nat) :
    ((∃ r, run attempt clock budget = some r ∧ Account attempt budget r) ↔
      clock + budget < clockEnd) ∧
    (run attempt clock budget = none ↔ clockEnd ≤ clock + budget) := by
  obtain hshown | hbeyond := Nat.lt_or_ge (clock + budget) clockEnd
  · have hrun : run attempt clock budget = some (within attempt budget) := run_of_lt hshown
    refine ⟨iff_of_true ⟨_, hrun, account_within attempt budget⟩ hshown,
      iff_of_false ?_ (Nat.not_le.2 hshown)⟩
    rw [hrun]
    exact Option.some_ne_none _
  · have hrun : run attempt clock budget = none := run_of_le hbeyond
    refine ⟨iff_of_false ?_ (Nat.not_lt.2 hbeyond), iff_of_true hrun hbeyond⟩
    rintro ⟨r, hr, -⟩
    rw [hrun] at hr
    cases hr

/-- An attempt that is granted at once. -/
def prompt (_ : Nat) : Attempt := ⟨.body [], 0⟩

/-- With the greatest number of seconds that can be set, the program stops at a fetch whose first
attempt would be granted at once, whatever the clock shows. -/
theorem exists_no_deadline :
    ({ service := { fetchTimeout := 2 ^ 64 - 1 } } : Config).fault? = none ∧
      run prompt 0 (10 * second) = some ⟨.ok [], 1, 0⟩ ∧
      ∀ clock, run prompt clock ((2 ^ 64 - 1) * second) = none := by
  refine ⟨by decide +kernel, ?_, fun clock => run_of_le ?_⟩
  · rw [run_of_lt (by decide), within, runFrom, if_neg (by decide)]
    rfl
  · calc clockEnd ≤ (2 ^ 64 - 1) * second := by decide
      _ ≤ clock + (2 ^ 64 - 1) * second := Nat.le_add_left _ clock

end Run

end Fetch
end PriceOracle
