import PriceOracle.Lifecycle
import PriceOracle.Proofs.First

/-!
# PriceOracle.Proofs.Lifecycle

The wait for parts to stop, for any schedule of what they do meanwhile. The looks are numbered; the
look `k` is at the time `k * poll`, in whichever unit the times are counted.

* `mark_wasSlow`: one look adds the parts that still run, if it comes after the time to warn.
* `waitFrom_eq_some_iff`: the wait goes on to the first look at which no part runs.
* `wait_account`: when the wait ends, and who was slow.
-/

namespace PriceOracle

/-- A part runs from its start until it has stopped. -/
def Component.Runs (c : Component) (time : Nat) : Prop :=
  c.stateAt time = .starting ∨ c.stateAt time = .running ∨ c.stateAt time = .stopping

instance (c : Component) (time : Nat) : Decidable (c.Runs time) :=
  inferInstanceAs (Decidable (_ ∨ _ ∨ _))

namespace StopReport

def QuietAt (components : List Component) (time : Nat) : Prop := ∀ c ∈ components, ¬c.Runs time

/-- A part ran at one of the first `k` looks, and that one came after the time to warn. -/
def WasSlow (poll warnAfter k : Nat) (c : Component) : Prop :=
  ∃ j < k, warnAfter < j * poll ∧ c.Runs (j * poll)

instance (poll warnAfter k : Nat) (c : Component) : Decidable (WasSlow poll warnAfter k c) :=
  inferInstanceAs (Decidable (∃ j < k, _))

section Wait

variable {components : List Component} {poll warnAfter k : Nat}

theorem runsAt_eq (time : Nat) (c : Component) : runsAt time c = decide (c.Runs time) := by
  rw [Bool.eq_iff_iff, decide_eq_true_iff, runsAt, Component.Runs]
  cases c.stateAt time <;> simp [Lifecycle.isRunning]

theorem not_wasSlow_zero (c : Component) : ¬WasSlow poll warnAfter 0 c := by
  rintro ⟨j, hj, -⟩
  exact Nat.not_lt_zero j hj

theorem wasSlow_succ_iff {c : Component} : WasSlow poll warnAfter (k + 1) c ↔
    WasSlow poll warnAfter k c ∨ warnAfter < k * poll ∧ c.Runs (k * poll) := by
  constructor
  · rintro ⟨j, hj, h⟩
    obtain hj | rfl := Nat.lt_succ_iff_lt_or_eq.1 hj
    · exact .inl ⟨j, hj, h⟩
    · exact .inr h
  · rintro (⟨j, hj, h⟩ | h)
    · exact ⟨j, Nat.lt_succ_of_lt hj, h⟩
    · exact ⟨k, Nat.lt_succ_self k, h⟩

/-- The parts with their marks, as they are before the look `k`. -/
def marks (components : List Component) (poll warnAfter k : Nat) : List (Component × Bool) :=
  components.map fun c => (c, decide (WasSlow poll warnAfter k c))

theorem mark_wasSlow : mark warnAfter (k * poll) (marks components poll warnAfter k) =
    marks components poll warnAfter (k + 1) := by
  rw [mark, marks, marks, List.map_map]
  refine List.map_congr_left fun c _ => ?_
  simp only [Function.comp_apply, wasSlow_succ_iff, Bool.decide_or, Bool.decide_and, runsAt_eq]

theorem any_marks {time : Nat} :
    ((marks components poll warnAfter k).any fun (c, _) => runsAt time c) = false ↔
      QuietAt components time := by
  simp [marks, QuietAt, runsAt_eq]

theorem names_marks : ((marks components poll warnAfter k).filter (·.2)).map (·.1.name) =
    (components.filter fun c => decide (WasSlow poll warnAfter k c)).map (·.name) := by
  rw [marks, List.filter_map, List.map_map]
  rfl

theorem waitFrom_eq_some_iff {looks : Nat} {report : StopReport} :
    waitFrom poll warnAfter (marks components poll warnAfter k) (k * poll) looks = some report ↔
      ∃ n < k + looks, IsFirst (fun j => QuietAt components (j * poll)) k n ∧
        report = ⟨n * poll,
          (components.filter fun c => decide (WasSlow poll warnAfter n c)).map (·.name)⟩ := by
  induction looks generalizing k with
  | zero =>
    simp only [waitFrom, reduceCtorEq, false_iff]
    rintro ⟨n, hlt, hfirst, -⟩
    exact absurd hfirst.le (Nat.not_le.2 hlt)
  | succ looks ih =>
    rw [waitFrom]
    by_cases hquiet : QuietAt components (k * poll)
    · have hfirst := @isFirst_iff_eq fun j => QuietAt components (j * poll)
      rw [if_neg (by rw [any_marks.2 hquiet]; decide), names_marks, Option.some.injEq]
      constructor
      · rintro rfl
        exact ⟨k, by omega, (hfirst hquiet).2 rfl, rfl⟩
      · rintro ⟨n, -, hn, rfl⟩
        obtain rfl := (hfirst hquiet).1 hn
        rfl
    · have hany : ((marks components poll warnAfter k).any fun (c, _) => runsAt (k * poll) c) =
          true := by
        rw [← Bool.not_eq_false, any_marks]
        exact hquiet
      rw [if_pos hany, mark_wasSlow, ← Nat.succ_mul, ih, Nat.add_right_comm k 1 looks]
      simp only [isFirst_succ_iff (P := fun j => QuietAt components (j * poll)) hquiet,
        Nat.add_assoc]

/-- The wait ends at the first look at which no part runs, and tells the time of that look. It
tells, in their order, the parts that ran at an earlier look after the time to warn, whether or not
they had stopped in between. -/
theorem wait_account (components : List Component) (poll warnAfter looks : Nat)
    (report : StopReport) :
    wait components poll warnAfter looks = some report ↔
      ∃ k < looks, QuietAt components (k * poll) ∧ (∀ j < k, ¬QuietAt components (j * poll)) ∧
        report = ⟨k * poll,
          (components.filter fun c => decide (WasSlow poll warnAfter k c)).map (·.name)⟩ := by
  have hstart : components.map (·, false) = marks components poll warnAfter 0 := by
    refine List.map_congr_left fun c _ => ?_
    rw [decide_eq_false (not_wasSlow_zero c)]
  have hwait : wait components poll warnAfter looks =
      waitFrom poll warnAfter (marks components poll warnAfter 0) (0 * poll) looks := by
    rw [wait, hstart, Nat.zero_mul]
  rw [hwait, waitFrom_eq_some_iff]
  simp only [isFirst_zero_iff, Nat.zero_add, and_assoc]

/-- The second part has stopped before it is time to warn, and comes back. -/
example : wait
    [⟨"a", fun t => if t < 1500 then .stopping else .stopped⟩,
      ⟨"b", fun t => if t < 500 ∨ 1000 ≤ t ∧ t < 2000 then .running else .stopped⟩] 500 700 10 =
    some ⟨2000, ["a", "b"]⟩ := by
  decide

end Wait

end StopReport
end PriceOracle
