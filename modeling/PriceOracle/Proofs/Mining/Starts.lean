import PriceOracle.Proofs.Mining.Play

/-!
# PriceOracle.Proofs.Mining.Starts

Starts of one manager that overlap. Each start takes its steps in its own time, and so do the
workers of the crews that were launched; when all workers of a crew are gone, the manager counts as
stopped.

* `course_start`, `course_clear`: a start that nothing comes between, and the end of several crews.
* `Tidy`: what the manager is up to as long as one start at a time is past its check.
* `exclusive_iff`: then crews do not overlap, and a manager that has stopped has no workers. Two
  starts that are past the check at the same time may bring about both.
-/

namespace PriceOracle
namespace Mining

open Node Node.Action Chain

variable {σ : Type}

namespace Start

def isChecking : Start → Bool
  | .checking _ => true
  | _ => false

def isLaunching : Start → Bool
  | .launching => true
  | _ => false

theorem step_cases (answer : Program.Answerer Reply σ) (start : Start) (m : Manager) (s : σ) :
    (start = .asked ∧ ∃ failure, m.forbids = some failure ∧
      start.step answer m s = (.over (.error failure), m, s)) ∨
    (start = .asked ∧ m.forbids = none ∧
      start.step answer m s = (.checking Manager.entry.outcome, m, s)) ∨
    (∃ p, start = .checking p ∧
      ((∃ failure, start.step answer m s = (.over (.error failure), m, s)) ∨
        start.step answer m s = (.launching, { m with lifecycle := .starting }, s) ∨
        ∃ p' s', start.step answer m s = (.checking p', m, s'))) ∨
    (start = .launching ∧ start.step answer m s = (.over (.ok ()), m.launch, s)) ∨
    (∃ result, start = .over result ∧ start.step answer m s = (start, m, s)) := by
  match start with
  | .asked =>
    cases hm : m.forbids with
    | some failure => exact .inl ⟨rfl, failure, rfl, by simp only [step, hm]⟩
    | none => exact .inr (.inl ⟨rfl, rfl, by simp only [step, hm]⟩)
  | .checking (.done (.error failure)) => exact .inr (.inr (.inl ⟨_, rfl, .inl ⟨failure, rfl⟩⟩))
  | .checking (.done (.ok ())) => exact .inr (.inr (.inl ⟨_, rfl, .inr (.inl rfl)⟩))
  | .checking (.ask op next) => exact .inr (.inr (.inl ⟨_, rfl, .inr (.inr ⟨_, _, rfl⟩)⟩))
  | .launching => exact .inr (.inr (.inr (.inl ⟨rfl, rfl⟩)))
  | .over result => exact .inr (.inr (.inr (.inr ⟨result, rfl, rfl⟩)))

end Start

/-- The workers of a crew are gone, and the manager hears of it. -/
def Manager.complete (m : Manager) (i : Nat) : Manager :=
  { m with lifecycle := .stopped, groups := m.groups.eraseIdx i }

/-- A manager, all starts that were asked of it, and the world around. -/
structure Stage (σ : Type) where
  manager : Manager
  starts : List Start
  world : σ

inductive Move (U : Surroundings σ) : Stage σ → Stage σ → Prop where
  | ask {st : Stage σ} : Move U st { st with starts := st.starts ++ [.asked] }
  | start {st : Stage σ} {i : Nat} {start start' : Start} {m : Manager} {s : σ} :
      st.starts[i]? = some start →
      start.step U.answer st.manager st.world = (start', m, s) →
      Move U st ⟨m, st.starts.set i start', s⟩
  | crew {st : Stage σ} {i : Nat} {g : Group} {e : Event} {sc : Scene σ} :
      st.manager.groups[i]? = some g → Step U ⟨g.crew, g.phases, st.world⟩ e sc →
      Move U st ⟨{ st.manager with groups := st.manager.groups.set i ⟨sc.crew, sc.phases⟩ },
        st.starts, sc.world⟩
  | complete {st : Stage σ} {i : Nat} {g : Group} :
      st.manager.groups[i]? = some g → Manager.Group.isOver g = true →
      Move U st { st with manager := st.manager.complete i }
  | change {st : Stage σ} {s : σ} : U.change st.world s → Move U st { st with world := s }

namespace Stage

def fresh (account : Address) (settings : Settings) (s : σ) : Stage σ :=
  ⟨.new account settings, [], s⟩

def checking (st : Stage σ) : Nat := st.starts.countP Start.isChecking

def launching (st : Stage σ) : Nat := st.starts.countP Start.isLaunching

/-- How many starts have passed their check and are not over. -/
def underWay (st : Stage σ) : Nat := st.checking + st.launching

/-- No crew is launched while workers of another one are there, and none are there when the manager
has stopped. -/
structure Exclusive (st : Stage σ) : Prop where
  launch : .launching ∈ st.starts → ∀ g ∈ st.manager.groups, Manager.Group.isOver g = true
  stopped : st.manager.lifecycle = .stopped → ∀ g ∈ st.manager.groups, Manager.Group.isOver g = true

end Stage

/-- What comes about when at most `n` starts are under way at a time. -/
inductive Course (U : Surroundings σ) (n : Nat) : Stage σ → Stage σ → Prop where
  | refl (st : Stage σ) : Course U n st st
  | snoc {start st st' : Stage σ} :
      Course U n start st → Move U st st' → st'.underWay ≤ n → Course U n start st'

variable {U : Surroundings σ} {n : Nat} {st st' st'' : Stage σ}

theorem Course.trans (h₁ : Course U n st st') (h₂ : Course U n st' st'') : Course U n st st'' := by
  induction h₂ with
  | refl => exact h₁
  | snoc _ move hn ih => exact .snoc ih move hn

theorem Course.mono {m : Nat} (h : Course U n st st') (hm : n ≤ m) : Course U m st st' := by
  induction h with
  | refl => exact .refl _
  | snoc _ move hn ih => exact .snoc ih move (Nat.le_trans hn hm)

theorem Course.single (move : Move U st st') (hn : st'.underWay ≤ n) : Course U n st st' :=
  .snoc (.refl st) move hn

/-! ## Counting starts -/

theorem countP_set_add {α : Type} (p : α → Bool) {l : List α} {i : Nat} {a : α}
    (h : l[i]? = some a) (b : α) :
    (l.set i b).countP p + (p a).toNat = l.countP p + (p b).toNat := by
  obtain ⟨hi, rfl⟩ := List.getElem?_eq_some_iff.1 h
  have hpos : p l[i] = true → 0 < l.countP p :=
    fun hp => List.countP_pos_iff.2 ⟨_, List.getElem_mem hi, hp⟩
  rw [List.countP_set hi]
  cases hp : p l[i] with
  | false => cases p b <;> simp
  | true =>
    have := hpos hp
    cases p b <;> simp <;> omega

theorem counts_set {m : Manager} {s : σ} {i : Nat} {a : Start} (h : st.starts[i]? = some a)
    (b : Start) :
    Stage.checking ⟨m, st.starts.set i b, s⟩ + a.isChecking.toNat =
        st.checking + b.isChecking.toNat ∧
      Stage.launching ⟨m, st.starts.set i b, s⟩ + a.isLaunching.toNat =
        st.launching + b.isLaunching.toNat :=
  ⟨countP_set_add _ h b, countP_set_add _ h b⟩

theorem checking_ne_zero {p : Program Reply (Except Failure Unit)}
    (h : .checking p ∈ st.starts) : st.checking ≠ 0 :=
  Nat.ne_of_gt (List.countP_pos_iff.2 ⟨_, h, rfl⟩)

theorem launching_ne_zero (h : .launching ∈ st.starts) : st.launching ≠ 0 :=
  Nat.ne_of_gt (List.countP_pos_iff.2 ⟨_, h, rfl⟩)

theorem underWay_append_asked (st : Stage σ) :
    Stage.underWay { st with starts := st.starts ++ [.asked] } = st.underWay := by
  simp [Stage.underWay, Stage.checking, Stage.launching, Start.isChecking, Start.isLaunching]

theorem underWay_le_length (m : Manager) (starts : List Start) (s : σ) :
    Stage.underWay ⟨m, starts, s⟩ ≤ starts.length := by
  induction starts with
  | nil => exact Nat.le_refl 0
  | cons a rest ih =>
    simp only [Stage.underWay, Stage.checking, Stage.launching, List.countP_cons,
      List.length_cons] at ih ⊢
    cases a <;> simp only [Start.isChecking, Start.isLaunching, if_true, Bool.false_eq_true,
      if_false] <;> omega

/-! ## One start at a time -/

/-- What a manager is up to while one start at a time is past its check. -/
inductive Tidy (st : Stage σ) : Prop where
  | idle : st.manager.lifecycle.isRunning = false → st.manager.groups = [] → st.launching = 0 →
      Tidy st
  | starting : st.manager.lifecycle = .starting → st.manager.groups = [] → st.checking = 0 →
      st.launching = 1 → Tidy st
  | running : st.manager.lifecycle = .running → st.manager.groups.length = 1 → st.checking = 0 →
      st.launching = 0 → Tidy st

theorem Tidy.congr (h : Tidy st) (hlifecycle : st'.manager.lifecycle = st.manager.lifecycle)
    (hgroups : st'.manager.groups.length = st.manager.groups.length)
    (hchecking : st'.checking = st.checking) (hlaunching : st'.launching = st.launching) :
    Tidy st' := by
  have hnil : st.manager.groups = [] → st'.manager.groups = [] := by
    intro h
    rw [h] at hgroups
    exact List.eq_nil_of_length_eq_zero hgroups
  cases h with
  | idle hidle hg hl => exact .idle (hlifecycle ▸ hidle) (hnil hg) (hlaunching.trans hl)
  | starting hs hg hc hl =>
    exact .starting (hlifecycle.trans hs) (hnil hg) (hchecking.trans hc) (hlaunching.trans hl)
  | running hr hg hc hl =>
    exact .running (hlifecycle.trans hr) (hgroups.trans hg) (hchecking.trans hc)
      (hlaunching.trans hl)

theorem isRunning_of_forbids {m : Manager} (h : m.forbids = none) :
    m.lifecycle.isRunning = false := by
  unfold Manager.forbids at h
  cases hm : m.lifecycle.isRunning with
  | false => rfl
  | true =>
    rw [hm] at h
    cases h

theorem Tidy.idle_of (h : Tidy st)
    (hidle : st.manager.lifecycle.isRunning = false ∨ st.checking ≠ 0) :
    st.manager.lifecycle.isRunning = false ∧ st.manager.groups = [] ∧ st.launching = 0 := by
  cases h with
  | idle hm hg hl => exact ⟨hm, hg, hl⟩
  | starting hs _ hc _ =>
    rw [hs, hc] at hidle
    exact absurd hidle (by decide)
  | running hr _ hc _ =>
    rw [hr, hc] at hidle
    exact absurd hidle (by decide)

theorem Tidy.start (h : Tidy st) {i : Nat} {start start' : Start} {m : Manager} {s : σ}
    (hi : st.starts[i]? = some start)
    (hstep : start.step U.answer st.manager st.world = (start', m, s))
    (hone : Stage.underWay ⟨m, st.starts.set i start', s⟩ ≤ 1) :
    Tidy ⟨m, st.starts.set i start', s⟩ := by
  -- how many starts are checking and launching before the step tells what the manager is up to
  obtain ⟨hchecking, hlaunching⟩ := counts_set (m := m) (s := s) hi start'
  obtain ⟨rfl, failure, -, heq⟩ | ⟨rfl, hm, heq⟩ | ⟨p, rfl, hp⟩ | ⟨rfl, heq⟩ |
    ⟨result, rfl, heq⟩ := start.step_cases U.answer st.manager st.world
  · obtain ⟨rfl, rfl, rfl⟩ := hstep.symm.trans heq
    exact h.congr rfl rfl hchecking hlaunching
  · obtain ⟨rfl, rfl, rfl⟩ := hstep.symm.trans heq
    obtain ⟨hidle, hg, hl⟩ := h.idle_of (.inl (isRunning_of_forbids hm))
    exact .idle hidle hg (hlaunching.trans hl)
  · obtain ⟨hidle, hg, hl⟩ := h.idle_of (.inr (checking_ne_zero (List.mem_of_getElem? hi)))
    obtain ⟨failure, heq⟩ | heq | ⟨p', s', heq⟩ := hp
    · obtain ⟨rfl, rfl, rfl⟩ := hstep.symm.trans heq
      exact .idle hidle hg (hlaunching.trans hl)
    · obtain ⟨rfl, rfl, rfl⟩ := hstep.symm.trans heq
      simp only [Start.isLaunching, Bool.toNat_false, Bool.toNat_true, hl] at hlaunching
      simp only [Stage.underWay] at hone
      exact .starting rfl hg (by omega) hlaunching
    · obtain ⟨rfl, rfl, rfl⟩ := hstep.symm.trans heq
      exact .idle hidle hg (hlaunching.trans hl)
  · obtain ⟨rfl, rfl, rfl⟩ := hstep.symm.trans heq
    have hsome := launching_ne_zero (List.mem_of_getElem? hi)
    cases h with
    | idle _ _ hl => exact absurd hl hsome
    | starting _ hg hc hl =>
      refine .running rfl ?_ (hchecking.trans hc) (Nat.succ.inj (hlaunching.trans hl))
      show (st.manager.groups ++ [_]).length = 1
      rw [hg]
      rfl
    | running _ _ _ hl => exact absurd hl hsome
  · obtain ⟨rfl, rfl, rfl⟩ := hstep.symm.trans heq
    exact h.congr rfl rfl hchecking hlaunching

theorem Tidy.move (h : Tidy st) (move : Move U st st') (hone : st'.underWay ≤ 1) : Tidy st' := by
  cases move with
  | ask =>
    refine h.congr rfl rfl ?_ ?_ <;> simp [Stage.checking, Stage.launching, Start.isChecking,
      Start.isLaunching]
  | start hi hstep => exact h.start hi hstep hone
  | crew hi step => exact h.congr rfl List.length_set rfl rfl
  | @complete i g hi hover =>
    have hlt := (List.getElem?_eq_some_iff.1 hi).1
    cases h with
    | idle _ hg _ | starting _ hg _ _ =>
      rw [hg] at hlt
      exact absurd hlt (Nat.not_lt_zero i)
    | running _ hg _ hl =>
      refine .idle rfl (List.eq_nil_of_length_eq_zero ?_) hl
      show (st.manager.groups.eraseIdx i).length = 0
      rw [List.length_eraseIdx_of_lt hlt, hg]
  | change => exact h.congr rfl rfl rfl rfl

theorem Tidy.exclusive (h : Tidy st) : st.Exclusive := by
  have hnone : st.manager.groups = [] → ∀ g ∈ st.manager.groups, Manager.Group.isOver g = true := by
    intro hg g hmem
    rw [hg] at hmem
    cases hmem
  cases h with
  | idle _ hg _ | starting _ hg _ _ => exact ⟨fun _ => hnone hg, fun _ => hnone hg⟩
  | running hr _ _ hl =>
    refine ⟨fun hmem => absurd hl ?_, fun hstopped => ?_⟩
    · exact launching_ne_zero hmem
    · rw [hr] at hstopped
      cases hstopped

theorem tidy_fresh (account : Address) (settings : Settings) (s : σ) :
    Tidy (Stage.fresh account settings s) := .idle rfl rfl rfl

theorem Course.tidy (h : Course U 1 st st') (hst : Tidy st) : Tidy st' := by
  induction h with
  | refl => exact hst
  | snoc _ move hone ih => exact ih.move move hone

/-! ## No workers -/

/-- A manager without workers lets no start get under way. -/
theorem Move.barred (move : Move U st st') (hworkers : st.manager.settings.workers = 0)
    (hnone : st.underWay = 0) :
    st'.manager.settings.workers = 0 ∧ st'.underWay = 0 := by
  have hforbids : st.manager.forbids ≠ none := by
    unfold Manager.forbids
    rw [if_pos hworkers]
    split <;> simp
  have hcounts : st.checking = 0 ∧ st.launching = 0 := Nat.add_eq_zero_iff.1 hnone
  cases move with
  | ask => exact ⟨hworkers, (underWay_append_asked st).trans hnone⟩
  | @start i start start' m s hi hstep =>
    obtain ⟨hchecking, hlaunching⟩ := counts_set (m := m) (s := s) hi start'
    obtain ⟨rfl, failure, -, heq⟩ | ⟨rfl, hm, -⟩ | ⟨p, rfl, -⟩ | ⟨rfl, -⟩ |
      ⟨result, rfl, heq⟩ := start.step_cases U.answer st.manager st.world
    · obtain ⟨rfl, rfl, rfl⟩ := hstep.symm.trans heq
      exact ⟨hworkers, Nat.add_eq_zero_iff.2
        ⟨hchecking.trans hcounts.1, hlaunching.trans hcounts.2⟩⟩
    · exact absurd hm hforbids
    · exact absurd hcounts.1 (checking_ne_zero (List.mem_of_getElem? hi))
    · exact absurd hcounts.2 (launching_ne_zero (List.mem_of_getElem? hi))
    · obtain ⟨rfl, rfl, rfl⟩ := hstep.symm.trans heq
      exact ⟨hworkers, Nat.add_eq_zero_iff.2
        ⟨hchecking.trans hcounts.1, hlaunching.trans hcounts.2⟩⟩
  | crew | complete | change => exact ⟨hworkers, hnone⟩

theorem Course.barred (h : Course U n st st') (hworkers : st.manager.settings.workers = 0)
    (hnone : st.underWay = 0) : Course U 1 st st' := by
  have : Course U 1 st st' ∧ st'.manager.settings.workers = 0 ∧ st'.underWay = 0 := by
    induction h with
    | refl => exact ⟨.refl _, hworkers, hnone⟩
    | snoc _ move _ ih =>
      obtain ⟨course, hworkers, hnone⟩ := ih
      obtain ⟨hworkers', hnone'⟩ := move.barred hworkers hnone
      exact ⟨.snoc course move (by omega), hworkers', hnone'⟩
  exact this.1

/-! ## The steps of the manager -/

section Parts

variable {m m' : Manager} {starts : List Start} {a b : Start} {s s' : σ} {i : Nat}

theorem underWay_set_le (hi : st.starts[i]? = some a) (m : Manager) (b : Start) (s : σ) :
    Stage.underWay ⟨m, st.starts.set i b, s⟩ ≤ st.underWay + 1 := by
  obtain ⟨hchecking, hlaunching⟩ := counts_set (m := m) (s := s) hi b
  have hb : b.isChecking.toNat + b.isLaunching.toNat ≤ 1 := by
    cases b <;> simp [Start.isChecking, Start.isLaunching]
  unfold Stage.underWay
  omega

theorem Course.step (course : Course U n st ⟨m, starts.set i a, s⟩) (hi : i < starts.length)
    (hstep : a.step U.answer m s = (b, m', s'))
    (hn : Stage.underWay ⟨m', starts.set i b, s'⟩ ≤ n) :
    Course U n st ⟨m', starts.set i b, s'⟩ := by
  have move : Move U ⟨m, starts.set i a, s⟩ ⟨m', (starts.set i a).set i b, s'⟩ :=
    .start (List.getElem?_set_self hi) hstep
  rw [List.set_set] at move
  exact .snoc course move hn

theorem course_checking (st : Stage σ) {i : Nat} {p : Program Reply (Except Failure Unit)}
    (hi : st.starts[i]? = some (.checking p)) (hn : st.underWay ≤ n) :
    Course U n st ⟨st.manager, st.starts.set i (.checking (.done (p.run U.answer st.world).1)),
      (p.run U.answer st.world).2⟩ := by
  have hlt := (List.getElem?_eq_some_iff.1 hi).1
  induction p generalizing st with
  | done r =>
    have hsame : st.starts.set i (.checking (.done r)) = st.starts := by
      obtain ⟨_, heq⟩ := List.getElem?_eq_some_iff.1 hi
      rw [← heq, List.set_getElem_self]
    rw [Program.run_done, hsame]
    exact .refl st
  | ask op next ih =>
    let r := (U.answer op st.world).1
    let st' : Stage σ :=
      ⟨st.manager, st.starts.set i (.checking (next r)), (U.answer op st.world).2⟩
    have move : Move U st st' := .start hi rfl
    have hn' : st'.underWay ≤ n := by
      obtain ⟨hc, hl⟩ := counts_set (m := st'.manager) (s := st'.world) hi (.checking (next r))
      have hc : st'.checking = st.checking := Nat.succ.inj hc
      have hl : st'.launching = st.launching := hl
      rwa [Stage.underWay, hc, hl]
    have rest := ih r st' (List.getElem?_set_self hlt) hn' (by simpa [st'] using hlt)
    have course := (Course.single move hn').trans rest
    simpa [st', r] using course

theorem course_start (hi : st.starts[i]? = some .asked) (hn : st.underWay + 1 ≤ n) :
    Course U n st ⟨(st.manager.start U.answer st.world).2.1,
      st.starts.set i (.over (st.manager.start U.answer st.world).1),
      (st.manager.start U.answer st.world).2.2⟩ := by
  obtain ⟨hlt, heq⟩ := List.getElem?_eq_some_iff.1 hi
  have hbound : ∀ m b s, Stage.underWay ⟨m, st.starts.set i b, s⟩ ≤ n :=
    fun m b s => Nat.le_trans (underWay_set_le hi m b s) hn
  have begun : Course U n st ⟨st.manager, st.starts.set i .asked, st.world⟩ := by
    rw [← heq, List.set_getElem_self]
    exact .refl st
  rw [Manager.start]
  cases hforbids : st.manager.forbids with
  | some failure => exact begun.step hlt (by simp only [Start.step, hforbids]) (hbound _ _ _)
  | none =>
    have checking : Course U n st
        ⟨st.manager, st.starts.set i (.checking Manager.entry.outcome), st.world⟩ :=
      begun.step hlt (by simp only [Start.step, hforbids]) (hbound _ _ _)
    have checked := checking.trans (course_checking _ (i := i) (List.getElem?_set_self hlt)
      (hbound _ _ _))
    simp only [List.set_set] at checked
    generalize Manager.entry.outcome.run U.answer st.world = result at checked
    match result with
    | (.error failure, s) => exact checked.step hlt rfl (hbound _ _ _)
    | (.ok (), s) => exact (checked.step hlt rfl (hbound _ _ _)).step hlt rfl (hbound _ _ _)

theorem clear_of_stopped (h : m.lifecycle = .stopped) :
    m.clear = { m with groups := m.groups.filter (!Manager.Group.isOver ·) } := by
  unfold Manager.clear
  split
  · rw [h]
  · next hnone =>
    have hall : m.groups.filter (!Manager.Group.isOver ·) = m.groups := by
      simpa using hnone
    rw [hall]

theorem course_clear (hn : st.underWay ≤ n) :
    Course U n st { st with manager := st.manager.clear } := by
  generalize hcount : st.manager.groups.countP Manager.Group.isOver = k
  induction k generalizing st with
  | zero =>
    have hnone : st.manager.clear = st.manager := by
      rw [Manager.clear, if_neg]
      simpa [List.countP_eq_zero] using hcount
    rw [hnone]
    exact .refl st
  | succ k ih =>
    -- one of the crews that are over completes, which leaves one less of them
    obtain ⟨g, hg, hover⟩ := List.countP_pos_iff.1 (Nat.lt_of_lt_of_eq k.succ_pos hcount.symm)
    obtain ⟨front, back, hsplit⟩ := List.append_of_mem hg
    let st' : Stage σ := { st with manager := st.manager.complete front.length }
    have move : Move U st st' := .complete (g := g) (by simp [hsplit]) hover
    have hgroups : st'.manager.groups = front ++ back := by
      show st.manager.groups.eraseIdx front.length = _
      rw [hsplit, List.eraseIdx_append_of_length_le (Nat.le_refl _), Nat.sub_self]
      rfl
    have hclear : st'.manager.clear = st.manager.clear := by
      rw [clear_of_stopped rfl, hgroups, Manager.clear,
        if_pos (List.any_eq_true.2 ⟨g, hg, hover⟩), hsplit]
      simp [st', Manager.complete, hover]
    have hrest : st'.manager.groups.countP Manager.Group.isOver = k := by
      rw [hsplit, List.countP_append, List.countP_cons_of_pos hover] at hcount
      rw [hgroups, List.countP_append]
      omega
    exact (Course.single move hn).trans (hclear ▸ ih hn hrest)

end Parts

/-! ## Starts that overlap -/

theorem Presents.run_entry {c : Word} {w : World Ledger} (h : Presents c w) :
    Manager.entry.outcome.run (surroundings Ledger.answer).answer w = (.ok (), w) := by
  rw [Manager.entry, run_andThen, h.run_ensureSynced]
  exact h.run_checkGate

theorem isOver_newGroup {m : Manager} (h : m.settings.workers ≠ 0) :
    Manager.Group.isOver m.newGroup = false := by
  simp [Manager.Group.isOver, Manager.newGroup, Manager.isGone, h]

section Overlap

variable {m m' : Manager} {a a' b b' : Start} {s s' : σ}

theorem course_first (h : a.step U.answer m s = (a', m', s')) :
    Course U 2 ⟨m, [a, b], s⟩ ⟨m', [a', b], s'⟩ :=
  .single (.start (i := 0) rfl h) (underWay_le_length _ _ _)

theorem course_second (h : b.step U.answer m s = (b', m', s')) :
    Course U 2 ⟨m, [a, b], s⟩ ⟨m', [a, b'], s'⟩ :=
  .single (.start (i := 1) rfl h) (underWay_le_length _ _ _)

theorem move_head {g : Group} {rest : List Group} {starts : List Start} {e : Event}
    {sc : Scene σ} (step : Step U ⟨g.crew, g.phases, s⟩ e sc) :
    Move U ⟨{ m with groups := g :: rest }, starts, s⟩
      ⟨{ m with groups := ⟨sc.crew, sc.phases⟩ :: rest }, starts, sc.world⟩ :=
  @Move.crew σ U ⟨{ m with groups := g :: rest }, starts, s⟩ 0 g e sc rfl step

end Overlap

/-- Two starts overlap: when the first one has launched its crew, the second one is about to. -/
theorem course_overlap (account : Address) (settings : Settings)
    (hworkers : settings.workers ≠ 0) {c : Word} {w : World Ledger} (h : Presents c w) :
    Course (surroundings Ledger.answer) 2 (Stage.fresh account settings w)
      ⟨{ (Manager.new account settings).launch with lifecycle := .starting },
        [.over (.ok ()), .launching], w⟩ := by
  let U := surroundings Ledger.answer
  let m := Manager.new account settings
  let entry : Start := .checking Manager.entry.outcome
  let checked : Start := .checking (.done (.ok ()))
  have hforbids : m.forbids = none := by
    simp [m, Manager.forbids, Manager.new, Lifecycle.isRunning, hworkers]
  have hasked : Start.asked.step U.answer m w = (entry, m, w) := by
    simp only [Start.step, hforbids, entry]
  have asked : Course U 2 (Stage.fresh account settings w) ⟨m, [.asked, .asked], w⟩ :=
    .snoc (.single .ask (by exact Nat.zero_le 2)) .ask (underWay_le_length _ _ _)
  have first : Course U 2 ⟨m, [entry, entry], w⟩ ⟨m, [checked, entry], w⟩ := by
    have course := course_checking (U := U) ⟨m, [entry, entry], w⟩ (i := 0) rfl
      (underWay_le_length _ _ _)
    rw [h.run_entry] at course
    exact course
  have second : Course U 2 ⟨m.launch, [.over (.ok ()), entry], w⟩
      ⟨m.launch, [.over (.ok ()), checked], w⟩ := by
    have course := course_checking (U := U) ⟨m.launch, [.over (.ok ()), entry], w⟩ (i := 1) rfl
      (underWay_le_length _ _ _)
    rw [h.run_entry] at course
    exact course
  have launched : Course U 2 (Stage.fresh account settings w)
      ⟨m.launch, [.over (.ok ()), entry], w⟩ :=
    asked.trans (course_first hasked) |>.trans (course_second hasked) |>.trans first
      |>.trans (course_first rfl) |>.trans (course_first rfl)
  exact launched.trans second |>.trans (course_second rfl)

/-- As long as at most `n` starts are under way at a time, crews do not overlap, and a manager that
has stopped has no workers. This is so just when `n` is at most one, or there are no workers at
all. -/
theorem exclusive_iff (account : Address) (settings : Settings) (n : Nat) :
    (∀ (σ : Type) (U : Surroundings σ) (s : σ) (st : Stage σ),
      Course U n (Stage.fresh account settings s) st → st.Exclusive) ↔
      n ≤ 1 ∨ settings.workers = 0 := by
  constructor
  · intro h
    refine Classical.byContradiction fun hmany => ?_
    obtain ⟨hn, hworkers⟩ := not_or.1 hmany
    have course := (course_overlap account settings hworkers (presents_easyWorld 1)).mono
      (show 2 ≤ n by omega)
    have hover := (h _ _ _ _ course).launch (by simp) (Manager.new account settings).newGroup
      List.mem_cons_self
    rw [isOver_newGroup hworkers] at hover
    cases hover
  · rintro (hn | hworkers) σ U s st course
    · exact ((course.mono hn).tidy (tidy_fresh account settings s)).exclusive
    · exact ((course.barred hworkers rfl).tidy (tidy_fresh account settings s)).exclusive

/-- Two starts that overlap launch two crews at once. When the first one is gone, the manager has
stopped while the second one works. -/
theorem exists_stopped_working : ∃ st later : Stage (World Ledger),
    Course (surroundings Ledger.answer) 2 (Stage.fresh 0 {} (easyWorld 1)) st ∧
      .launching ∈ st.starts ∧ (∃ g ∈ st.manager.groups, Manager.Group.isOver g = false) ∧
      Course (surroundings Ledger.answer) 2 st later ∧ later.manager.lifecycle = .stopped ∧
      ∃ g ∈ later.manager.groups, Manager.Group.isOver g = false := by
  let U := surroundings Ledger.answer
  let w := easyWorld 1
  let m := (Manager.new 0 {}).launch
  let launched : List Start := [.over (.ok ()), .over (.ok ())]
  let crew (dismissed : Bool) : Crew := ⟨0, {}, none, 0, dismissed⟩
  let groups (g : Group) : Manager := { m with groups := [g, ⟨crew false, [.ready]⟩] }
  have overlap := course_overlap 0 {} (by decide) (presents_easyWorld 1)
  have second : Course U 2 ⟨{ m with lifecycle := .starting }, [.over (.ok ()), .launching], w⟩
      ⟨groups ⟨crew false, [.ready]⟩, launched, w⟩ := course_second rfl
  have dismissed : Move U ⟨groups ⟨crew false, [.ready]⟩, launched, w⟩
      ⟨groups ⟨crew true, [.ready]⟩, launched, w⟩ :=
    move_head (m := m) (g := ⟨crew false, [.ready]⟩) .dismiss
  have leave : Step U ⟨crew true, [.ready], w⟩ (.acted 0 .ready .gone) ⟨crew true, [.gone], w⟩ :=
    .act (i := 0) .go rfl rfl
  have gone : Move U ⟨groups ⟨crew true, [.ready]⟩, launched, w⟩
      ⟨groups ⟨crew true, [.gone]⟩, launched, w⟩ :=
    move_head (m := m) (g := ⟨crew true, [.ready]⟩) leave
  have complete : Move U ⟨groups ⟨crew true, [.gone]⟩, launched, w⟩
      ⟨(groups ⟨crew true, [.gone]⟩).complete 0, launched, w⟩ := .complete (i := 0) rfl rfl
  have later := ((second.snoc dismissed (underWay_le_length _ _ _)).snoc gone
    (underWay_le_length _ _ _)).snoc complete (underWay_le_length _ _ _)
  exact ⟨_, _, overlap, by simp, ⟨_, List.mem_cons_self, rfl⟩, later, rfl, _, List.mem_cons_self,
    rfl⟩

end Mining
end PriceOracle
