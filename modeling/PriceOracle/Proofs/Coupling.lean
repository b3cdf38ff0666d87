import PriceOracle.Proofs.Node

/-!
# PriceOracle.Proofs.Coupling

Two actions side by side, each in its own surroundings. They are coupled by a relation of their
states when, from states that are related, they come to states that are related again, with results
that belong together. A coupling of two sequences is put together from couplings of their parts
(`Couples.bind`); an action whose questions are all answered alike is coupled with itself
(`Asks.couples`).
-/

namespace PriceOracle
namespace Node
namespace Action

open Program (Answerer Reaches Says)

variable {α β γ δ σ τ : Type}

/-- Two results that belong together, or the same failure twice. -/
inductive Both (R : α → β → Prop) : Except Failure α → Except Failure β → Prop where
  | ok {x : α} {y : β} : R x y → Both R (.ok x) (.ok y)
  | error (e : Failure) : Both R (.error e) (.error e)

theorem both_self (r : Except Failure α) : Both Eq r r := by
  cases r with
  | ok x => exact .ok rfl
  | error e => exact .error e

section Couples

variable (answer : Answerer Reply σ) (answer' : Answerer Reply τ) (J : σ → τ → Prop)

def Couples (R : α → β → Prop) (a : Action α) (b : Action β) : Prop :=
  ∀ s t, J s t →
    Both R (a.outcome.run answer s).1 (b.outcome.run answer' t).1 ∧
      J (a.outcome.run answer s).2 (b.outcome.run answer' t).2

/-- A question is answered in the same way to both. -/
def Shares (op : Ask) : Prop :=
  ∀ s t, J s t → (answer op s).1 = (answer' op t).1 ∧ J (answer op s).2 (answer' op t).2

variable {answer answer' J} {R : α → β → Prop} {Q : γ → δ → Prop} {a : Action α} {b : Action β}

theorem run_of_shares {p : Program Reply α}
    (h : ∀ log op next, Reaches p log (.ask op next) → Shares answer answer' J op) {s : σ} {t : τ}
    (hJ : J s t) : (p.run answer s).1 = (p.run answer' t).1 ∧
      J (p.run answer s).2 (p.run answer' t).2 := by
  induction p generalizing s t with
  | done x => exact ⟨rfl, hJ⟩
  | ask op next ih =>
    obtain ⟨hreply, hJ⟩ := h [] op next (.refl _) s t hJ
    rw [Program.run_ask, Program.run_ask, ← hreply]
    exact ih _ (fun log op' next' hr => h _ op' next' (.ask _ hr)) hJ

theorem Asks.couples {a : Action α} (h : Asks (Shares answer answer' J) a) :
    Couples answer answer' J Eq a a := by
  intro s t hJ
  obtain ⟨hsame, hJ⟩ := run_of_shares h hJ
  rw [hsame]
  exact ⟨both_self _, hJ⟩

theorem couples_pure {x : α} {y : β} (h : R x y) :
    Couples answer answer' J R (pure x) (pure y) := fun _ _ hJ => ⟨.ok h, hJ⟩

theorem Couples.bind {f : α → Action γ} {g : β → Action δ} (h : Couples answer answer' J R a b)
    (hf : ∀ x y, R x y → Couples answer answer' J Q (f x) (g y)) :
    Couples answer answer' J Q (a >>= f) (b >>= g) := by
  intro s t hJ
  rw [run_andThen, run_andThen]
  obtain ⟨hboth, hJ⟩ := h s t hJ
  generalize a.outcome.run answer s = u at hboth hJ
  generalize b.outcome.run answer' t = v at hboth hJ
  obtain ⟨_, s'⟩ := u
  obtain ⟨_, t'⟩ := v
  cases hboth with
  | ok hR => exact hf _ _ hR s' t' hJ
  | error e => exact ⟨.error e, hJ⟩

theorem Couples.same {f : α → Action γ} {g : α → Action δ} {a b : Action α}
    (h : Couples answer answer' J Eq a b)
    (hf : ∀ x, Couples answer answer' J Q (f x) (g x)) :
    Couples answer answer' J Q (a >>= f) (b >>= g) :=
  h.bind fun x _ heq => heq ▸ hf x

theorem run_orElse (answer : Answerer Reply σ) (a : Action α) (default : α) (s : σ) :
    (a.orElse default).outcome.run answer s =
      (.ok ((a.outcome.run answer s).1.toOption.getD default), (a.outcome.run answer s).2) := by
  rw [outcome_orElse, Program.run_bind, Program.run_done]

/-- What is always true of the result can be used further on. -/
theorem Couples.ensuring {P : α → Prop} (h : Couples answer answer' J R a b)
    (hP : ∀ log x, Says a.outcome log (.ok x) → P x) :
    Couples answer answer' J (fun x y => R x y ∧ P x) a b := by
  intro s t hJ
  obtain ⟨hboth, hJ⟩ := h s t hJ
  refine ⟨?_, hJ⟩
  have hsaid := Program.says_transcript answer a.outcome s
  generalize (a.outcome.run answer s).1 = r at hboth hsaid
  generalize (b.outcome.run answer' t).1 = r' at hboth
  cases hboth with
  | ok hR => exact .ok ⟨hR, hP _ _ hsaid⟩
  | error e => exact .error e

theorem Couples.orElse (h : Couples answer answer' J R a b) {x : α} {y : β} (hdefault : R x y) :
    Couples answer answer' J R (a.orElse x) (b.orElse y) := by
  intro s t hJ
  rw [run_orElse, run_orElse]
  obtain ⟨hboth, hJ⟩ := h s t hJ
  refine ⟨?_, hJ⟩
  generalize (a.outcome.run answer s).1 = r at hboth
  generalize (b.outcome.run answer' t).1 = r' at hboth
  cases hboth with
  | ok hR => exact .ok hR
  | error e => exact .ok hdefault

end Couples

end Action
end Node
end PriceOracle
