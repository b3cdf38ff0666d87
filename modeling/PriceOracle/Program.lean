/-!
# PriceOracle.Program

A procedure of the node as a dialogue with its surroundings: it is done, or it asks a question and
goes on with the answer. What the surroundings are is left open. `run` answers all questions from
one state, `runM` from any monad, and `step` answers one question, so that procedures that work at
the same time can take turns.

`Says` lists the exchanges of a dialogue whatever answers come back; a statement about it holds in
all surroundings.
-/

namespace PriceOracle

/-- A procedure with questions `Op`; `Reply op` is what may come back on `op`. -/
inductive Program {Op : Type} (Reply : Op → Type) (α : Type) : Type where
  | done (value : α)
  | ask (op : Op) (next : Reply op → Program Reply α)

namespace Program

variable {Op : Type} {Reply : Op → Type} {α β σ : Type}

def andThen : Program Reply α → (α → Program Reply β) → Program Reply β
  | done a, f => f a
  | ask op next, f => ask op fun r => (next r).andThen f

instance : Monad (Program Reply) where
  pure := done
  bind := andThen

def perform (op : Op) : Program Reply (Reply op) := ask op done

/-- How surroundings with a state answer. -/
abbrev Answerer (Reply : Op → Type) (σ : Type) := (op : Op) → σ → Reply op × σ

def run (answer : Answerer Reply σ) : Program Reply α → σ → α × σ
  | done a, s => (a, s)
  | ask op next, s => run answer (next (answer op s).1) (answer op s).2

def runM {m : Type → Type} [Monad m] (answer : (op : Op) → m (Reply op)) : Program Reply α → m α
  | done a => pure a
  | ask op next => do runM answer (next (← answer op))

def step (answer : Answerer Reply σ) : Program Reply α → σ → Program Reply α × σ
  | done a, s => (done a, s)
  | ask op next, s => (next (answer op s).1, (answer op s).2)

/-- The result of a procedure that asks nothing more. -/
def result? : Program Reply α → Option α
  | done a => some a
  | ask _ _ => none

/-- Answer the questions of one kind by procedures that ask questions of another kind. -/
def interpret {Op' : Type} {Reply' : Op' → Type}
    (f : (op : Op) → Program Reply' (Reply op)) : Program Reply α → Program Reply' α
  | done a => done a
  | ask op next => (f op).andThen fun r => interpret f (next r)

structure Exchange (Reply : Op → Type) where
  op : Op
  reply : Reply op

/-- The dialogue can go through these exchanges and end with this value. -/
inductive Says : Program Reply α → List (Exchange Reply) → α → Prop where
  | done (a : α) : Says (done a) [] a
  | ask {op : Op} {next : Reply op → Program Reply α} {rest : List (Exchange Reply)} {a : α}
      (r : Reply op) : Says (next r) rest a → Says (ask op next) (⟨op, r⟩ :: rest) a

@[simp] theorem pure_eq (a : α) : (pure a : Program Reply α) = done a := rfl

@[simp] theorem bind_done (a : α) (f : α → Program Reply β) : (done a >>= f) = f a := rfl

@[simp] theorem bind_ask (op : Op) (next : Reply op → Program Reply α)
    (f : α → Program Reply β) : (ask op next >>= f) = ask op fun r => next r >>= f := rfl

@[simp] theorem bind_perform (op : Op) (f : Reply op → Program Reply β) :
    (perform op >>= f) = ask op f := rfl

theorem id_map_eq (p : Program Reply α) : id <$> p = p := by
  induction p with
  | done a => rfl
  | ask op next ih => exact congrArg (ask op) (funext ih)

theorem bind_assoc_eq {γ : Type} (p : Program Reply α) (f : α → Program Reply β)
    (g : β → Program Reply γ) : p >>= f >>= g = p >>= fun a => f a >>= g := by
  induction p with
  | done a => rfl
  | ask op next ih => exact congrArg (ask op) (funext ih)

instance : LawfulMonad (Program Reply) :=
  .mk' (Program Reply) id_map_eq (fun _ _ => rfl) bind_assoc_eq

@[simp] theorem run_done (answer : Answerer Reply σ) (a : α) (s : σ) :
    run answer (done a) s = (a, s) := rfl

@[simp] theorem run_ask (answer : Answerer Reply σ) (op : Op)
    (next : Reply op → Program Reply α) (s : σ) :
    run answer (ask op next) s = run answer (next (answer op s).1) (answer op s).2 := rfl

theorem run_bind (answer : Answerer Reply σ) (p : Program Reply α) (f : α → Program Reply β)
    (s : σ) : run answer (p >>= f) s
      = run answer (f (run answer p s).1) (run answer p s).2 := by
  induction p generalizing s with
  | done a => rfl
  | ask op next ih => exact ih _ _

end Program
end PriceOracle
