import PriceOracle.Program

/-!
# PriceOracle.Proofs.Program

How far a dialogue has come. `Reaches p log q` says that the exchanges `log` lead from `p` to `q`;
a dialogue that reaches its end says something (`says_iff_reaches`).

* `reaches_bind`: a sequence of two dialogues is inside the first one, or past its end.
* `says_transcript`: a run is a dialogue, and `transcript` lists its exchanges.
-/

namespace PriceOracle
namespace Program

variable {Op : Type} {Reply : Op → Type} {α β σ : Type}

/-- The exchanges lead from one point of a dialogue to another. -/
inductive Reaches : Program Reply α → List (Exchange Reply) → Program Reply α → Prop where
  | refl (p : Program Reply α) : Reaches p [] p
  | ask {op : Op} {next : Reply op → Program Reply α} {rest : List (Exchange Reply)}
      {q : Program Reply α} (r : Reply op) :
      Reaches (next r) rest q → Reaches (ask op next) (⟨op, r⟩ :: rest) q

namespace Reaches

theorem trans {p q t : Program Reply α} {log rest : List (Exchange Reply)}
    (h₁ : Reaches p log q) (h₂ : Reaches q rest t) : Reaches p (log ++ rest) t := by
  induction h₁ with
  | refl => exact h₂
  | ask r _ ih => exact .ask r (ih h₂)

theorem snoc {p : Program Reply α} {log : List (Exchange Reply)} {op : Op}
    {next : Reply op → Program Reply α} (h : Reaches p log (.ask op next)) (r : Reply op) :
    Reaches p (log ++ [⟨op, r⟩]) (next r) := h.trans (.ask r (.refl _))

/-- Every exchange is the answer to a question that was reached. -/
theorem asked {p q : Program Reply α} {log : List (Exchange Reply)} {x : Exchange Reply}
    (h : Reaches p log q) (hx : x ∈ log) : ∃ before next, Reaches p before (.ask x.op next) := by
  induction h with
  | refl => cases hx
  | @ask op next rest q r _ ih =>
    obtain rfl | hx := List.mem_cons.1 hx
    · exact ⟨[], next, .refl _⟩
    · obtain ⟨before, next', hb⟩ := ih hx
      exact ⟨⟨op, r⟩ :: before, next', .ask r hb⟩

end Reaches

@[simp] theorem reaches_done {a : α} {log : List (Exchange Reply)} {q : Program Reply α} :
    Reaches (done a) log q ↔ log = [] ∧ q = done a := by
  constructor
  · intro h
    cases h
    exact ⟨rfl, rfl⟩
  · rintro ⟨rfl, rfl⟩
    exact .refl _

theorem reaches_ask {op : Op} {next : Reply op → Program Reply α}
    {log : List (Exchange Reply)} {q : Program Reply α} :
    Reaches (ask op next) log q ↔
      (log = [] ∧ q = ask op next) ∨ ∃ r rest, log = ⟨op, r⟩ :: rest ∧ Reaches (next r) rest q := by
  constructor
  · intro h
    cases h with
    | refl => exact .inl ⟨rfl, rfl⟩
    | ask r h => exact .inr ⟨r, _, rfl, h⟩
  · rintro (⟨rfl, rfl⟩ | ⟨r, rest, rfl, h⟩)
    · exact .refl _
    · exact .ask r h

@[simp] theorem says_done {a b : α} {log : List (Exchange Reply)} :
    Says (done a) log b ↔ log = [] ∧ b = a := by
  constructor
  · intro h
    cases h
    exact ⟨rfl, rfl⟩
  · rintro ⟨rfl, rfl⟩
    exact .done b

theorem says_ask {op : Op} {next : Reply op → Program Reply α} {log : List (Exchange Reply)}
    {a : α} :
    Says (ask op next) log a ↔ ∃ r rest, log = ⟨op, r⟩ :: rest ∧ Says (next r) rest a := by
  constructor
  · intro h
    cases h with
    | ask r h => exact ⟨r, _, rfl, h⟩
  · rintro ⟨r, rest, rfl, h⟩
    exact .ask r h

theorem eq_done_of_says_nil {p : Program Reply α} {a : α} (h : Says p [] a) : p = done a := by
  cases h
  rfl

theorem says_iff_reaches {p : Program Reply α} {log : List (Exchange Reply)} {a : α} :
    Says p log a ↔ Reaches p log (done a) := by
  constructor
  · intro h
    induction h with
    | done a => exact .refl _
    | ask r _ ih => exact .ask r ih
  · intro h
    generalize hq : done a = q at h
    induction h with
    | refl => subst hq; exact .done a
    | ask r _ ih => exact .ask r (ih hq)

theorem says_bind {p : Program Reply α} {f : α → Program Reply β}
    {log : List (Exchange Reply)} {b : β} :
    Says (p >>= f) log b ↔ ∃ l₁ l₂ a, log = l₁ ++ l₂ ∧ Says p l₁ a ∧ Says (f a) l₂ b := by
  induction p generalizing log with
  | done a =>
    constructor
    · intro h
      exact ⟨[], log, a, rfl, .done a, h⟩
    · rintro ⟨l₁, l₂, a', rfl, h₁, h₂⟩
      obtain ⟨rfl, rfl⟩ := says_done.1 h₁
      exact h₂
  | ask op next ih =>
    rw [bind_ask, says_ask]
    constructor
    · rintro ⟨r, rest, rfl, h⟩
      obtain ⟨l₁, l₂, a, rfl, h₁, h₂⟩ := (ih r).1 h
      exact ⟨⟨op, r⟩ :: l₁, l₂, a, rfl, .ask r h₁, h₂⟩
    · rintro ⟨l₁, l₂, a, rfl, h₁, h₂⟩
      obtain ⟨r, rest, rfl, hr⟩ := says_ask.1 h₁
      exact ⟨r, rest ++ l₂, rfl, (ih r).2 ⟨rest, l₂, a, rfl, hr, h₂⟩⟩

/-- Where a question of a sequence comes from. -/
theorem reaches_bind {p : Program Reply α} {f : α → Program Reply β}
    {log : List (Exchange Reply)} {op : Op} {next : Reply op → Program Reply β}
    (h : Reaches (p >>= f) log (ask op next)) :
    (∃ next', Reaches p log (ask op next') ∧ next = fun r => next' r >>= f) ∨
      ∃ l₁ l₂ a, log = l₁ ++ l₂ ∧ Says p l₁ a ∧ Reaches (f a) l₂ (ask op next) := by
  induction p generalizing log with
  | done a => exact .inr ⟨[], log, a, rfl, .done a, h⟩
  | ask op' next' ih =>
    rw [bind_ask] at h
    obtain ⟨rfl, heq⟩ | ⟨r, rest, rfl, hr⟩ := reaches_ask.1 h
    · cases heq
      exact .inl ⟨next', .refl _, rfl⟩
    · obtain ⟨k, hk, rfl⟩ | ⟨l₁, l₂, a, rfl, h₁, h₂⟩ := ih r hr
      · exact .inl ⟨k, .ask r hk, rfl⟩
      · exact .inr ⟨⟨op', r⟩ :: l₁, l₂, a, rfl, .ask r h₁, h₂⟩

/-- The exchanges of a run. -/
def transcript (answer : Answerer Reply σ) : Program Reply α → σ → List (Exchange Reply)
  | done _, _ => []
  | ask op next, s =>
    ⟨op, (answer op s).1⟩ :: transcript answer (next (answer op s).1) (answer op s).2

theorem says_transcript (answer : Answerer Reply σ) (p : Program Reply α) (s : σ) :
    Says p (transcript answer p s) (run answer p s).1 := by
  induction p generalizing s with
  | done a => exact .done a
  | ask op next ih => exact .ask _ (ih _ _)

theorem transcript_bind (answer : Answerer Reply σ) (p : Program Reply α)
    (f : α → Program Reply β) (s : σ) :
    transcript answer (p >>= f) s
      = transcript answer p s ++ transcript answer (f (run answer p s).1) (run answer p s).2 := by
  induction p generalizing s with
  | done a => rfl
  | ask op next ih => exact congrArg (_ :: ·) (ih _ _)

end Program
end PriceOracle
