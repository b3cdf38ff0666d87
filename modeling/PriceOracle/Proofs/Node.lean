import PriceOracle.Node
import PriceOracle.Proofs.Program

/-!
# PriceOracle.Proofs.Node

Actions as dialogues. Each of the small actions has one lemma that lists its exchanges, and
`says_andThen`, `reaches_andThen` and `run_andThen` split a sequence of two actions, and `Asks` says
of which kind all questions of an action are.
-/

namespace PriceOracle
namespace Node

/-- Does the question leave everything as it is? -/
def IsReading : Ask → Prop
  | .chain (.query _) | .get _ => True
  | _ => False

/-- Is a record asked for? -/
def IsGet (op : Ask) : Prop := ∃ key, op = .get key

theorem IsGet.isReading {op : Ask} (h : IsGet op) : IsReading op := by
  obtain ⟨key, rfl⟩ := h
  trivial

namespace Action

open Program (Exchange Says Reaches Answerer)

variable {α β σ : Type}

theorem outcome_bind (a : Action α) (f : α → Action β) :
    (a >>= f).outcome = a.outcome >>= fun r =>
      match r with
      | .ok x => (f x).outcome
      | .error e => .done (.error e) := by
  refine congrArg (a.outcome >>= ·) (funext fun r => ?_)
  cases r <;> rfl

theorem outcome_orElse (a : Action α) (default : α) :
    (a.orElse default).outcome =
      a.outcome >>= fun r => .done (.ok (r.toOption.getD default)) := by
  refine congrArg (a.outcome >>= ·) (funext fun r => ?_)
  cases r <;> rfl

theorem outcome_query (q : Chain.Query) :
    (query q).outcome
      = .ask (.chain (.query q)) fun r => .done (r.mapError Failure.ofChain) := rfl

theorem outcome_send (t : Chain.Transaction) :
    (send t).outcome = .ask (.chain (.send t)) fun r => .done (r.mapError Failure.ofChain) := rfl

theorem outcome_get (key : String) :
    (get key).outcome = .ask (.get key) fun r => .done (r.mapError Failure.ofProxy) := rfl

theorem outcome_put (key : String) (value : Bytes) :
    (put key value).outcome = .ask (.put key value) fun r => .done (r.mapError Failure.ofProxy) :=
  rfl

theorem outcome_update (key : String) (change : Option Bytes → Except Store.Error Bytes) :
    (update key change).outcome
      = .ask (.update key change) fun r => .done (Except.mapError Failure.ofProxy r) := rfl

theorem outcome_ask (op : Ask) : (ask op).outcome = .ask op fun r => .done (.ok r) := rfl

/-- What comes of the answer whether the chain is syncing. -/
def syncVerdict : Except Chain.Error Bool → Except Failure Unit
  | .ok true => .error (.unavailable "ethereum node is still syncing with the network")
  | .ok false => .ok ()
  | .error e => .error (.ofChain e)

theorem outcome_ensureSynced :
    ensureSynced.outcome = .ask (.chain (.query .isSyncing)) fun r => .done (syncVerdict r) := by
  refine congrArg (Program.ask _) (funext fun r => ?_)
  match r with
  | .ok true | .ok false | .error _ => rfl

/-- What comes of a record that is asked for as a word. -/
def wordVerdict (key : String) : Except Proxy.Error (Option Bytes) → Except Failure (Option Word)
  | .error e => .error (.ofProxy e)
  | .ok none => .ok none
  | .ok (some raw) =>
    match Quantity.decode key raw with
    | .ok w => .ok (some w)
    | .error e => .error (.store e)

theorem outcome_getWord (key : String) :
    (getWord key).outcome = .ask (.get key) fun r => .done (wordVerdict key r) := by
  refine congrArg (Program.ask _) (funext fun r => ?_)
  match r with
  | .error _ | .ok none => rfl
  | .ok (some raw) =>
    show (match Quantity.decode key raw with
      | .ok w => pure (some w)
      | .error e => throw (.store e) : Action (Option Word)).outcome = _
    simp only [wordVerdict]
    cases Quantity.decode key raw <;> rfl

theorem says_andThen {a : Action α} {f : α → Action β} {log : List (Exchange Reply)} {b : β} :
    Says (a >>= f).outcome log (.ok b) ↔
      ∃ l₁ l₂ x, log = l₁ ++ l₂ ∧ Says a.outcome l₁ (.ok x) ∧ Says (f x).outcome l₂ (.ok b) := by
  rw [outcome_bind, Program.says_bind]
  constructor
  · rintro ⟨l₁, l₂, r, rfl, h₁, h₂⟩
    cases r with
    | ok x => exact ⟨l₁, l₂, x, rfl, h₁, h₂⟩
    | error e => cases h₂
  · rintro ⟨l₁, l₂, x, rfl, h₁, h₂⟩
    exact ⟨l₁, l₂, .ok x, rfl, h₁, h₂⟩

/-- Where a question of a sequence of actions comes from. -/
theorem reaches_andThen {a : Action α} {f : α → Action β} {log : List (Exchange Reply)} {op : Ask}
    {next : Reply op → Program Reply (Except Failure β)}
    (h : Reaches (a >>= f).outcome log (.ask op next)) :
    (∃ next', Reaches a.outcome log (.ask op next')) ∨
      ∃ l₁ l₂ x, log = l₁ ++ l₂ ∧ Says a.outcome l₁ (.ok x) ∧
        Reaches (f x).outcome l₂ (.ask op next) := by
  rw [outcome_bind] at h
  obtain ⟨next', hn, -⟩ | ⟨l₁, l₂, r, rfl, h₁, h₂⟩ := Program.reaches_bind h
  · exact .inl ⟨next', hn⟩
  · cases r with
    | ok x => exact .inr ⟨l₁, l₂, x, rfl, h₁, h₂⟩
    | error e => cases (Program.reaches_done.1 h₂).2

theorem reaches_single {op op' : Ask} {verdict : Reply op → Except Failure α}
    {log : List (Exchange Reply)} {next : Reply op' → Program Reply (Except Failure α)}
    (h : Reaches (.ask op fun r => .done (verdict r)) log (.ask op' next)) :
    log = [] ∧ op' = op := by
  obtain ⟨rfl, heq⟩ | ⟨r, rest, rfl, hr⟩ := Program.reaches_ask.1 h
  · cases heq
    exact ⟨rfl, rfl⟩
  · cases (Program.reaches_done.1 hr).2

/-- Are all questions of an action of a kind? -/
def Asks (P : Ask → Prop) (a : Action α) : Prop :=
  ∀ log op next, Reaches a.outcome log (.ask op next) → P op

section Asks

variable {P : Ask → Prop}

theorem Asks.of_mem {a : Action α} (ha : Asks P a) {log : List (Exchange Reply)}
    {q : Program Reply (Except Failure α)} (h : Reaches a.outcome log q) : ∀ x ∈ log, P x.op := by
  intro x hx
  obtain ⟨before, next, hb⟩ := h.asked hx
  exact ha _ _ _ hb

theorem Asks.mono {Q : Ask → Prop} {a : Action α} (ha : Asks P a) (h : ∀ op, P op → Q op) :
    Asks Q a := fun log op next hr => h op (ha log op next hr)

theorem Asks.bind {a : Action α} {f : α → Action β} (ha : Asks P a) (hf : ∀ x, Asks P (f x)) :
    Asks P (a >>= f) := by
  intro log op next h
  obtain ⟨next', hn⟩ | ⟨l₁, l₂, x, -, -, hx⟩ := reaches_andThen h
  · exact ha _ _ _ hn
  · exact hf x _ _ _ hx

theorem asks_pure (x : α) : Asks P (pure x) := by
  intro log op next h
  cases (Program.reaches_done.1 h).2

theorem asks_throw (e : Failure) : Asks P (throw e : Action α) := by
  intro log op next h
  cases (Program.reaches_done.1 h).2

theorem Asks.map {a : Action α} (ha : Asks P a) (f : α → β) : Asks P (f <$> a) := by
  rw [map_eq_pure_bind]
  exact ha.bind fun x => asks_pure (f x)

theorem Asks.orElse {a : Action α} (ha : Asks P a) (default : α) : Asks P (a.orElse default) := by
  intro log op next h
  rw [outcome_orElse] at h
  obtain ⟨next', hn, -⟩ | ⟨l₁, l₂, r, -, -, h₂⟩ := Program.reaches_bind h
  · exact ha _ _ _ hn
  · cases (Program.reaches_done.1 h₂).2

theorem asks_query {q : Chain.Query} (hop : P (.chain (.query q))) : Asks P (query q) := by
  intro log op next h
  rw [(reaches_single h).2]
  exact hop

theorem asks_get {key : String} (hop : P (.get key)) : Asks P (get key) := by
  intro log op next h
  rw [(reaches_single h).2]
  exact hop

theorem asks_getWord {key : String} (hop : P (.get key)) : Asks P (getWord key) := by
  intro log op next h
  rw [outcome_getWord] at h
  rw [(reaches_single h).2]
  exact hop

theorem asks_put {key : String} {value : Bytes} (hop : P (.put key value)) :
    Asks P (put key value) := by
  intro log op next h
  rw [(reaches_single h).2]
  exact hop

theorem asks_update {key : String} {change : Option Bytes → Except Store.Error Bytes}
    (hop : P (.update key change)) : Asks P (update key change) := by
  intro log op next h
  rw [outcome_update] at h
  rw [(reaches_single h).2]
  exact hop

theorem asks_ask {question : Ask} (hop : P question) : Asks P (ask question) := by
  intro log op next h
  rw [outcome_ask] at h
  rw [(reaches_single h).2]
  exact hop

theorem asks_ensureSynced (hop : P (.chain (.query .isSyncing))) : Asks P ensureSynced := by
  intro log op next h
  rw [outcome_ensureSynced] at h
  rw [(reaches_single h).2]
  exact hop

end Asks

theorem run_andThen (answer : Answerer Reply σ) (a : Action α) (f : α → Action β) (s : σ) :
    (a >>= f).outcome.run answer s
      = match a.outcome.run answer s with
        | (.ok x, s') => (f x).outcome.run answer s'
        | (.error e, s') => (.error e, s') := by
  rw [outcome_bind, Program.run_bind]
  obtain ⟨r, s'⟩ := a.outcome.run answer s
  cases r <;> rfl

theorem transcript_andThen (answer : Answerer Reply σ) (a : Action α) (f : α → Action β) (s : σ) :
    (a >>= f).outcome.transcript answer s
      = a.outcome.transcript answer s ++
        match a.outcome.run answer s with
        | (.ok x, s') => (f x).outcome.transcript answer s'
        | (.error _, _) => [] := by
  rw [outcome_bind, Program.transcript_bind]
  obtain ⟨r, s'⟩ := a.outcome.run answer s
  cases r <;> rfl

@[simp] theorem mapError_ok {ε ε' : Type} (f : ε → ε') (x : α) :
    (Except.ok x : Except ε α).mapError f = .ok x := rfl

@[simp] theorem mapError_error {ε ε' : Type} (f : ε → ε') (e : ε) :
    (Except.error e : Except ε α).mapError f = .error (f e) := rfl

theorem mapError_eq_ok {ε ε' : Type} {f : ε → ε'} {r : Except ε α} {x : α} :
    r.mapError f = .ok x ↔ r = .ok x := by
  cases r <;> simp

theorem says_single {op : Ask} {verdict : Reply op → Except Failure α}
    {log : List (Exchange Reply)} {result : Except Failure α} :
    Says (.ask op fun r => .done (verdict r)) log result ↔
      ∃ r, log = [⟨op, r⟩] ∧ verdict r = result := by
  rw [Program.says_ask]
  constructor
  · rintro ⟨r, rest, rfl, h⟩
    obtain ⟨rfl, rfl⟩ := Program.says_done.1 h
    exact ⟨r, rfl, rfl⟩
  · rintro ⟨r, rfl, rfl⟩
    exact ⟨r, [], rfl, .done _⟩

theorem says_query {q : Chain.Query} {log : List (Exchange Reply)} {x : q.Answer} :
    Says (query q).outcome log (.ok x) ↔ log = [⟨.chain (.query q), .ok x⟩] := by
  rw [outcome_query, says_single]
  simp only [mapError_eq_ok, exists_eq_right]

theorem says_send {t : Chain.Transaction} {log : List (Exchange Reply)} {hash : Word} :
    Says (send t).outcome log (.ok hash) ↔ log = [⟨.chain (.send t), .ok hash⟩] := by
  rw [outcome_send, says_single]
  simp only [mapError_eq_ok, exists_eq_right]

theorem says_get {key : String} {log : List (Exchange Reply)} {x : Option Bytes} :
    Says (get key).outcome log (.ok x) ↔ log = [⟨.get key, .ok x⟩] := by
  rw [outcome_get, says_single]
  simp only [mapError_eq_ok, exists_eq_right]

/-- A record as a word: nothing, or what the record is decoded to. -/
def Holds (key : String) (record : Option Bytes) (x : Option Word) : Prop :=
  match record, x with
  | none, none => True
  | some raw, some w => Quantity.decode key raw = .ok w
  | _, _ => False

theorem wordVerdict_eq_ok {key : String} {r : Reply (.get key)} {x : Option Word} :
    wordVerdict key r = .ok x ↔ ∃ record, r = .ok record ∧ Holds key record x := by
  match r, x with
  | .error e, x => simp [wordVerdict]
  | .ok none, none | .ok none, some w | .ok (some raw), none =>
    simp [wordVerdict, Holds]
    try (split <;> simp)
  | .ok (some raw), some w =>
    simp only [wordVerdict, Holds, Except.ok.injEq, exists_eq_left']
    cases Quantity.decode key raw <;> simp

theorem says_getWord {key : String} {log : List (Exchange Reply)} {x : Option Word} :
    Says (getWord key).outcome log (.ok x) ↔
      ∃ record, log = [⟨.get key, .ok record⟩] ∧ Holds key record x := by
  rw [outcome_getWord, says_single]
  constructor
  · rintro ⟨r, rfl, hv⟩
    obtain ⟨record, rfl, hr⟩ := wordVerdict_eq_ok.1 hv
    exact ⟨record, rfl, hr⟩
  · rintro ⟨record, rfl, hr⟩
    exact ⟨.ok record, rfl, wordVerdict_eq_ok.2 ⟨record, rfl, hr⟩⟩

theorem says_ensureSynced {log : List (Exchange Reply)} :
    Says ensureSynced.outcome log (.ok ()) ↔ log = [⟨.chain (.query .isSyncing), .ok false⟩] := by
  rw [outcome_ensureSynced, says_single]
  constructor
  · rintro ⟨r, rfl, hv⟩
    match r, hv with
    | .ok false, _ => rfl
  · rintro rfl
    exact ⟨.ok false, rfl, rfl⟩

end Action
end Node
end PriceOracle
