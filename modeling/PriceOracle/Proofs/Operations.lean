import PriceOracle.Chain.Ledger
import PriceOracle.Operations
import PriceOracle.Proofs.Node
import PriceOracle.World

/-!
# PriceOracle.Proofs.Operations

An operation sends one transaction or none. A chain is seen through a `View`, and an `Obliging` one
answers by its view and takes every order as long as it can be reached; the ledger does so
(`obliging_ledger`). `Meets` says how an action ends on such a chain.

* `meets_whenStatus`, `meets_spend`: the operations that share a condition.
* `meets_act`: an order is carried out just when its condition holds, and is `Settled`.
* `orders_account`: what was sent over any number of orders, and why some were not.
-/

namespace PriceOracle
namespace Operations

open Node Node.Action
open Chain (Query Transaction Ledger)

/-! ## Orders -/

/-- An operation that may send a transaction, with its arguments. -/
inductive Order where
  | deposit
  | requestWithdraw
  | withdraw
  | transfer (recipient : Address) (amount : Word)
  | approve (spender : Address) (amount : Word)
  | addTip (requestId amount : Word)
  | beginDispute (requestId timestamp : Word) (minerIndex : Nat)
  | vote (disputeId : Word) (supports : Bool)
  deriving Repr, DecidableEq

namespace Order

/-- Carry out an order. There is no hash where the operation has nothing to do. -/
def act (account : Address) : Order → Action (Option Word)
  | .deposit => Operations.deposit account
  | .requestWithdraw => Operations.requestWithdraw account
  | .withdraw => Operations.withdraw account
  | .transfer recipient amount => do return some (← Operations.transfer account recipient amount)
  | .approve spender amount => do return some (← Operations.approve account spender amount)
  | .addTip requestId amount => do return some (← Operations.addTip account requestId amount)
  | .beginDispute requestId timestamp minerIndex => do
    return some (← Operations.beginDispute account requestId timestamp minerIndex)
  | .vote disputeId supports => Operations.vote account disputeId supports

def transaction : Order → Transaction
  | .deposit => .depositStake
  | .requestWithdraw => .requestWithdraw
  | .withdraw => .withdrawStake
  | .transfer recipient amount => .transfer recipient amount
  | .approve spender amount => .approve spender amount
  | .addTip requestId amount => .addTip requestId amount
  | .beginDispute requestId timestamp minerIndex =>
    .beginDispute requestId timestamp (BitVec.ofNat 256 minerIndex)
  | .vote disputeId supports => .vote disputeId supports

end Order

/-- A chain as it looks to the operations. -/
structure View where
  reachable : Bool
  syncing : Bool
  tokens : Address → Word
  stake : Address → Stake.Info
  setting : Word → Word
  voted : Word → Address → Bool
  /-- The transactions so far, the latest first. -/
  sent : List Transaction

namespace View

/-- The chain can be reached and is in step with its network. -/
def Ready (v : View) : Prop := v.reachable = true ∧ v.syncing = false

/-- What there is to see of the answer to a query. -/
def known? (v : View) : (q : Query) → Option q.Answer
  | .isSyncing => some v.syncing
  | .tokenBalance account => some (v.tokens account)
  | .stake account => some (v.stake account)
  | .setting key => some (v.setting key)
  | .hasVoted disputeId voter => some (v.voted disputeId voter)
  | _ => none

end View

namespace Order

/-- How many tokens the account has to have. -/
def needed? (v : View) : Order → Option Word
  | .deposit => some (v.setting (settingKey "stakeAmount"))
  | .beginDispute _ _ _ => some (v.setting (settingKey "disputeFee"))
  | .transfer _ amount | .approve _ amount | .addTip _ amount => some amount
  | .requestWithdraw | .withdraw | .vote _ _ => none

def Allowed (v : View) (account : Address) : Order → Prop
  | .deposit =>
    ((v.stake account).status = 0 ∨ (v.stake account).status = 2) ∧
      v.setting (settingKey "stakeAmount") ≤ v.tokens account
  | .requestWithdraw => (v.stake account).status = 1
  | .withdraw => (v.stake account).status = 2
  | .transfer _ amount | .approve _ amount | .addTip _ amount => amount ≤ v.tokens account
  | .beginDispute _ _ minerIndex =>
    minerIndex ≤ 4 ∧ v.setting (settingKey "disputeFee") ≤ v.tokens account
  | .vote disputeId _ => v.voted disputeId account = false

end Order

/-! ## Chains that take every order -/

variable {χ : Type}

/-- The chain answers by its view and takes every order, as long as it can be reached. -/
structure Obliging (answerChain : Program.Answerer Chain.Call.Answer χ) (view : χ → View) :
    Prop where
  tells : ∀ c q x, (view c).reachable = true → (view c).known? q = some x →
    (answerChain (.query q) c).1 = .ok x
  fails : ∀ c, (view c).reachable = false →
    ∃ e, (answerChain (.query .isSyncing) c).1 = .error e
  keeps : ∀ c q, view (answerChain (.query q) c).2 = view c
  takes : ∀ c (order : Order), (view c).reachable = true →
    ∃ hash, (answerChain (.send order.transaction) c).1 = .ok hash ∧
      (view (answerChain (.send order.transaction) c).2).sent
        = order.transaction :: (view c).sent

def ofLedger (l : Ledger) : View where
  reachable := !l.unreachable
  syncing := l.syncing
  tokens := fun _ => l.tokenBalance
  stake := fun _ => l.stake
  setting := fun key => (l.settings.get? key).getD 0
  voted := fun disputeId voter => l.votes.contains (disputeId, voter)
  sent := l.sent

/-- Solutions are the only transactions that a ledger may refuse, and no order is one. -/
theorem obliging_ledger : Obliging Ledger.answer ofLedger where
  tells := by
    intro l q x hr hx
    have hr : l.unreachable = false := by simpa [ofLedger] using hr
    have hread : l.read q = l.lookUp q := by simp [Ledger.read, hr]
    cases q <;> cases hx <;> exact hread
  fails := by
    intro l hr
    have hr : l.unreachable = true := by simpa [ofLedger] using hr
    exact ⟨.unavailable Ledger.refused, by simp [Ledger.answer, Ledger.read, Ledger.survives, hr]⟩
  keeps := by
    intro l q
    cases q <;> rfl
  takes := by
    intro l order hr
    have hr : l.unreachable = false := by simpa [ofLedger] using hr
    have hs : Ledger.isSolution order.transaction = false := by cases order <;> rfl
    let after : Ledger := { l with sent := order.transaction :: l.sent }
    have hsend : Ledger.answer (.send order.transaction) l = (.ok after.latestHash, after) := by
      simp [Ledger.answer, Ledger.send, hr, hs, after]
    rw [hsend]
    exact ⟨_, rfl, rfl⟩

/-! ## How an action ends -/

section Meets

variable {α : Type} (answerChain : Program.Answerer Chain.Call.Answer χ) (view : χ → View)

/-- Where the chain looks so, the action ends with such a result and such a chain. -/
def Meets (v : View) (a : Action α) (post : Except Failure α → View → Prop) : Prop :=
  ∀ w : World χ, view w.chain = v →
    post (a.outcome.run (World.answer answerChain) w).1
      (view (a.outcome.run (World.answer answerChain) w).2.chain)

variable {answerChain view} {v : View} {β : Type} {post : Except Failure β → View → Prop}

theorem meets_pure {x : β} (h : post (.ok x) v) : Meets answerChain view v (pure x) post := by
  rintro w rfl
  exact h

theorem meets_throw {e : Failure} (h : post (.error e) v) :
    Meets answerChain view v (throw e) post := by
  rintro w rfl
  exact h

theorem Meets.bind {a : Action α} {f : α → Action β} (mid : Except Failure α → View → Prop)
    (ha : Meets answerChain view v a mid)
    (hok : ∀ x v', mid (.ok x) v' → Meets answerChain view v' (f x) post)
    (herror : ∀ e v', mid (.error e) v' → post (.error e) v') :
    Meets answerChain view v (a >>= f) post := by
  intro w hw
  have hmid := ha w hw
  rw [run_andThen]
  rcases hrun : a.outcome.run (World.answer answerChain) w with ⟨_ | x, w'⟩ <;> rw [hrun] at hmid
  · exact herror _ _ hmid
  · exact hok _ _ hmid w' rfl

theorem Meets.some {a : Action α} {post : Except Failure (Option α) → View → Prop}
    (ha : Meets answerChain view v a fun r => post (r.map Option.some)) :
    Meets answerChain view v (do return Option.some (← a)) post :=
  Meets.bind _ ha (fun _ _ h => meets_pure h) fun _ _ h => h

variable (obliging : Obliging answerChain view)
include obliging

theorem meets_query {q : Query} {x : q.Answer} (hr : v.reachable = true)
    (hx : v.known? q = Option.some x) {f : q.Answer → Action β}
    (hf : Meets answerChain view v (f x) post) :
    Meets answerChain view v (query q >>= f) post := by
  refine Meets.bind (fun r v' => r = .ok x ∧ v' = v) ?_ ?_ ?_
  · rintro w rfl
    rw [outcome_query]
    exact ⟨congrArg (Except.mapError Failure.ofChain) (obliging.tells _ _ _ hr hx),
      obliging.keeps _ _⟩
  · rintro y v' ⟨hy, rfl⟩
    cases hy
    exact hf
  · rintro e v' ⟨he, -⟩
    cases he

theorem meets_send (order : Order) {post : Except Failure Word → View → Prop}
    (hr : v.reachable = true)
    (h : ∀ hash v', v'.sent = order.transaction :: v.sent → post (.ok hash) v') :
    Meets answerChain view v (send order.transaction) post := by
  rintro w rfl
  obtain ⟨hash, hhash, hsent⟩ := obliging.takes w.chain order hr
  rw [outcome_send, Program.run_ask, Program.run_done]
  show post ((answerChain (.send order.transaction) w.chain).1.mapError _) _
  rw [hhash]
  exact h hash _ hsent

/-- A chain that is not in step is no reason to complain about tokens. -/
theorem meets_ensureSynced {f : Unit → Action β}
    (hunready : ∀ e, ¬v.Ready → (∀ actual needed, e ≠ .funds actual needed) → post (.error e) v)
    (hf : v.Ready → Meets answerChain view v (f ()) post) :
    Meets answerChain view v (ensureSynced >>= f) post := by
  refine Meets.bind (fun r v' => v' = v ∧
    ((r = .ok () ∧ v.Ready) ∨
      ∃ e, r = .error e ∧ ¬v.Ready ∧ ∀ actual needed, e ≠ .funds actual needed)) ?_ ?_ ?_
  · rintro w rfl
    rw [outcome_ensureSynced]
    refine ⟨obliging.keeps _ _, ?_⟩
    rw [Program.run_ask, Program.run_done]
    show syncVerdict (answerChain (.query .isSyncing) w.chain).1 = _ ∧ _ ∨
      ∃ e, syncVerdict (answerChain (.query .isSyncing) w.chain).1 = _ ∧ _
    cases hr : (view w.chain).reachable with
    | false =>
      obtain ⟨e, he⟩ := obliging.fails _ hr
      rw [he]
      refine .inr ⟨_, rfl, fun h => Bool.noConfusion (hr.symm.trans h.1), fun _ _ h => ?_⟩
      cases e <;> cases h
    | true =>
      rw [obliging.tells _ .isSyncing _ hr rfl]
      cases hs : (view w.chain).syncing with
      | false => exact .inl ⟨rfl, hr, hs⟩
      | true =>
        refine .inr ⟨_, rfl, fun h => Bool.noConfusion (hs.symm.trans h.2), fun _ _ h => ?_⟩
        cases h
  · rintro ⟨⟩ v' ⟨rfl, ⟨-, hready⟩ | ⟨e, he, -⟩⟩
    · exact hf hready
    · cases he
  · rintro e v' ⟨rfl, ⟨he, -⟩ | ⟨e', he, hunready', hfunds⟩⟩
    · cases he
    · cases he
      exact hunready e hunready' hfunds

theorem meets_ensureTokens {account : Address} {needed : Word} (hr : v.reachable = true)
    {f : Unit → Action β}
    (hfew : v.tokens account < needed → post (.error (.funds (v.tokens account) needed)) v)
    (hf : needed ≤ v.tokens account → Meets answerChain view v (f ()) post) :
    Meets answerChain view v (ensureTokens account needed >>= f) post := by
  refine Meets.bind (fun r v' => v' = v ∧
    ((r = .ok () ∧ needed ≤ v.tokens account) ∨
      (r = .error (.funds (v.tokens account) needed) ∧ v.tokens account < needed))) ?_ ?_ ?_
  · refine meets_query obliging hr rfl ?_
    by_cases hlt : v.tokens account < needed
    · rw [if_pos hlt]
      exact meets_throw ⟨rfl, .inr ⟨rfl, hlt⟩⟩
    · rw [if_neg hlt]
      exact meets_pure ⟨rfl, .inl ⟨rfl, BitVec.not_lt.1 hlt⟩⟩
  · rintro ⟨⟩ v' ⟨rfl, ⟨-, hle⟩ | ⟨he, -⟩⟩
    · exact hf hle
    · cases he
  · rintro e v' ⟨rfl, ⟨he, -⟩ | ⟨he, hlt⟩⟩
    · cases he
    · cases he
      exact hfew hlt

end Meets

/-! ## One order -/

/-- What an order comes to, by what the chain looked like. -/
structure Settled (v : View) (account : Address) (order : Order)
    (result : Except Failure (Option Word)) (v' : View) : Prop where
  paid : (∃ hash, result = .ok (some hash)) ↔ v.Ready ∧ order.Allowed v account
  sent : v'.sent = (if result.toOption.join.isSome then [order.transaction] else []) ++ v.sent
  funds : ∀ actual needed, result = .error (.funds actual needed) →
    actual = v.tokens account ∧ order.needed? v = some needed ∧ actual < needed

namespace Settled

variable {v v' : View} {account : Address} {order : Order}

theorem of_hash {hash : Word} (hready : v.Ready) (hallowed : order.Allowed v account)
    (hsent : v'.sent = order.transaction :: v.sent) :
    Settled v account order (.ok (some hash)) v' where
  paid := ⟨fun _ => ⟨hready, hallowed⟩, fun _ => ⟨hash, rfl⟩⟩
  sent := hsent
  funds := fun _ _ h => by cases h

theorem of_none (h : ¬order.Allowed v account) : Settled v account order (.ok none) v where
  paid := ⟨fun ⟨_, hash⟩ => (by cases hash), fun hallowed => absurd hallowed.2 h⟩
  sent := rfl
  funds := fun _ _ h => by cases h

theorem of_funds {needed : Word} (hallowed : ¬order.Allowed v account)
    (hneeded : order.needed? v = some needed) (hfew : v.tokens account < needed) :
    Settled v account order (.error (.funds (v.tokens account) needed)) v where
  paid := ⟨fun ⟨_, hash⟩ => (by cases hash), fun h => absurd h.2 hallowed⟩
  sent := rfl
  funds := fun _ _ h => by
    cases h
    exact ⟨rfl, hneeded, hfew⟩

/-- A failure that is not about tokens. -/
theorem of_error {e : Failure} (hnot : ¬(v.Ready ∧ order.Allowed v account))
    (hfunds : ∀ actual needed, e ≠ .funds actual needed) :
    Settled v account order (.error e) v where
  paid := ⟨fun ⟨_, hash⟩ => (by cases hash), fun h => absurd h hnot⟩
  sent := rfl
  funds := fun _ _ h => by
    cases h
    exact absurd rfl (hfunds _ _)

theorem of_unready {e : Failure} (hunready : ¬v.Ready)
    (hfunds : ∀ actual needed, e ≠ .funds actual needed) :
    Settled v account order (.error e) v := of_error (fun h => hunready h.1) hfunds

end Settled

section Orders

variable {answerChain : Program.Answerer Chain.Call.Answer χ} {view : χ → View}
  (obliging : Obliging answerChain view) {v : View} {account : Address} {order : Order}
include obliging

theorem meets_whenStatus {codes : List Nat} {act : Action Word}
    (hother : (v.stake account).status ∉ codes → ¬order.Allowed v account)
    (hact : v.Ready → (v.stake account).status ∈ codes →
      Meets answerChain view v act fun r => Settled v account order (r.map some)) :
    Meets answerChain view v (whenStatus account codes act) (Settled v account order) := by
  refine meets_ensureSynced obliging (fun _ => Settled.of_unready) fun hready => ?_
  refine meets_query obliging hready.1 rfl ?_
  by_cases hmem : (v.stake account).status ∈ codes
  · rw [if_pos (List.contains_iff_mem.2 hmem)]
    exact (hact hready hmem).some
  · rw [if_neg (fun h => hmem (List.contains_iff_mem.1 h))]
    exact meets_pure (.of_none (hother hmem))

theorem meets_spend (order : Order) {amount : Word} (hneeded : order.needed? v = some amount)
    (hallowed : order.Allowed v account ↔ amount ≤ v.tokens account) :
    Meets answerChain view v (do return some (← spend account amount order.transaction))
      (Settled v account order) := by
  refine Meets.some ?_
  refine meets_ensureSynced obliging (fun _ => Settled.of_unready) fun hready => ?_
  refine meets_ensureTokens obliging hready.1 (fun hlt => ?_) fun hle => ?_
  · exact .of_funds (fun h => BitVec.not_le.2 hlt (hallowed.1 h)) hneeded hlt
  · exact meets_send obliging order hready.1 fun _ _ => .of_hash hready (hallowed.2 hle)

theorem meets_deposit :
    Meets answerChain view v (deposit account) (Settled v account .deposit) := by
  refine meets_whenStatus obliging (fun h hallowed => h ?_) fun hready hmem => ?_
  · simpa using hallowed.1
  refine meets_query obliging hready.1 rfl (meets_query obliging hready.1 rfl ?_)
  have hstatus : (v.stake account).status = 0 ∨ (v.stake account).status = 2 := by simpa using hmem
  by_cases hlt : v.tokens account < v.setting (settingKey "stakeAmount")
  · rw [if_pos hlt]
    exact meets_throw (.of_funds (fun h => BitVec.not_le.2 hlt h.2) rfl hlt)
  · rw [if_neg hlt]
    exact meets_send obliging .deposit hready.1
      fun _ _ => .of_hash hready ⟨hstatus, BitVec.not_lt.1 hlt⟩

theorem meets_beginDispute {requestId timestamp : Word} {minerIndex : Nat} :
    Meets answerChain view v (do
        return some (← beginDispute account requestId timestamp minerIndex))
      (Settled v account (.beginDispute requestId timestamp minerIndex)) := by
  refine Meets.some ?_
  by_cases hindex : 4 < minerIndex
  · rw [beginDispute, if_pos hindex]
    refine meets_throw (.of_error (fun h => ?_) fun _ _ h => by cases h)
    exact Nat.not_le.2 hindex h.2.1
  rw [beginDispute, if_neg hindex]
  refine meets_ensureSynced obliging (fun _ => Settled.of_unready) fun hready => ?_
  refine meets_query obliging hready.1 rfl ?_
  refine meets_ensureTokens obliging hready.1 (fun hlt => ?_) fun hle => ?_
  · exact .of_funds (fun h => BitVec.not_le.2 hlt h.2) rfl hlt
  · exact meets_send obliging (.beginDispute requestId timestamp minerIndex) hready.1
      fun _ _ => .of_hash hready ⟨Nat.not_lt.1 hindex, hle⟩

theorem meets_vote {disputeId : Word} {supports : Bool} :
    Meets answerChain view v (vote account disputeId supports)
      (Settled v account (.vote disputeId supports)) := by
  refine meets_ensureSynced obliging (fun _ => Settled.of_unready) fun hready => ?_
  refine meets_query obliging hready.1 rfl ?_
  cases hvoted : v.voted disputeId account with
  | true =>
    refine meets_pure (.of_none fun h => ?_)
    exact Bool.noConfusion (hvoted.symm.trans h)
  | false =>
    refine Meets.some (meets_send obliging (.vote disputeId supports) hready.1 ?_)
    exact fun _ _ => .of_hash hready hvoted

theorem meets_act (account : Address) (order : Order) :
    Meets answerChain view v (order.act account) (Settled v account order) := by
  cases order with
  | deposit => exact meets_deposit obliging
  | requestWithdraw =>
    refine meets_whenStatus obliging (fun h hallowed => h (List.mem_singleton.2 hallowed)) ?_
    intro hready hmem
    exact meets_send obliging .requestWithdraw hready.1
      fun _ _ => .of_hash hready (List.mem_singleton.1 hmem)
  | withdraw =>
    refine meets_whenStatus obliging (fun h hallowed => h (List.mem_singleton.2 hallowed)) ?_
    intro hready hmem
    exact meets_send obliging .withdraw hready.1
      fun _ _ => .of_hash hready (List.mem_singleton.1 hmem)
  | transfer recipient amount =>
    exact meets_spend obliging (.transfer recipient amount) rfl Iff.rfl
  | approve spender amount =>
    exact meets_spend obliging (.approve spender amount) rfl Iff.rfl
  | addTip requestId amount =>
    exact meets_spend obliging (.addTip requestId amount) rfl Iff.rfl
  | beginDispute => exact meets_beginDispute obliging
  | vote => exact meets_vote obliging

end Orders

/-! ## Any number of orders -/

structure Done (χ : Type) where
  account : Address
  order : Order
  before : World χ
  result : Except Failure (Option Word)
  after : World χ

/-- The transaction that an order comes to when it ends with a hash. -/
def Done.sent? (d : Done χ) : Option Transaction :=
  match d.result with
  | .ok (some _) => some d.order.transaction
  | _ => none

/-- Orders one after another, the latest first. The world may change between them, as long as
nothing is sent. -/
inductive Session (answerChain : Program.Answerer Chain.Call.Answer χ) (view : χ → View)
    (first : World χ) : List (Done χ) → World χ → Prop where
  | start : Session answerChain view first [] first
  | operate {history : List (Done χ)} {w w' : World χ} (account : Address) (order : Order)
      {result : Except Failure (Option Word)} :
      Session answerChain view first history w →
      (order.act account).outcome.run (World.answer answerChain) w = (result, w') →
      Session answerChain view first (⟨account, order, w, result, w'⟩ :: history) w'
  | change {history : List (Done χ)} {w w' : World χ} :
      Session answerChain view first history w → (view w'.chain).sent = (view w.chain).sent →
      Session answerChain view first history w'

/-- An entry of a history tells the truth about its order. -/
def Done.Settles (view : χ → View) (d : Done χ) : Prop :=
  Settled (view d.before.chain) d.account d.order d.result (view d.after.chain)

theorem Done.Settles.sent {view : χ → View} {d : Done χ} (h : d.Settles view) :
    (view d.after.chain).sent = d.sent?.toList ++ (view d.before.chain).sent := by
  refine (Settled.sent h).trans (congrArg (· ++ _) ?_)
  obtain ⟨account, order, before, result, after⟩ := d
  match result with
  | .ok (some _) | .ok none | .error _ => rfl

theorem Session.settles {answerChain : Program.Answerer Chain.Call.Answer χ} {view : χ → View}
    (obliging : Obliging answerChain view) {first last : World χ} {history : List (Done χ)}
    (h : Session answerChain view first history last) : ∀ d ∈ history, d.Settles view := by
  induction h with
  | start => simp
  | @operate history w w' account order result _ hrun ih =>
    intro d hd
    obtain rfl | hd := List.mem_cons.1 hd
    · have hact := meets_act obliging account order w rfl
      rw [hrun] at hact
      exact hact
    · exact ih d hd
  | change _ _ ih => exact ih

/-- The transactions sent over any number of orders are those of the orders that ended with a hash,
one for each. An order ends so just when the chain is ready and the condition of the order holds,
and a lack of tokens is told in numbers. -/
theorem orders_account {answerChain : Program.Answerer Chain.Call.Answer χ} {view : χ → View}
    (obliging : Obliging answerChain view) {first last : World χ} {history : List (Done χ)}
    (h : Session answerChain view first history last) :
    (view last.chain).sent = history.filterMap Done.sent? ++ (view first.chain).sent ∧
    ∀ d ∈ history,
      (view d.after.chain).sent = d.sent?.toList ++ (view d.before.chain).sent ∧
      ((∃ hash, d.result = .ok (some hash)) ↔
        (view d.before.chain).Ready ∧ d.order.Allowed (view d.before.chain) d.account) ∧
      ∀ actual needed, d.result = .error (.funds actual needed) →
        actual = (view d.before.chain).tokens d.account ∧
          d.order.needed? (view d.before.chain) = some needed ∧ actual < needed := by
  have hall := h.settles obliging
  refine ⟨?_, fun d hd => ⟨(hall d hd).sent, (hall d hd).paid, (hall d hd).funds⟩⟩
  induction h with
  | start => rfl
  | @operate history w w' account order result _ _ ih =>
    have hd := hall _ List.mem_cons_self
    rw [hd.sent, ih fun d hd => hall d (List.mem_cons_of_mem _ hd), ← List.append_assoc,
      List.filterMap_cons]
    congr 1
    cases Done.sent? _ <;> rfl
  | change _ hsent ih => rw [hsent, ih hall]

/-- A ledger where every account has five tokens. -/
def fiveTokens : World Ledger := ⟨{ tokenBalance := 5 }, ⟨⟨[]⟩, none⟩, [], 0, 0, 0⟩

/-- Of two transfers the first is sent; for the second there are too few tokens. -/
theorem orders_account_twoTransfers :
    ∃ history last, Session Ledger.answer ofLedger fiveTokens history last ∧
      history.map Done.result = [.error (.funds 5 7), .ok (some 1)] ∧
      last.chain.sent = [.transfer 2 3] := by
  have first : Session Ledger.answer ofLedger fiveTokens _ _ :=
    .operate 1 (.transfer 2 3) .start rfl
  have second := Session.operate 1 (.transfer 2 7) first rfl
  refine ⟨_, _, second, rfl, ?_⟩
  exact (orders_account obliging_ledger second).1

end Operations
end PriceOracle
