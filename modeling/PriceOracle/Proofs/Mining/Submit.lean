import PriceOracle.Mining.Worker
import PriceOracle.Proofs.Node

/-!
# PriceOracle.Proofs.Mining.Submit

What a worker asks when it has a solution. It reads until its way is `Cleared`; then it sends the
solution, and that is the last thing it asks for.

* `submit_eq`: a submission is prepared and then sent.
* `submit_asks`: when the solution is sent, the submission is cleared.
* `says_submit`: a submission that succeeds has sent the solution.
-/

namespace PriceOracle
namespace Mining

open Node Node.Action Chain
open Program (Exchange Says Reaches)

/-- What is done for a submission before it is sent: the value to report, and the cost. -/
def prepare (account : Address) (gasLimit : Nat) (round : Round) : Action (Word × Word) := do
  ensureSynced
  match ← getWord (Key.queryValue round.requestId) with
  | none => throw (.refused (.noValue round.requestId))
  | some value =>
    let price ← currentGasPrice
    let cost := costOf price gasLimit
    let balance ← query (.etherBalance account)
    if balance < cost then throw (.funds balance cost)
    return (value, cost)

theorem submit_eq (account : Address) (gasLimit : Nat) (round : Round) (nonce : Nonce) :
    submit account gasLimit round nonce = do
      let (value, cost) ← prepare account gasLimit round
      let _ ← send (.submitSolution nonce.text (BitVec.ofNat 256 round.requestId) value)
      return cost := by
  simp only [submit, prepare, bind_assoc]
  congr
  funext _
  congr
  funext value
  cases value with
  | none => rfl
  | some value =>
    simp only [bind_assoc]
    congr
    funext price
    congr
    funext balance
    split <;> rfl

/-- The price of gas was looked for: it is the stored one, or else the one of the chain. -/
inductive Priced (price : Word) : List (Exchange Reply) → Prop where
  | stored {raw : Bytes} : Quantity.decode Key.gasPrice raw = .ok price →
      Priced price [⟨.get Key.gasPrice, .ok (some raw)⟩]
  | asked : Priced price [⟨.get Key.gasPrice, .ok none⟩, ⟨.chain (.query .gasPrice), .ok price⟩]

/-- The way to a submission was clear: the chain was in step, there was a value to report, and the
account could pay the greatest cost, as far as a word goes. -/
inductive Cleared (account : Address) (gasLimit requestId : Nat) (value cost : Word) :
    List (Exchange Reply) → Prop where
  | mk {raw : Bytes} {price balance : Word} {asks : List (Exchange Reply)} :
      Quantity.decode (Key.queryValue requestId) raw = .ok value →
      Priced price asks →
      cost.toNat = min (Nat.pow 2 256 - 1) (price.toNat * gasLimit) →
      cost.toNat ≤ balance.toNat →
      Cleared account gasLimit requestId value cost
        ([⟨.chain (.query .isSyncing), .ok false⟩,
            ⟨.get (Key.queryValue requestId), .ok (some raw)⟩] ++ asks ++
          [⟨.chain (.query (.etherBalance account)), .ok balance⟩])

theorem toNat_costOf (price : Word) (gasLimit : Nat) :
    (costOf price gasLimit).toNat = min (Nat.pow 2 256 - 1) (price.toNat * gasLimit) := by
  unfold costOf Word.saturating Word.ofNat?
  split
  · next h =>
    rw [Nat.pow_eq] at h
    rw [Option.getD_some, BitVec.toNat_ofNat, Nat.mod_eq_of_lt h, Nat.pow_eq]
    omega
  · next h =>
    rw [Nat.pow_eq] at h
    rw [Option.getD_none, Word.greatest, BitVec.toNat_allOnes, Nat.pow_eq]
    omega

theorem priced_of_log {log : List (Exchange Reply)} {price : Word}
    (h : Says currentGasPrice.outcome log (.ok price)) : Priced price log := by
  obtain ⟨l₁, l₂, stored, rfl, h₁, h₂⟩ := says_andThen.1 h
  obtain ⟨record, rfl, hr⟩ := says_getWord.1 h₁
  match record, stored, hr with
  | none, none, _ =>
    rw [says_query.1 h₂]
    exact .asked
  | some raw, some w, hr =>
    obtain ⟨rfl, hw⟩ := Program.says_done.1 h₂
    cases hw
    exact .stored hr

theorem cleared_of_log {account : Address} {gasLimit : Nat} {round : Round} {value cost : Word}
    {log : List (Exchange Reply)}
    (h : Says (prepare account gasLimit round).outcome log (.ok (value, cost))) :
    Cleared account gasLimit round.requestId value cost log := by
  obtain ⟨l₁, l₂, _, rfl, h₁, h₂⟩ := says_andThen.1 h
  rw [says_ensureSynced.1 h₁]
  obtain ⟨l₃, l₄, found, rfl, h₃, h₄⟩ := says_andThen.1 h₂
  obtain ⟨record, rfl, hr⟩ := says_getWord.1 h₃
  match record, found, hr with
  | none, none, _ => cases (Program.says_done.1 h₄).2
  | some raw, some w, hr =>
    obtain ⟨asks, l₆, price, rfl, h₅, h₆⟩ := says_andThen.1 h₄
    obtain ⟨l₇, l₈, balance, rfl, h₇, h₈⟩ := says_andThen.1 h₆
    rw [says_query.1 h₇]
    split at h₈
    · cases (Program.says_done.1 h₈).2
    · next hfunds =>
      obtain ⟨rfl, hres⟩ := Program.says_done.1 h₈
      cases hres
      rw [BitVec.lt_def, Nat.not_lt] at hfunds
      have priced := priced_of_log h₅
      have cleared : Cleared account gasLimit round.requestId _ _ _ :=
        .mk hr priced (toNat_costOf price gasLimit) hfunds
      simpa using cleared

theorem asks_prepare (account : Address) (gasLimit : Nat) (round : Round) :
    Asks IsReading (prepare account gasLimit round) := by
  refine (asks_ensureSynced trivial).bind fun _ => ?_
  refine (asks_getWord trivial).bind fun value => ?_
  cases value with
  | none => exact asks_throw _
  | some value =>
    refine Asks.bind ?_ fun price => ?_
    · refine (asks_getWord trivial).bind fun price => ?_
      cases price with
      | none => exact asks_query trivial
      | some price => exact asks_pure _
    · refine (asks_query trivial).bind fun balance => ?_
      simp only
      split
      · exact asks_throw _
      · exact asks_pure _

/-- A submission asks only for what is known, until the solution is sent. -/
theorem submit_asks {account : Address} {gasLimit : Nat} {round : Round} {nonce : Nonce}
    {log : List (Exchange Reply)} {op : Ask} {next : Reply op → Program Reply (Except Failure Word)}
    (h : Reaches (submit account gasLimit round nonce).outcome log (.ask op next)) :
    IsReading op ∨ ∃ value cost, Cleared account gasLimit round.requestId value cost log ∧
      op = .chain (.send (.submitSolution nonce.text (BitVec.ofNat 256 round.requestId) value)) := by
  rw [submit_eq] at h
  obtain ⟨next', hn⟩ | ⟨l₁, l₂, ⟨value, cost⟩, rfl, h₁, h₂⟩ := reaches_andThen h
  · exact .inl (asks_prepare _ _ _ _ _ _ hn)
  · obtain ⟨next', hn⟩ | ⟨l₃, l₄, hash, -, -, h₄⟩ := reaches_andThen h₂
    · obtain ⟨rfl, rfl⟩ := reaches_single hn
      rw [List.append_nil]
      exact .inr ⟨value, cost, cleared_of_log h₁, rfl⟩
    · cases (Program.reaches_done.1 h₄).2

/-- A submission that comes to its end has sent the solution. -/
theorem says_submit {account : Address} {gasLimit : Nat} {round : Round} {nonce : Nonce}
    {log : List (Exchange Reply)} {cost : Word}
    (h : Says (submit account gasLimit round nonce).outcome log (.ok cost)) :
    ∃ value hash asks, Cleared account gasLimit round.requestId value cost asks ∧
      log = asks ++ [⟨.chain (.send (.submitSolution nonce.text (BitVec.ofNat 256 round.requestId)
        value)), .ok hash⟩] := by
  rw [submit_eq] at h
  obtain ⟨asks, l₂, ⟨value, cost'⟩, rfl, h₁, h₂⟩ := says_andThen.1 h
  obtain ⟨l₃, l₄, hash, rfl, h₃, h₄⟩ := says_andThen.1 h₂
  obtain ⟨rfl, hres⟩ := Program.says_done.1 h₄
  cases hres
  rw [says_send.1 h₃]
  exact ⟨value, hash, asks, cleared_of_log h₁, rfl⟩

end Mining
end PriceOracle
