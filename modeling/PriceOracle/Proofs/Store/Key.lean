import PriceOracle.Proofs.Json.Numeral
import PriceOracle.Store.Key

/-!
# PriceOracle.Proofs.Store.Key

The records of the node as a type. No two of them have the same key (`Record.key_inj`): the first
nine characters of a key tell its family, and what follows in a numbered one is the number.
-/

namespace PriceOracle
namespace Key

inductive Record where
  | disputeStatus
  | currentChallenge
  | currentRequestId
  | currentDifficulty
  | gasPrice
  | ethBalance
  | tokenBalance
  | gasCost (slot : Nat)
  | priceHistory (requestId : Nat)
  | queryValue (requestId : Nat)
  deriving Repr, DecidableEq

namespace Record

def key : Record → String
  | .disputeStatus => Key.disputeStatus
  | .currentChallenge => Key.currentChallenge
  | .currentRequestId => Key.currentRequestId
  | .currentDifficulty => Key.currentDifficulty
  | .gasPrice => Key.gasPrice
  | .ethBalance => Key.ethBalance
  | .tokenBalance => Key.tokenBalance
  | .gasCost slot => Key.gasCost slot
  | .priceHistory requestId => Key.priceHistory requestId
  | .queryValue requestId => Key.queryValue requestId

/-- The characters that the keys of a family begin with and no others do. -/
def family : Record → String
  | .disputeStatus => "dispute_s"
  | .currentChallenge => "current_c"
  | .currentRequestId => "current_r"
  | .currentDifficulty => "current_d"
  | .gasPrice => "gas_price"
  | .ethBalance => "eth_balan"
  | .tokenBalance => "token_bal"
  | .gasCost _ => "gas_cost_"
  | .priceHistory _ => "price_his"
  | .queryValue _ => "query_val"

theorem take_key (r : Record) : r.key.toList.take 9 = r.family.toList := by
  cases r with
  | gasCost | priceHistory | queryValue =>
    simp [key, family, Key.gasCost, Key.priceHistory, Key.queryValue]
  | _ => rfl

theorem numbered_inj {stem : String} {a b : Nat} (h : stem ++ toString a = stem ++ toString b) :
    a = b := by
  have h := congrArg String.toList h
  rw [String.toList_append, String.toList_append] at h
  have hdigits : Nat.toDigits 10 a = Nat.toDigits 10 b := by
    simpa [Nat.toString_eq_repr] using List.append_cancel_left h
  exact Decimal.toDigits_inj.1 hdigits

theorem key_inj {r r' : Record} : r.key = r'.key ↔ r = r' := by
  refine ⟨fun h => ?_, congrArg key⟩
  have hfamily : r.family = r'.family := by
    rw [← String.toList_inj, ← take_key, ← take_key, h]
  cases r <;> cases r' <;>
    first
      | rfl
      | exact congrArg gasCost (numbered_inj h)
      | exact congrArg priceHistory (numbered_inj h)
      | exact congrArg queryValue (numbered_inj h)
      | simp [family] at hfamily

end Record

theorem gasCost_eq_iff {slot slot' : Nat} : gasCost slot = gasCost slot' ↔ slot = slot' := by
  have h := @Record.key_inj (.gasCost slot) (.gasCost slot')
  rwa [Record.gasCost.injEq] at h

end Key
end PriceOracle
