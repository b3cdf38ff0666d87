import PriceOracle.Rpc.Basic
import PriceOracle.Rpc.Envelope

/-!
# PriceOracle.Rpc.Fees

What a transaction should offer for its gas, by the fees in the latest blocks: twice the base fee,
so that the base fee may rise for some blocks, and the median of the tips that were paid.
-/

namespace PriceOracle
namespace Rpc

structure FeeHistory where
  /-- The base fees of the blocks, the oldest first, and last the one of the block to come. -/
  base : List Nat
  /-- The tips that were paid in each block. -/
  tips : List (List Nat)
  deriving Repr, DecidableEq

namespace FeeHistory

def ofJson? (j : Json) : Option FeeHistory :=
  match Json.record? ["baseFeePerGas", "gasUsedRatio", "baseFeePerBlobGas", "blobGasUsedRatio",
      "oldestBlock", "reward"] j with
  | some ⟨[base, gasUsed, blobBase, blobGasUsed, oldest, reward], _⟩ => do
    let amounts := Json.list? (quantity? 128)
    let base ← Json.defaulted [] amounts base
    let _ ← Json.required (Json.nullable (Json.list? Json.double?)) gasUsed
    let _ ← Json.defaulted [] amounts blobBase
    let _ ← Json.defaulted [] (Json.list? Json.double?) blobGasUsed
    let _ ← Json.defaulted 0 (quantity? 64) oldest
    let tips ← optional (Json.list? amounts) reward
    some ⟨base, tips.getD []⟩
  | _ => none

/-- The base fee of the newest block, if there is one. -/
def newest? (h : FeeHistory) : Option Nat := (h.base.dropLast.getLast?).filter (· ≠ 0)

/-- The number in the middle of a sorted list, or the mean of the two. -/
def middle? (sorted : List Nat) : Option Nat :=
  let half := sorted.length / 2
  if sorted.length % 2 = 1 then sorted[half]?
  else do some (((← sorted[half - 1]?) + (← sorted[half]?)) / 2)

def leastTip : Nat := 1

def tip (h : FeeHistory) : Nat :=
  let paid := (h.tips.filterMap List.head?).filter (· ≠ 0)
  (middle? (paid.mergeSort (· ≤ ·))).getD leastTip

/-- What to offer when the newest block has the given base fee. -/
def offer (h : FeeHistory) (base : Nat) : Fees := ⟨2 * base + h.tip, h.tip⟩

end FeeHistory

end Rpc
end PriceOracle
