import PriceOracle.Rpc.Basic

/-!
# PriceOracle.Rpc.Sync

Whether a node is in step with its network. One that is not tells how far it has come.
-/

namespace PriceOracle
namespace Rpc
namespace Sync

/-- Other names that some nodes use. -/
def properName (name : String) : String :=
  if name = "stage_name" then "name" else if name = "block_number" then "block" else name

/-- Is it a stage with its name and the block it has come to? -/
def isStage (j : Json) : Bool :=
  let j :=
    match j with
    | .object fields => .object (fields.map fun (name, v) => (properName name, v))
    | j => j
  match Json.record? ["name", "block"] j with
  | some ⟨[name, block], _⟩ =>
    (name.bind Json.string?).isSome && (block.bind (quantity? 64)).isSome
  | _ => false

def areStages : Json → Bool
  | .null => true
  | .array items => items.all isStage
  | _ => false

def isProgress (j : Json) : Bool :=
  match Json.record? ["startingBlock", "currentBlock", "highestBlock", "warpChunksAmount",
      "warpChunksProcessed", "stages"] j with
  | some ⟨[first, current, highest, amount, processed, stages], byName⟩ =>
    [first, current, highest].all (fun n => (n.bind (quantity? 256)).isSome) &&
      [amount, processed].all (fun n => (optional (quantity? 256) n).isSome) &&
      (stages.map areStages).getD true &&
      (byName || [amount, processed, stages].all Option.isSome)
  | _ => false

/-- Is the node out of step with its network? -/
def ofJson? : Json → Option Bool
  | .bool false => some false
  | .bool true => none
  | j => if isProgress j then some true else none

end Sync
end Rpc
end PriceOracle
