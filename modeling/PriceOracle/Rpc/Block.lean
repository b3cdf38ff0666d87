import PriceOracle.Rpc.Listed

/-!
# PriceOracle.Rpc.Block

Blocks in the answers of a node. Of a block only its number, its time and its base fee matter, but
it counts only when all of its parts are what they have to be.
-/

namespace PriceOracle
namespace Rpc

structure Block where
  number : Nat
  /-- Seconds since the start of 1970. -/
  time : Nat
  /-- What a unit of gas costs at least. Old blocks have no such fee. -/
  baseFee : Option Nat
  deriving Repr, DecidableEq

namespace Block

open Listed (isListOf)

def digests : List (String × Nat) :=
  [("hash", 32), ("parentHash", 32), ("sha3Uncles", 32), ("miner", 20), ("stateRoot", 32),
    ("transactionsRoot", 32), ("receiptsRoot", 32), ("logsBloom", 256), ("mixHash", 32),
    ("nonce", 8)]

/-- Parts that are numbers of so many bits. -/
def numbers : List (String × Nat) := [("difficulty", 256), ("gasLimit", 64), ("gasUsed", 64)]

/-- Parts of so many bytes that not every block has. -/
def laterDigests : List (String × Nat) :=
  [("withdrawalsRoot", 32), ("parentBeaconBlockRoot", 32), ("requestsHash", 32)]

/-- Numbers of so many bits that not every block has. -/
def laterNumbers : List (String × Nat) :=
  [("totalDifficulty", 256), ("size", 256), ("blobGasUsed", 64), ("excessBlobGas", 64)]

def isWithdrawal (j : Json) : Bool :=
  match Json.record? ["index", "validatorIndex", "address", "amount"] j with
  | some ⟨[index, validator, address, amount], _⟩ =>
    [index, validator, amount].all (fun n => (n.bind (quantity? 64)).isSome) &&
      (address.bind (bytesOf? 20)).isSome
  | _ => false

def isHash (j : Json) : Bool := (word? j).isSome

def missingOr (passes : Json → Bool) (field : Option Json) : Bool := (field.map passes).getD true

def isNull : Json → Bool
  | .null => true
  | _ => false

/-- The transactions of a block are listed in full, or only by their hashes, or not at all. -/
def areTransactions (j : Json) : Bool :=
  isNull j || isListOf isHash j || isListOf Listed.isTransaction j

/-- Is everything in its place but the parts that matter? -/
def isComplete (fields : List (String × Json)) : Bool :=
  let field (name : String) := Json.lookup name fields
  digests.all (fun (name, size) => ((field name).bind (bytesOf? size)).isSome) &&
    numbers.all (fun (name, bits) => ((field name).bind (quantity? bits)).isSome) &&
    laterDigests.all (fun (name, size) => (optional (bytesOf? size) (field name)).isSome) &&
    laterNumbers.all (fun (name, bits) => (optional (quantity? bits) (field name)).isSome) &&
    ((field "extraData").bind bytes?).isSome &&
    missingOr (isListOf isHash) (field "uncles") &&
    missingOr areTransactions (field "transactions") &&
    missingOr (fun j => isNull j || isListOf isWithdrawal j) (field "withdrawals")

def ofJson? : Json → Option Block
  | .object fields =>
    if isComplete fields then do
      let number ← (Json.lookup "number" fields).bind (quantity? 64)
      let time ← (Json.lookup "timestamp" fields).bind (quantity? 64)
      let baseFee ← optional (quantity? 64) (Json.lookup "baseFeePerGas" fields)
      some ⟨number, time, baseFee⟩
    else none
  | _ => none

/-- The block in JSON, with nothing in the parts that do not matter. -/
def toJson (b : Block) : Json :=
  .object (digests.map (fun (name, size) => (name, hex (List.replicate size 0))) ++
    numbers.map (fun (name, _) => (name, quantity 0)) ++
    [("extraData", hex []), ("number", quantity b.number), ("timestamp", quantity b.time)] ++
    (b.baseFee.map fun fee => ("baseFeePerGas", quantity fee)).toList)

end Block
end Rpc
end PriceOracle
