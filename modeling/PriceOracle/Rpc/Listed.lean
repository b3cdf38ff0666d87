import PriceOracle.Rpc.Basic

/-!
# PriceOracle.Rpc.Listed

Transactions that a block lists in full. Nothing of them matters, but a block counts only when each
of them is what a transaction of its kind has to be.
-/

namespace PriceOracle
namespace Rpc
namespace Listed

/-- What a transaction is besides a call with an amount. -/
inductive Kind where
  | priced
  /-- It lists what it will look at. -/
  | listing
  /-- It names the most that it pays for its gas, and the tip. -/
  | capped
  /-- It brings data for other layers with it. -/
  | carrying
  /-- It lets accounts act by the code of others. -/
  | delegating
  deriving Repr, DecidableEq

namespace Kind

/-- The kind with that number. A transaction without a number is of the oldest kind. -/
def ofJson? : Option Json → Option Kind
  | none => some priced
  | some (.string s) =>
    [("0x0", priced), ("0x00", priced), ("0x1", listing), ("0x01", listing), ("0x2", capped),
      ("0x02", capped), ("0x3", carrying), ("0x03", carrying), ("0x4", delegating),
      ("0x04", delegating)].lookup s
  | some _ => none

/-- The numbers of a transaction of that kind, with their bits. -/
def numbers : Kind → List (String × Nat)
  | priced => [("gasPrice", 128)]
  | listing => [("chainId", 64), ("gasPrice", 128)]
  | capped | delegating =>
    [("chainId", 64), ("maxFeePerGas", 128), ("maxPriorityFeePerGas", 128)]
  | carrying =>
    [("chainId", 64), ("maxFeePerGas", 128), ("maxPriorityFeePerGas", 128),
      ("maxFeePerBlobGas", 128)]

/-- May a transaction of that kind make a contract, and so have no recipient? -/
def canMake : Kind → Bool
  | carrying | delegating => false
  | _ => true

end Kind

def isPlace (j : Json) : Bool :=
  match Json.record? ["address", "storageKeys"] j with
  | some ⟨[address, keys], _⟩ =>
    (address.bind (bytesOf? 20)).isSome && (keys.bind (Json.list? word?)).isSome
  | _ => false

/-- A bit of a signature, as it is or in the number that comes with the signature. -/
def parity? (n : Nat) : Option Nat :=
  if n < 2 then some n
  else if n = 27 ∨ n = 28 then some (n - 27)
  else if 35 ≤ n then some ((n - 35) % 2)
  else none

/-- Is there a signature? The bit may be there in two forms. -/
def isSigned (kind : Kind) (field : String → Option Json) : Bool :=
  let bit := (field "yParity").map fun j => (quantity? 64 j).filter (· < 2)
  let mixed := (field "v").map fun j => (quantity? 64 j).bind parity?
  let bits := if kind = .priced then mixed.toList else bit.toList ++ mixed.toList
  ["r", "s"].all (fun name => ((field name).bind (quantity? 256)).isSome) &&
    bits.head?.any (fun b => b.isSome && bits.all (· = b))

/-- Is it what an account has signed to act by the code of another one? -/
def isDelegation : Json → Bool
  | .object fields =>
    let field (name : String) := Json.lookup name fields
    let bit := field "yParity" <|> field "v"
    ["chainId", "r", "s"].all (fun name => ((field name).bind (quantity? 256)).isSome) &&
      ((field "address").bind (bytesOf? 20)).isSome &&
      ((field "nonce").bind (quantity? 64)).isSome && (bit.bind (quantity? 8)).isSome
  | _ => false

def isListOf (isItem : Json → Bool) : Json → Bool
  | .array items => items.all isItem
  | _ => false

/-- Is there what only transactions of that kind have? -/
def hasOwnParts (kind : Kind) (field : String → Option Json) : Bool :=
  let isList (name : String) (isItem : Json → Bool) := (field name).any (isListOf isItem)
  kind.numbers.all (fun (name, bits) => ((field name).bind (quantity? bits)).isSome) &&
    (kind = .priced || isList "accessList" isPlace) &&
    (kind ≠ .carrying || isList "blobVersionedHashes" fun j => (word? j).isSome) &&
    (kind ≠ .delegating || isList "authorizationList" isDelegation)

def isTransaction : Json → Bool
  | .object fields =>
    let field (name : String) := Json.lookup name fields
    let gas := field "gas" <|> field "gasLimit"
    match Kind.ofJson? (field "type") with
    | none => false
    | some kind =>
      hasOwnParts kind field && isSigned kind field &&
        ((field "hash").bind word?).isSome && ((field "from").bind (bytesOf? 20)).isSome &&
        (match optional (bytesOf? 20) (field "to") with
          | none => false
          | some recipient => kind.canMake || recipient.isSome) &&
        ((field "nonce").bind (quantity? 64)).isSome && (gas.bind (quantity? 64)).isSome &&
        ((field "value").bind (quantity? 256)).isSome && ((field "input").bind bytes?).isSome &&
        (optional (quantity? 64) (field "chainId")).isSome &&
        (optional word? (field "blockHash")).isSome &&
        (optional (quantity? 64) (field "blockNumber")).isSome &&
        (optional (quantity? 64) (field "transactionIndex")).isSome
  | _ => false

end Listed
end Rpc
end PriceOracle
