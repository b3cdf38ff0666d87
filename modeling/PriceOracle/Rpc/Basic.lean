import PriceOracle.Json.Record
import PriceOracle.Text.Numeral

/-!
# PriceOracle.Rpc.Basic

What a chain node is asked in JSON, and how its answers are read. Numbers come as text in
hexadecimal digits, but any numeral is taken; hashes, addresses and bytes come as text in pairs of
hexadecimal digits, or byte by byte in a list.
-/

namespace PriceOracle
namespace Rpc

inductive Ask where
  | latestBlock
  | syncing
  | gasPrice
  | block (number : Nat)
  | newestBlock
  | balance (account : Address)
  | logs (contract : Address) (topic : Word) (first : Nat) (last : Option Nat)
  /-- Call a function of a contract without a transaction. -/
  | call (contract : Address) (data : Bytes)
  /-- How much gas would a transaction of an account take? -/
  | estimate (account contract : Address) (data : Bytes)
  | chainId
  | transactionCount (account : Address)
  | feeHistory
  /-- Send a signed transaction. -/
  | submit (signed : Bytes)
  deriving Repr, DecidableEq

/-- The answer, unless there was an error. -/
@[reducible] def Reply (_ : Ask) : Type := Option Json

def hex (bytes : Bytes) : Json := .string ("0x" ++ Hex.encode bytes)

def quantity (n : Nat) : Json := .string ("0x" ++ String.ofList (Nat.toDigits 16 n))

def callJson (contract : Address) (data : Bytes) : Json :=
  .object [("to", .string contract.toHex), ("data", hex data)]

/-- A call of a contract in the name of an account. -/
def callJsonBy (account contract : Address) (data : Bytes) : Json :=
  .object [("from", .string account.toHex), ("to", .string contract.toHex), ("data", hex data)]

def lastJson : Option Nat → Json
  | some n => quantity n
  | none => .string "latest"

namespace Ask

def method : Ask → String
  | .latestBlock => "eth_blockNumber"
  | .syncing => "eth_syncing"
  | .gasPrice => "eth_gasPrice"
  | .block _ | .newestBlock => "eth_getBlockByNumber"
  | .balance _ => "eth_getBalance"
  | .logs _ _ _ _ => "eth_getLogs"
  | .call _ _ => "eth_call"
  | .estimate _ _ _ => "eth_estimateGas"
  | .chainId => "eth_chainId"
  | .transactionCount _ => "eth_getTransactionCount"
  | .feeHistory => "eth_feeHistory"
  | .submit _ => "eth_sendRawTransaction"

def params : Ask → List Json
  | .latestBlock | .syncing | .gasPrice | .chainId => []
  | .block number => [quantity number, .bool false]
  | .newestBlock => [.string "latest", .bool false]
  | .balance account => [.string account.toHex, .string "latest"]
  | .logs contract topic first last =>
    [.object [("address", .string contract.toHex), ("fromBlock", quantity first),
      ("toBlock", lastJson last), ("topics", .array [hex topic.toBytes])]]
  | .call contract data => [callJson contract data, .string "latest"]
  | .estimate account contract data => [callJsonBy account contract data]
  | .transactionCount account => [.string account.toHex, .string "pending"]
  | .feeHistory => [quantity 10, .string "latest", .array [.number (.double 20.0)]]
  | .submit signed => [hex signed]

end Ask

def quantity? (bits : Nat) : Json → Option Nat
  | .string s =>
    match Numeral.read? s with
    | some w => if w.toNat < Nat.pow 2 bits then some w.toNat else none
    | none => none
  | j => Json.natural? bits j

def byte? (j : Json) : Option UInt8 := (Json.natural? 8 j).map UInt8.ofNat

def bytes? : Json → Option Bytes
  | .string s => Hex.marked? s.toList
  | j => Json.list? byte? j

def bytesOf? (size : Nat) (j : Json) : Option Bytes :=
  (bytes? j).filter fun bytes => bytes.length = size

def word? (j : Json) : Option Word := (bytesOf? 32 j).map Word.ofBytes

/-- A field that may be missing or `null`, and can be read otherwise. -/
def optional {α : Type} (read : Json → Option α) (field : Option Json) : Option (Option α) :=
  Json.defaulted none (Json.nullable read) field

end Rpc
end PriceOracle
