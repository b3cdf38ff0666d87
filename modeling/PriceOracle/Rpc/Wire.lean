import PriceOracle.Json.Parser
import PriceOracle.Json.Printer
import PriceOracle.Rpc.Basic

/-!
# PriceOracle.Rpc.Wire

Questions and answers as documents.
-/

namespace PriceOracle
namespace Rpc

def Ask.document (a : Ask) : Bytes :=
  Utf8.encode (Json.object [("jsonrpc", .string "2.0"), ("id", .number (.integer 1)),
    ("method", .string a.method), ("params", .array a.params)]).print

def answer? (document : Bytes) : Option Json := do
  match ← Json.parseSound (← (Utf8.decode document).toOption) with
  | .object fields =>
    match Json.lookup "error" fields with
    | none | some .null => Json.lookup "result" fields
    | some _ => none
  | _ => none

end Rpc
end PriceOracle
