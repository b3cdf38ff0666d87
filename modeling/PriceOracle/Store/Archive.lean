import PriceOracle.Json.Parser
import PriceOracle.Json.Printer
import PriceOracle.Store.Disk

/-!
# PriceOracle.Store.Archive

The records of a store as the content of its file: an object with the values in hexadecimal digits,
by key. An empty file is an empty store.
-/

namespace PriceOracle
namespace Store
namespace Archive

def field : String × Bytes → String × Json
  | (key, value) => (key, .string (Hex.encode value))

def encode (records : Records) : Bytes := Utf8.encode (Json.object (records.map field)).print

def record? : String × Json → Option (String × Bytes)
  | (key, .string digits) => (Hex.decode digits).toOption.map fun value => (key, value)
  | _ => none

/-- The records in a content that is one of a store. -/
def decode? (content : Bytes) : Option Records :=
  if content.isEmpty then some []
  else do
    match ← Json.parse (← (Utf8.decode content).toOption) with
    | .object fields => (fields.mapM record?).map Table.ofPairs
    | _ => none

/-- What a file with a given content is. -/
def entry (content : Bytes) : Entry :=
  match decode? content with
  | some records => .store records false
  | none => .other

end Archive
end Store
end PriceOracle
