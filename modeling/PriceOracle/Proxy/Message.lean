import PriceOracle.Json.Printer
import PriceOracle.Json.Record
import PriceOracle.Text.Quoted

/-!
# PriceOracle.Proxy.Message

What a client and the server of a store say to each other, as JSON text. Record values travel as
hexadecimal text. `Request.ofText?` and `Response.ofText?` read more forms than are written; what
they read is written back in one form.
-/

namespace PriceOracle
namespace Proxy

inductive Request where
  | get (key : String)
  | put (key : String) (value : String)
  | close
  deriving Repr, DecidableEq

inductive Response where
  | value (value : Option String)
  | ack
  | error (message : String)
  deriving Repr, DecidableEq

def optional : Option String → Json
  | some s => .string s
  | none => .null

namespace Request

def toJson : Request → Json
  | .get key => .object [("op", .string "get"), ("key", .string key)]
  | .put key value =>
    .object [("op", .string "put"), ("key", .string key), ("value", .string value)]
  | .close => .object [("op", .string "close")]

def text (r : Request) : String := r.toJson.print

/-- The fields of a request of the kind `get`. -/
def getOfJson? (j : Json) : Option Request :=
  match Json.record? ["key"] j with
  | some ⟨[key], _⟩ => (Json.required Json.string? key).map .get
  | _ => none

/-- The fields of a request of the kind `put`. -/
def putOfJson? (j : Json) : Option Request :=
  match Json.record? ["key", "value"] j with
  | some ⟨[key, value], _⟩ => do
    let key ← Json.required Json.string? key
    let value ← Json.required Json.string? value
    some (.put key value)
  | _ => none

def ofJson? (j : Json) : Option Request :=
  match Json.tagged? "op" j with
  | some ("get", body) => getOfJson? body
  | some ("put", body) => putOfJson? body
  | some ("close", body) => if Json.isBare body then some .close else none
  | _ => none

def ofText? (s : String) : Option Request := (Json.parse s).bind ofJson?

end Request

namespace Response

def toJson : Response → Json
  | .value v => .object [("type", .string "value"), ("value", optional v)]
  | .ack => .object [("type", .string "ack")]
  | .error message => .object [("type", .string "error"), ("message", .string message)]

def text (r : Response) : String := r.toJson.print

/-- The fields of a response of the kind `value`. An object may leave the value out. -/
def valueOfJson? (j : Json) : Option Response :=
  match Json.record? ["value"] j with
  | some ⟨[none], true⟩ => some (.value none)
  | some ⟨[field], _⟩ => (Json.required (Json.nullable Json.string?) field).map .value
  | _ => none

/-- The fields of a response of the kind `error`. -/
def errorOfJson? (j : Json) : Option Response :=
  match Json.record? ["message"] j with
  | some ⟨[field], _⟩ => (Json.required Json.string? field).map .error
  | _ => none

def ofJson? (j : Json) : Option Response :=
  match Json.tagged? "type" j with
  | some ("value", body) => valueOfJson? body
  | some ("ack", body) => if Json.isBare body then some .ack else none
  | some ("error", body) => errorOfJson? body
  | _ => none

def ofText? (s : String) : Option Response := (Json.parse s).bind ofJson?

/-- The response as error messages show it. -/
def describe : Response → String
  | .value none => "Value \x7b value: None \x7d"
  | .value (some s) => "Value \x7b value: Some(" ++ Text.quoted s ++ ") \x7d"
  | .ack => "Ack"
  | .error message => "Error \x7b message: " ++ Text.quoted message ++ " \x7d"

end Response
end Proxy
end PriceOracle
