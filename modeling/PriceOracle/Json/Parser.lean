import PriceOracle.Json.Token
import PriceOracle.Text.Utf8

/-!
# PriceOracle.Json.Parser

Values from tokens. The machine keeps the containers that are still open, innermost first, and
what the text must bring next; each token moves it one step, and a text is a value when the last
token leaves one behind and nothing open.
-/

namespace PriceOracle
namespace Json

/-- A container that is still open, with what it holds so far, the latest first. -/
inductive Frame where
  | items (done : List Json)
  | fields (done : List (Option String × Json)) (name : Option String)

/-- What the text must bring next. `fresh` containers have just been opened and may close. -/
inductive Expect where
  | value (fresh : Bool) (frames : List Frame)
  | field (fresh : Bool) (done : List (Option String × Json)) (frames : List Frame)
  | colon (done : List (Option String × Json)) (name : Option String) (frames : List Frame)
  | after (value : Json) (frames : List Frame)

/-- An object from its fields, the latest first. A torn name tears the object. -/
def closeObject (done : List (Option String × Json)) : Json :=
  match done.reverse.mapM fun (name, j) => name.map (·, j) with
  | some fields => .object fields
  | none => .torn

def Expect.step : Expect → Token → Option Expect
  | .value fresh frames, t =>
    match t with
    | .scalar j => some (.after j frames)
    | .beginArray => some (.value true (.items [] :: frames))
    | .beginObject => some (.field true [] frames)
    | .endArray =>
      match fresh, frames with
      | true, .items [] :: frames => some (.after (.array []) frames)
      | _, _ => none
    | _ => none
  | .field fresh done frames, t =>
    match t with
    | .scalar (.string s) => some (.colon done (some s) frames)
    | .scalar .torn => some (.colon done none frames)
    | .endObject => if fresh then some (.after (.object []) frames) else none
    | _ => none
  | .colon done name frames, t =>
    match t with
    | .colon => some (.value false (.fields done name :: frames))
    | _ => none
  | .after j frames, t =>
    match frames, t with
    | .items done :: frames, .comma => some (.value false (.items (j :: done) :: frames))
    | .items done :: frames, .endArray => some (.after (.array (j :: done).reverse) frames)
    | .fields done name :: frames, .comma => some (.field false ((name, j) :: done) frames)
    | .fields done name :: frames, .endObject =>
      some (.after (closeObject ((name, j) :: done)) frames)
    | _, _ => none

def Expect.run : Expect → List Token → Option Expect
  | e, [] => some e
  | e, t :: rest => (e.step t).bind fun e => e.run rest

/-- The value that a list of tokens spells. -/
def ofTokens? (ts : List Token) : Option Json :=
  match (Expect.value false []).run ts with
  | some (.after j []) => some j
  | _ => none

/-- Read characters. What is wrong with a value is left in it. -/
def parseChars (s : List Char) : Option Json := (tokens s).bind ofTokens?

/-- Read a text. What is wrong with a value is left in it. -/
def parse (s : String) : Option Json := parseChars s.toList

/-- An escape that tears the text it stands in. Nothing in front of it can make it whole. -/
def tearing : List Char := [' ', '\\', 'u', 'd', 'c', '0', '0']

/-- Read bytes. A text is torn by a sequence that is no UTF-8, and so is what it names. -/
def parseBytes (bytes : Bytes) : Option Json := parseChars (Utf8.charsWith tearing bytes)

/-- Read a text whose every part matters. -/
def parseSound (s : String) : Option Json :=
  match parse s with
  | some j => if j.sound then some j.canonical else none
  | none => none

end Json
end PriceOracle
