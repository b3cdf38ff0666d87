import PriceOracle.Feed.Fetch
import PriceOracle.Http.Endpoint
import PriceOracle.Text.Count
import PriceOracle.Text.Hex

/-!
# PriceOracle.Http.Message

Messages over an open connection: a head of lines up to an empty line, and a body, whose end the
head tells. `Reading.of` looks at what has come in so far and says whether that is all of a
response.
-/

namespace PriceOracle
namespace Http

def lineEnd : Bytes := [13, 10]

/-- The bytes in front of the first appearance of a mark, and those behind it. -/
def cut? (mark : Bytes) : Bytes → Option (Bytes × Bytes)
  | [] => none
  | b :: rest =>
    if mark.isPrefixOf (b :: rest) then some ([], (b :: rest).drop mark.length)
    else (cut? mark rest).map fun (front, back) => (b :: front, back)

/-- The head of a message: its first line, and its fields with names in lower case. -/
structure Head where
  first : String
  fields : List (String × String)
  deriving Repr, DecidableEq

namespace Head

/-- The text without blanks at its ends. -/
def stripped (s : List Char) : String :=
  String.ofList ((s.dropWhile (· = ' ')).reverse.dropWhile (· = ' ')).reverse

def field? (line : String) : Option (String × String) :=
  let s := line.toList
  match s.dropWhile (· ≠ ':') with
  | ':' :: value => some ((stripped (s.takeWhile (· ≠ ':'))).toLower, stripped value)
  | _ => none

/-- The head in what has come in so far, and what follows it. -/
def read? (received : Bytes) : Option (Head × Bytes) :=
  (cut? (lineEnd ++ lineEnd) received).map fun (front, rest) =>
    match (Utf8.lossy front).splitOn "\r\n" with
    | [] => (⟨"", []⟩, rest)
    | first :: lines => (⟨first, lines.filterMap field?⟩, rest)

def field (name : String) (h : Head) : Option String := h.fields.lookup name

def code? (h : Head) : Option Nat :=
  match h.first.splitOn " " with
  | _ :: code :: _ => (Count.read code).toOption
  | _ => none

end Head

inductive Extent where
  | sized (size : Nat)
  /-- By pieces, each behind its length, up to an empty one. -/
  | pieces
  | untilEnd
  deriving Repr, DecidableEq

/-- The value of hexadecimal digits, as far as they go. -/
def leadingHex (s : Bytes) : Nat :=
  (s.map Hex.value?).takeWhile Option.isSome |>.foldl (fun n d => n * 16 + d.getD 0) 0

/-- The body in pieces, taking so many of them at most; nothing if some of it is missing. -/
def joinPieces : (pieces : Nat) → Bytes → Option Bytes
  | 0, _ => none
  | pieces + 1, received => do
    let (line, rest) ← cut? lineEnd received
    let size := leadingHex line
    if size = 0 then some []
    else if rest.length < size + lineEnd.length then none
    else some (rest.take size ++ (← joinPieces pieces (rest.drop (size + lineEnd.length))))

namespace Extent

def ofHead (h : Head) : Extent :=
  if (h.field "transfer-encoding").any (·.toLower = "chunked") then .pieces
  else
    match (h.field "content-length").bind fun s => (Count.read s).toOption with
    | some size => .sized size
    | none => .untilEnd

/-- The body in what has come in so far, if that is all of it. -/
def body? (ended : Bool) (received : Bytes) : Extent → Option Bytes
  | .sized size => if size ≤ received.length then some (received.take size) else none
  | .pieces => joinPieces received.length received
  | .untilEnd => if ended then some received else none

end Extent

inductive Reading where
  /-- There is more to come. -/
  | unfinished
  /-- There will never be a response. -/
  | broken
  | complete (r : Fetch.Response)

/-- Read a response in what has come in, which may have ended, behind so many announcements at
most. -/
def Reading.ofBytes (ended : Bool) : (announcements : Nat) → Bytes → Reading
  | 0, _ => .broken
  | announcements + 1, received =>
    match Head.read? received with
    | none => if ended then .broken else .unfinished
    | some (head, rest) =>
      match head.code? with
      | none => .broken
      | some code =>
        let bare : Fetch.Response := ⟨code, [], true⟩
        if bare.isPreliminary then ofBytes ended announcements rest
        else if bare.isBare then .complete bare
        else
          match (Extent.ofHead head).body? ended rest with
          | some body => .complete ⟨code, body, true⟩
          | none => if ended then .complete ⟨code, rest, false⟩ else .unfinished

/-- More announcements than anybody makes. -/
def Reading.patience : Nat := 16

/-- Read a response in what has come in. -/
def Reading.of (ended : Bool) (received : Bytes) : Reading := ofBytes ended patience received

structure Request where
  verb : String
  endpoint : Endpoint
  fields : List (String × String)
  body : Bytes
  deriving Repr, DecidableEq

namespace Request

def page (e : Endpoint) : Request :=
  ⟨"GET", e, [("Accept", "*/*"), ("Connection", "close")], []⟩

def document (e : Endpoint) (body : Bytes) : Request :=
  ⟨"POST", e,
    [("Content-Type", "application/json"), ("Content-Length", toString body.length),
      ("Connection", "close")], body⟩

def line (name value : String) : String := name ++ ": " ++ value ++ "\r\n"

def encode (r : Request) : Bytes :=
  Utf8.encode (r.verb ++ " " ++ r.endpoint.target ++ " HTTP/1.1\r\n" ++
    line "Host" r.endpoint.authority ++
    String.join (r.fields.map fun (name, value) => line name value) ++ "\r\n") ++ r.body

end Request
end Http
end PriceOracle
