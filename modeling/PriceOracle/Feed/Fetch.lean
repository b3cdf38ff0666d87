import PriceOracle.Text.Utf8

/-!
# PriceOracle.Feed.Fetch

Fetching a document within a set time. All attempts draw on one budget of time. An attempt that
fails is followed by a pause, which ends with the budget at the latest; when nothing is left, the
fetch ends with the failure of its last attempt. Before the first attempt the deadline is set. A
budget that reaches beyond what the clock can show has none, and the program stops there.
-/

namespace PriceOracle
namespace Fetch

inductive Outcome where
  | body (content : Bytes)
  /-- The right status, but the body breaks off. -/
  | brokenBody
  /-- Another status than success. -/
  | status (code : Nat) (payload : String)
  | transport
  deriving Repr, DecidableEq

structure Response where
  code : Nat
  body : Bytes
  /-- Has all of the body come in? -/
  isWhole : Bool
  deriving Repr, DecidableEq

namespace Response

/-- A code has three digits. With any other one the response cannot be read. -/
def isReadable (r : Response) : Bool := 100 ≤ r.code && r.code < 1000

/-- Codes that say that the request was granted. -/
def isSuccess (r : Response) : Bool := 200 ≤ r.code && r.code < 300

/-- Codes that announce another response, which is still to come. -/
def isPreliminary (r : Response) : Bool := r.code < 200 && r.code ≠ 101

/-- Codes with which no body is sent. -/
def isBare (r : Response) : Bool := r.code = 101 || r.code = 204 || r.code = 304

def content? (r : Response) : Option Bytes :=
  if r.isBare then some [] else if r.isWhole then some r.body else none

/-- A text without the mark of the byte order. -/
def dropOrder : List Char → List Char
  | '\uFEFF' :: rest => rest
  | cs => cs

def payload (r : Response) : String :=
  String.ofList (dropOrder (Utf8.charsWith ['\uFFFD'] (r.content?.getD [])))

def outcome (r : Response) : Outcome :=
  if !r.isReadable || r.isPreliminary then .transport
  else if r.isSuccess then
    match r.content? with
    | some content => .body content
    | none => .brokenBody
  else .status r.code r.payload

end Response

inductive Last where
  | status (code : Nat) (payload : String)
  | transport
  /-- There was no attempt. -/
  | noTimeLeft
  deriving Repr, DecidableEq

inductive Error where
  | timeout (last : Last)
  | brokenBody
  deriving Repr, DecidableEq

/-- Time is counted in nanoseconds. -/
def millisecond : Nat := 1000000

def second : Nat := 1000 * millisecond

/-- The first instant that a clock of signed 64-bit seconds cannot show. -/
def clockEnd : Nat := Nat.pow 2 63 * second

/-- The pause after an attempt with the wrong status. -/
def statusPause : Nat := 500 * millisecond

/-- The pause after an attempt that did not get through. -/
def transportPause : Nat := 1000 * millisecond

/-- How a fetch goes on after an attempt. -/
inductive Verdict where
  | stop (result : Except Error Bytes)
  /-- Try again after a pause. -/
  | retry (pause : Nat) (last : Last)

def judge : Outcome → Verdict
  | .body content => .stop (.ok content)
  | .brokenBody => .stop (.error .brokenBody)
  | .status code payload => .retry statusPause (.status code payload)
  | .transport => .retry transportPause .transport

/-- An attempt and the time that it took. -/
structure Attempt where
  outcome : Outcome
  took : Nat
  deriving Repr, DecidableEq

/-- How a fetch ended, after how many attempts and how much time. -/
structure Run where
  result : Except Error Bytes
  attempts : Nat
  spent : Nat

theorem pause_pos {o : Outcome} {pause : Nat} {last : Last} (h : judge o = .retry pause last) :
    0 < pause := by
  cases o <;> simp [judge] at h <;> obtain ⟨rfl, _⟩ := h <;> decide

/-- Fetch with what is left of the budget. `done` attempts have been made, the last of which failed
with `last`; `attempt n` is the attempt number `n`. -/
def runFrom (attempt : Nat → Attempt) (done spent left : Nat) (last : Last) : Run :=
  if left = 0 then ⟨.error (.timeout last), done, spent⟩
  else
    let a := attempt done
    match h : judge a.outcome with
    | .stop result => ⟨result, done + 1, spent + a.took⟩
    | .retry pause last =>
      have := pause_pos h
      let rest := min pause (left - a.took)
      runFrom attempt (done + 1) (spent + a.took + rest) (left - a.took - rest) last
termination_by left
decreasing_by omega

/-- A fetch that has all of its budget left. -/
def within (attempt : Nat → Attempt) (budget : Nat) : Run := runFrom attempt 0 0 budget .noTimeLeft

/-- When a budget will be spent, if the clock can show it. -/
def deadline? (clock budget : Nat) : Option Nat :=
  if clock + budget < clockEnd then some (clock + budget) else none

/-- A fetch that begins when the clock shows `clock`; none if the program stops at it. -/
def run (attempt : Nat → Attempt) (clock budget : Nat) : Option Run :=
  (deadline? clock budget).map fun deadline => within attempt (deadline - clock)

def statusName : Nat → String
  | 100 => "Continue" | 101 => "Switching Protocols" | 102 => "Processing"
  | 200 => "OK" | 201 => "Created" | 202 => "Accepted"
  | 203 => "Non Authoritative Information" | 204 => "No Content" | 205 => "Reset Content"
  | 206 => "Partial Content" | 207 => "Multi-Status" | 208 => "Already Reported"
  | 226 => "IM Used"
  | 300 => "Multiple Choices" | 301 => "Moved Permanently" | 302 => "Found" | 303 => "See Other"
  | 304 => "Not Modified" | 305 => "Use Proxy" | 307 => "Temporary Redirect"
  | 308 => "Permanent Redirect"
  | 400 => "Bad Request" | 401 => "Unauthorized" | 402 => "Payment Required" | 403 => "Forbidden"
  | 404 => "Not Found" | 405 => "Method Not Allowed" | 406 => "Not Acceptable"
  | 407 => "Proxy Authentication Required" | 408 => "Request Timeout" | 409 => "Conflict"
  | 410 => "Gone" | 411 => "Length Required" | 412 => "Precondition Failed"
  | 413 => "Payload Too Large" | 414 => "URI Too Long" | 415 => "Unsupported Media Type"
  | 416 => "Range Not Satisfiable" | 417 => "Expectation Failed" | 418 => "I'm a teapot"
  | 421 => "Misdirected Request" | 422 => "Unprocessable Entity" | 423 => "Locked"
  | 424 => "Failed Dependency" | 425 => "Too Early" | 426 => "Upgrade Required"
  | 428 => "Precondition Required" | 429 => "Too Many Requests"
  | 431 => "Request Header Fields Too Large" | 451 => "Unavailable For Legal Reasons"
  | 500 => "Internal Server Error" | 501 => "Not Implemented" | 502 => "Bad Gateway"
  | 503 => "Service Unavailable" | 504 => "Gateway Timeout" | 505 => "HTTP Version Not Supported"
  | 506 => "Variant Also Negotiates" | 507 => "Insufficient Storage" | 508 => "Loop Detected"
  | 510 => "Not Extended" | 511 => "Network Authentication Required"
  | _ => "<unknown status code>"

def Last.message : Last → String
  | .status code payload => s!"response status {code} {statusName code}: {payload}"
  | .transport => "the request did not get through"
  | .noTimeLeft => "no time left for an attempt"

def Error.message (url : String) : Error → String
  | .timeout _ => "retry timeout expired for " ++ url
  | .brokenBody => "read response body from " ++ url

end Fetch
end PriceOracle
