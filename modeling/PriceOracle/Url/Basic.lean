import PriceOracle.Url.Host

/-!
# PriceOracle.Url.Basic

URLs that stand for themselves. A scheme stands in front of the first colon. Behind the schemes of
the web an authority follows: perhaps a user, a host, and perhaps the number of a service. Behind
`file` there may be a host, and behind other schemes, after two slashes, an authority whose host is
not looked into. All that follows is taken as it is.
-/

namespace PriceOracle

structure Url where
  scheme : String
  host : Option Url.Host
  /-- The number of the service. -/
  service : Option Nat
  /-- What is behind the authority. -/
  rest : List Char
  deriving Repr, DecidableEq

namespace Url

/-- May the character stand in a scheme behind its first one? -/
def inScheme (c : Char) : Bool := c.isAlphanum || c = '+' || c = '-' || c = '.'

/-- Controls and the blank, which are not looked at around a URL. -/
def isEdge (c : Char) : Bool := c.toNat ≤ 0x20

/-- Tabs and ends of lines, which are not looked at inside of a URL. -/
def isSkipped (c : Char) : Bool := c = '\t' || c = '\n' || c = '\r'

/-- The text that is looked at. -/
def core (s : List Char) : List Char :=
  (((s.dropWhile isEdge).reverse.dropWhile isEdge).reverse).filter (!isSkipped ·)

/-- What a scheme says about what follows. -/
inductive Kind where
  | web
  | file
  | other
  deriving Repr, DecidableEq

def Kind.of (scheme : String) : Kind :=
  if ["http", "https", "ws", "wss", "ftp"].contains scheme then .web
  else if scheme = "file" then .file
  else .other

def isSlash (c : Char) : Bool := c = '/' || c = '\\'

/-- Does the character end the authority? -/
def endsAuthority (isWeb : Bool) (c : Char) : Bool :=
  c = '/' || c = '?' || c = '#' || (isWeb && c = '\\')

/-- The user in an authority, and what follows the last `@`. -/
def splitUser (s : List Char) : Option (List Char) × List Char :=
  let behind := (s.reverse.takeWhile (· ≠ '@')).reverse
  if s.contains '@' then (some (s.take (s.length - behind.length - 1)), behind) else (none, s)

/-- The host in front of a colon that is not in brackets, and what follows. -/
def splitHost (inBrackets : Bool) : List Char → List Char × List Char
  | [] => ([], [])
  | c :: rest =>
    if c = ':' && !inBrackets then ([], c :: rest)
    else
      let (host, tail) :=
        splitHost (if c = '[' then true else if c = ']' then false else inBrackets) rest
      (c :: host, tail)

/-- The number of a service behind a host, which has 16 bits and may be left out. -/
def service? : List Char → Option (Option Nat)
  | [] | [':'] => some none
  | ':' :: digits =>
    match Address.natural? 10 digits with
    | some n => if n < 65536 then some (some n) else none
    | none => none
  | _ => none

/-- A user without a name or a password counts as none. -/
def isNobody (user : List Char) : Bool := user.isEmpty || user = [':']

/-- The host, and the service with what follows it, in an authority without a user. -/
def hostAndTail (isWeb : Bool) (s : List Char) : Option (Option Host × List Char) :=
  match splitHost false s with
  | ([], tail) => if isWeb || !tail.isEmpty then none else some (none, tail)
  | (host, tail) => (if isWeb then Host.ofText? host else Host.anyOfText? host).map (some ·, tail)

def withAuthority? (scheme : String) (isWeb : Bool) (s : List Char) : Option Url := do
  let (user, s') := splitUser (s.takeWhile (!endsAuthority isWeb ·))
  let rest := s.dropWhile (!endsAuthority isWeb ·)
  let (host, tail) ← hostAndTail isWeb s'
  let service ← service? (tail.takeWhile (· ≠ '\\'))
  let isLost := s'.isEmpty && !rest.isEmpty && user = some []
  if host.isNone && (isLost || !(user.getD []).isEmpty && !isNobody (user.getD [])) then none
  else some ⟨scheme, host, service, tail.dropWhile (· ≠ '\\') ++ rest⟩

def isDrive : List Char → Bool
  | [c, mark] => c.isAlpha && (mark = ':' || mark = '|')
  | _ => false

def ofFile? (scheme : String) : List Char → Option Url
  | a :: b :: rest =>
    if isSlash a && isSlash b then
      let host := rest.takeWhile (!endsAuthority true ·)
      if host.isEmpty || isDrive host then some ⟨scheme, none, none, rest⟩
      else (Host.ofText? host).map fun h =>
        ⟨scheme, some h, none, rest.dropWhile (!endsAuthority true ·)⟩
    else some ⟨scheme, none, none, a :: b :: rest⟩
  | s => some ⟨scheme, none, none, s⟩

def ofString? (s : String) : Option Url :=
  let s := core s.toList
  let scheme := (String.ofList (s.takeWhile inScheme)).toLower
  match s.head?.any Char.isAlpha, s.dropWhile inScheme with
  | true, ':' :: rest =>
    match Kind.of scheme, rest with
    | .web, rest => withAuthority? scheme true (rest.dropWhile isSlash)
    | .file, rest => ofFile? scheme rest
    | .other, '/' :: '/' :: rest => withAuthority? scheme false rest
    | .other, rest => some ⟨scheme, none, none, rest⟩
  | _, _ => none

end Url
end PriceOracle
