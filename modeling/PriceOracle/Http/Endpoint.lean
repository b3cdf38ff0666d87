import PriceOracle.Url.Basic

/-!
# PriceOracle.Http.Endpoint

Where a URL leads over an open connection: to a host, one of its services, and something that is
asked for there.
-/

namespace PriceOracle
namespace Http

structure Endpoint where
  host : String
  /-- The number of the service. -/
  service : Nat
  /-- What is asked for, from the first slash on. -/
  target : String
  deriving Repr, DecidableEq

namespace Endpoint

/-- Marks that do not stand in a target as they are. -/
def marks : List Char := "\"<>^`\x7b|\x7d".toList

/-- May the byte stand in a target as it is? -/
def isBare (b : UInt8) : Bool :=
  0x21 ≤ b && b ≤ 0x7E && !marks.contains (Char.ofNat b.toNat)

def escape (b : UInt8) : List Char :=
  if isBare b then [Char.ofNat b.toNat] else '%' :: (Hex.encodeChars [b]).map Char.toUpper

/-- The target in what follows an authority, without the part that is only for the reader. -/
def targetOf (rest : List Char) : String :=
  let rest := rest.takeWhile (· ≠ '#')
  let rest := if rest.head? = some '/' then rest else '/' :: rest
  String.ofList ((Utf8.encode (String.ofList rest)).flatMap escape)

/-- The endpoint of a URL with a given scheme, whose usual service is given too. -/
def ofUrl? (scheme : String) (usual : Nat) (url : String) : Option Endpoint := do
  let url ← Url.ofString? url
  let host ← url.host
  if url.scheme = scheme then some ⟨host.text, url.service.getD usual, targetOf url.rest⟩ else none

/-- The service of pages. -/
def usualService : Nat := 80

def ofPage? (url : String) : Option Endpoint := ofUrl? "http" usualService url

def ofSocket? (url : String) : Option Endpoint := ofUrl? "ws" usualService url

/-- The host with the service. A long address stands in brackets. -/
def authority (e : Endpoint) : String :=
  (if e.host.contains ':' then "[" ++ e.host ++ "]" else e.host) ++ ":" ++ toString e.service

end Endpoint
end Http
end PriceOracle
