import PriceOracle.Calendar
import PriceOracle.Json.Printer
import PriceOracle.Json.Record

/-!
# PriceOracle.Sample

A price at an instant, with the name of the feed that it was aggregated for.
-/

namespace PriceOracle

structure Sample where
  /-- Seconds since the start of 1970. -/
  timestamp : Int
  price : Float
  source : String

namespace Sample

def toJson (s : Sample) : Json :=
  .object [("timestamp", .number (.integer s.timestamp)), ("price", .number (.double s.price)),
    ("source", .string s.source)]

def ofJson? (j : Json) : Option Sample :=
  match Json.record? ["timestamp", "price", "source"] j with
  | some ⟨[timestamp, price, source], _⟩ => do
    let timestamp ← Json.required Json.signed? timestamp
    let price ← Json.required Json.double? price
    let source ← Json.required Json.string? source
    some ⟨timestamp, price, source⟩
  | _ => none

/-- The instant of the sample, or the start of 1970 when the calendar has no name for it. -/
def createdAt (s : Sample) : Int := if Calendar.inRange s.timestamp then s.timestamp else 0

end Sample
end PriceOracle
