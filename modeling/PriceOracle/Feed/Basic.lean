/-!
# PriceOracle.Feed.Basic

A price feed: what is reported under a request, in which unit, and where its prices come from.
-/

namespace PriceOracle

/-- Where a price is read: a document, and the way to the price in it. -/
structure Source where
  url : String
  /-- Names of object fields and positions in arrays. -/
  path : List String
  deriving Repr, DecidableEq

structure Feed where
  requestId : Nat
  symbol : String
  /-- The factor from a price to the whole number that is reported. -/
  granularity : Float
  sources : List Source

namespace Feed

/-- The feed that is reported under a request. -/
def find? (feeds : List Feed) (requestId : Nat) : Option Feed :=
  List.find? (fun f => f.requestId = requestId) feeds

/-- The factor that a reported value under a request is judged by: of several feeds with that
request the last one counts. -/
def granularity? (feeds : List Feed) (requestId : Nat) : Option Float :=
  (feeds.reverse.find? fun f => f.requestId = requestId).map (·.granularity)

end Feed
end PriceOracle
