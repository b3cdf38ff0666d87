import PriceOracle.Calendar

/-!
# PriceOracle.Feed.Window

The neighbouring times that are closest to an instant. Their distance is reckoned in 64 bits. Where
it does not fit, it is taken for another one; a program that watches its arithmetic stops there
(`Measures`).
-/

namespace PriceOracle
namespace Window

/-- The summed distance of times from an instant. -/
def total (instant : Int) : List Int → Nat
  | [] => 0
  | t :: times => (t - instant).natAbs + total instant times

/-- What 64 bits hold of the summed distance. -/
def distance (instant : Int) (times : List Int) : Int :=
  times.foldl (fun sum t => Calendar.wrapped64 (sum + Calendar.apart t instant)) 0

/-- The times at `count` positions from `start` on. -/
def slice (times : List Int) (start count : Nat) : List Int := (times.drop start).take count

/-- The first of some numbers at which a measure is least, `best` being the one before them. -/
def firstLeast (measure : Nat → Int) (best : Nat) : List Nat → Nat
  | [] => best
  | n :: rest => firstLeast measure (if measure n < measure best then n else best) rest

/-- The first start of `count` neighbouring times with the least summed distance from an instant;
zero if there are no more than `count` times. -/
def closest (times : List Int) (instant : Int) (count : Nat) : Nat :=
  if count = 0 ∨ times.length ≤ count then 0
  else
    firstLeast (fun start => distance instant (slice times start count)) 0
      (List.range (times.length - count + 1))

/-- Do the distances of all windows that are compared fit in 64 bits? -/
def Measures (times : List Int) (instant : Int) (count : Nat) : Prop :=
  count < times.length →
    ∀ start < times.length - count + 1, total instant (slice times start count) < Nat.pow 2 63

instance (times : List Int) (instant : Int) (count : Nat) :
    Decidable (Measures times instant count) :=
  inferInstanceAs (Decidable (_ → ∀ start < _, _))

end Window
end PriceOracle
