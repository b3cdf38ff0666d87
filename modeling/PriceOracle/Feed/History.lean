import PriceOracle.Json.Parser
import PriceOracle.Sample
import PriceOracle.Text.Utf8

/-!
# PriceOracle.Feed.History

The samples of a feed in the order of time. `record?` takes a sample that is at least a second
later than the last one, `prune` drops old ones, and `check` judges a reported value against the
samples around an instant. Times are compared in 64 bits, so that instants which are too far from
each other are taken for near ones; a program that watches its arithmetic stops there instead
(`Measures`, `Reaches`).
-/

namespace PriceOracle

structure History where
  samples : List Sample

namespace History

def empty : History := ⟨[]⟩

/-- The least distance of neighbouring samples in seconds. -/
def spacing : Int := 1

/-- The history of any samples. Those of one instant keep their order. -/
def ofSamples (samples : List Sample) : History :=
  ⟨samples.mergeSort fun a b => a.timestamp ≤ b.timestamp⟩

def toJson (h : History) : Json := .array (h.samples.map Sample.toJson)

def encode (h : History) : Bytes := Utf8.encode h.toJson.print

def ofJson? (j : Json) : Option History := (Json.list? Sample.ofJson? j).map ofSamples

def decode? (raw : Bytes) : Option History := (Json.parseBytes raw).bind ofJson?

/-- Is a sample far enough from the last one? -/
def admits (h : History) (s : Sample) : Bool :=
  match h.samples.getLast? with
  | some last => spacing ≤ Calendar.elapsed last.timestamp s.timestamp
  | none => true

/-- Is the time since the last sample a number of 64 bits? -/
def Measures (h : History) (s : Sample) : Prop :=
  ∀ last ∈ h.samples.getLast?, Calendar.IsSigned64 (s.timestamp - last.timestamp)

instance (h : History) (s : Sample) : Decidable (h.Measures s) :=
  inferInstanceAs (Decidable (∀ last ∈ h.samples.getLast?, _))

/-- The history with one more sample, if it is far enough from the last one. -/
def record? (h : History) (s : Sample) : Option History :=
  if h.admits s then some ⟨h.samples ++ [s]⟩ else none

/-- The history without the samples before an instant. -/
def prune (h : History) (before : Int) : History :=
  ⟨h.samples.filter fun s => before ≤ s.timestamp⟩

/-- The samples at most `delta` seconds from an instant. -/
def around (h : History) (instant delta : Int) : List Sample :=
  h.samples.filter fun s => Calendar.apart s.timestamp instant ≤ delta

/-- Are the distances of all samples from an instant numbers of 64 bits? -/
def Reaches (h : History) (instant : Int) : Prop :=
  ∀ s ∈ h.samples, Calendar.IsSigned64 (s.timestamp - instant).natAbs

instance (h : History) (instant : Int) : Decidable (h.Reaches instant) :=
  inferInstanceAs (Decidable (∀ s ∈ h.samples, _))

/-- A value held against samples. Bounds are in the unit of the value. -/
structure Check where
  low : Float
  high : Float
  within : Bool
  /-- The prices that the bounds were taken from, with their times. -/
  datapoints : List Float
  times : List Int

/-- The smaller of two doubles; a NaN loses, and of equals the first stays. -/
def smaller (x y : Float) : Float := if x.isNaN || y < x then y else x

/-- The larger of two doubles; a NaN loses, and of equals the first stays. -/
def larger (x y : Float) : Float := if x.isNaN || x < y then y else x

def infinity : Float := 1.0 / 0.0

def least (prices : List Float) : Float := prices.foldl smaller infinity

def greatest (prices : List Float) : Float := prices.foldl larger (-infinity)

def between (low value high : Float) : Bool := low ≤ value && value ≤ high

/-- Judge a value by samples: it should lie between the least and the greatest price, each
widened by `threshold`, in the unit of the value. -/
def judge (window : List Sample) (value threshold granularity : Float) : Check :=
  let prices := window.map (·.price)
  let low := least prices * (1.0 - threshold) * granularity
  let high := greatest prices * (1.0 + threshold) * granularity
  ⟨low, high, between low value high, prices, window.map (·.timestamp)⟩

/-- Judge a value by the samples around an instant, if there are any. -/
def check (h : History) (value : Float) (instant delta : Int) (threshold granularity : Float) :
    Option Check :=
  match h.around instant delta with
  | [] => none
  | window => some (judge window value threshold granularity)

end History
end PriceOracle
