/-!
# PriceOracle.Calendar

Instants as seconds since the start of 1970 in the proleptic Gregorian calendar, and lengths of
time as people read them.

Seconds are kept in 64 bits with a sign, and a result that does not fit wraps around. This is how a
program reckons that does not watch its arithmetic; one that does stops at such a result
(`IsSigned64`).
-/

namespace PriceOracle
namespace Calendar

def secondsPerDay : Int := 86400

/-- The first second of the year -262143. -/
def earliest : Int := -8334601228800

/-- The last second of the year 262142. -/
def latest : Int := 8210266876799

/-- Is the instant one that the calendar names? -/
def inRange (seconds : Int) : Bool := earliest ≤ seconds && seconds ≤ latest

structure Date where
  year : Int
  month : Nat
  day : Nat
  deriving Repr, DecidableEq

/-- The date a number of days after the start of 1970. Years are counted from March, in eras of
four hundred years, so that the day that comes every fourth year is the last one. -/
def Date.ofDays (days : Int) : Date :=
  let shifted := days + 719468
  let era := shifted.fdiv 146097
  let dayOfEra := (shifted.fmod 146097).toNat
  let yearOfEra :=
    (dayOfEra - dayOfEra / 1460 + dayOfEra / 36524 - dayOfEra / 146096) / 365
  let dayOfYear := dayOfEra - (365 * yearOfEra + yearOfEra / 4 - yearOfEra / 100)
  let fromMarch := (5 * dayOfYear + 2) / 153
  let day := dayOfYear - (153 * fromMarch + 2) / 5 + 1
  let month := if fromMarch < 10 then fromMarch + 3 else fromMarch - 9
  ⟨yearOfEra + era * 400 + (if month ≤ 2 then 1 else 0), month, day⟩

/-- Decimal digits with zeros in front up to the given width. -/
def padded (width n : Nat) : String :=
  let ds := Nat.toDigits 10 n
  String.ofList (List.replicate (width - ds.length) '0' ++ ds)

/-- Years of four digits stand alone, others have a sign and at least four digits. -/
def yearText (year : Int) : String :=
  if 0 ≤ year ∧ year ≤ 9999 then padded 4 year.toNat
  else if year < 0 then "-" ++ padded 4 year.natAbs
  else "+" ++ padded 4 year.natAbs

/-- An instant as a date and a time of day, or as its number when the calendar has no name for
it. -/
def format (seconds : Int) : String :=
  if inRange seconds then
    let date := Date.ofDays (seconds.fdiv secondsPerDay)
    let time := (seconds.fmod secondsPerDay).toNat
    s!"{yearText date.year}-{padded 2 date.month}-{padded 2 date.day} " ++
      s!"{padded 2 (time / 3600)}:{padded 2 (time / 60 % 60)}:{padded 2 (time % 60)} UTC"
  else toString seconds

/-- A length of time in the two or three largest units that are not zero. -/
def duration (seconds : Int) : String :=
  let days := seconds.tdiv secondsPerDay
  let hours := (seconds.tmod secondsPerDay).tdiv 3600
  let minutes := (seconds.tmod 3600).tdiv 60
  if 0 < days then s!"{days}d {hours}h {minutes}m"
  else if 0 < hours then s!"{hours}h {minutes}m"
  else s!"{minutes}m {seconds.tmod 60}s"

/-- Is it a number of 64 bits with a sign? -/
def IsSigned64 (x : Int) : Prop := -9223372036854775808 ≤ x ∧ x < 9223372036854775808

instance (x : Int) : Decidable (IsSigned64 x) := inferInstanceAs (Decidable (_ ∧ _))

/-- What 64 bits with a sign hold of a number. -/
def wrapped64 (x : Int) : Int := Int.bmod x (Nat.pow 2 64)

/-- A count of seconds of 64 bits read as a signed one. -/
def signed64 (n : Nat) : Int := wrapped64 n

/-- The seconds from an instant to another one. -/
def elapsed (since instant : Int) : Int := wrapped64 (instant - since)

/-- The seconds between two instants, whichever is the later one. They are a negative number when
the instants are just half of all seconds apart. -/
def apart (a b : Int) : Int := wrapped64 (elapsed b a).natAbs

end Calendar
end PriceOracle
