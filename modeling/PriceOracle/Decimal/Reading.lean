/-!
# PriceOracle.Decimal.Reading

Doubles from decimal text: the nearest double to the exact decimal value. A text is an optional
sign before digits with at most one point (one digit at least, on either side of it) and an
optional exponent, or before one of the words `inf`, `infinity` and `nan` in any case.
-/

namespace PriceOracle
namespace Decimal

/-- The double nearest to `digits * 10 ^ exp`. Far out of range the answer is known beforehand. -/
def nearest (negative : Bool) (digits : Nat) (exp : Int) : Float :=
  let size := ((Nat.toDigits 10 digits).length : Int) + exp
  let magnitude : Float :=
    if digits = 0 then 0.0
    else if size < -400 then 0.0
    else if 400 < size then 1.0 / 0.0
    else Float.ofScientific digits (exp < 0) exp.natAbs
  if negative then -magnitude else magnitude

/-- The number written by decimal digits, the first being the highest. -/
def natOfDigits (ds : List Char) : Nat := ds.foldl (fun n c => n * 10 + (c.toNat - 48)) 0

/-- An exponent after its mark: an optional sign and at least one digit. -/
def exponent? (s : List Char) : Option Int :=
  let (negative, ds) : Bool × List Char :=
    match s with
    | '-' :: r => (true, r)
    | '+' :: r => (false, r)
    | r => (false, r)
  if ds.isEmpty || !ds.all Char.isDigit then none
  else some (if negative then -(natOfDigits ds : Int) else natOfDigits ds)

/-- Digits, a point and an exponent, as digits and a power of ten. -/
def unsigned? (s : List Char) : Option (Nat × Int) :=
  let whole := s.takeWhile Char.isDigit
  let rest := s.dropWhile Char.isDigit
  let (places, rest) : List Char × List Char :=
    match rest with
    | '.' :: r => (r.takeWhile Char.isDigit, r.dropWhile Char.isDigit)
    | r => ([], r)
  if whole.isEmpty && places.isEmpty then none
  else
    let digits := natOfDigits (whole ++ places)
    match rest with
    | [] => some (digits, -(places.length : Int))
    | c :: r =>
      if c = 'e' ∨ c = 'E' then
        (exponent? r).map fun e => (digits, e - (places.length : Int))
      else none

def read? (s : List Char) : Option Float :=
  let (negative, body) : Bool × List Char :=
    match s with
    | '-' :: r => (true, r)
    | '+' :: r => (false, r)
    | r => (false, r)
  let word := String.ofList (body.map Char.toLower)
  if word = "nan" then some (0.0 / 0.0)
  else if word = "inf" || word = "infinity" then
    some (if negative then -(1.0 / 0.0) else 1.0 / 0.0)
  else (unsigned? body).map fun (digits, exp) => nearest negative digits exp

end Decimal
end PriceOracle
