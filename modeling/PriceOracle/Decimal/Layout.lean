import PriceOracle.Decimal.Shortest

/-!
# PriceOracle.Decimal.Layout

How a double is written. A `Style` record of decisions belongs to each output format; `render`
takes the shortest digits and lays them out by it. `fixed` writes a set number of places: the
exact value is rounded, a half to the even neighbour.
-/

namespace PriceOracle
namespace Decimal

/-- The decisions of an output format for doubles. -/
structure Style where
  /-- Exponents of the leading digit from `plainFrom` up to below `plainBelow` are written
  positionally; `none` leaves that side open. -/
  plainFrom : Option Int
  plainBelow : Option Int
  /-- An integral value ends in `.0`. -/
  pointZero : Bool
  tie : Tie

def decimalDigits (n : Nat) : List Char := Nat.toDigits 10 n

/-- Digits with the point after, inside or before them. -/
def positional (style : Style) (d : Scaled) : List Char :=
  let ds := decimalDigits d.digits
  if 0 ≤ d.exp then
    ds ++ List.replicate d.exp.toNat '0' ++ (if style.pointZero then ['.', '0'] else [])
  else
    let places := (-d.exp).toNat
    let ds := List.replicate (places + 1 - ds.length) '0' ++ ds
    ds.take (ds.length - places) ++ '.' :: ds.drop (ds.length - places)

/-- A leading digit, the others behind a point, and a signed exponent. -/
def scientific (d : Scaled) (lead : Int) : List Char :=
  let mantissa :=
    match decimalDigits d.digits with
    | [] => []
    | [c] => [c]
    | c :: rest => c :: '.' :: rest
  let sign := if lead < 0 then '-' else '+'
  mantissa ++ 'e' :: sign :: decimalDigits lead.natAbs

def layout (style : Style) (d : Scaled) : List Char :=
  let lead := d.exp + ((decimalDigits d.digits).length : Int) - 1
  let above := style.plainFrom.all (· ≤ lead)
  let below := style.plainBelow.all (lead < ·)
  if d.digits = 0 || above && below then positional style d else scientific d lead

/-- A finite double as its sign and its shortest digits; `none` for NaN and the infinities. -/
def renderFinite (style : Style) (x : Float) : Option String :=
  match Kind.of x with
  | .finite negative b =>
    let text := layout style (shortest style.tie b)
    some (String.ofList (if negative then '-' :: text else text))
  | _ => none

/-- The names of NaN and the infinities, and `finite` for everything else. -/
def withNames (x : Float) (finite : Bool → Binary → List Char) : String :=
  match Kind.of x with
  | .nan => "NaN"
  | .infinite negative => if negative then "-inf" else "inf"
  | .finite negative b =>
    String.ofList (if negative then '-' :: finite negative b else finite negative b)

/-- Prose shows a double by its shortest digits, never with an exponent. -/
def prose : Style where
  plainFrom := none
  plainBelow := none
  pointZero := false
  tie := .up

def display (x : Float) : String := withNames x fun _ b => layout prose (shortest prose.tie b)

/-- The natural number nearest to `num / den`, a half to the even neighbour. -/
def roundHalfEven (num den : Nat) : Nat :=
  let q := num / den
  match compare (2 * (num % den)) den with
  | .lt => q
  | .gt => q + 1
  | .eq => if q % 2 = 0 then q else q + 1

/-- The magnitude rounded to `places` places. -/
def fixedDigits (places : Nat) (b : Binary) : List Char :=
  let (num, den) := b.over (-(places : Int))
  let ds := decimalDigits (roundHalfEven num den)
  let ds := List.replicate (places + 1 - ds.length) '0' ++ ds
  let whole := ds.take (ds.length - places)
  if places = 0 then whole else whole ++ '.' :: ds.drop (ds.length - places)

/-- A double with a set number of places. -/
def fixed (places : Nat) (x : Float) : String := withNames x fun _ b => fixedDigits places b

end Decimal
end PriceOracle
