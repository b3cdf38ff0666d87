/-!
# PriceOracle.Account.Curve

The curve `y ^ 2 = x ^ 3 + 7` over the field with `prime` elements, on which accounts have their
keys. Its points form a group with `order` elements that `generator` generates; `none` is the
neutral element.
-/

namespace PriceOracle
namespace Curve

def prime : Nat := 0xFFFFFFFFFFFFFFFFFFFFFFFFFFFFFFFFFFFFFFFFFFFFFFFFFFFFFFFEFFFFFC2F

def order : Nat := 0xFFFFFFFFFFFFFFFFFFFFFFFFFFFFFFFEBAAEDCE6AF48A03BBFD25E8CD0364141

structure Point where
  x : Nat
  y : Nat
  deriving Repr, DecidableEq

def generator : Point where
  x := 0x79BE667EF9DCBBAC55A06295CE870B07029BFCDB2DCE28D959F2815B16F81798
  y := 0x483ADA7726A3C4655DA4FBFC0E1108A8FD17B448A68554199C47D08FFB10D4B8

def sub (a b : Nat) : Nat := (a + (prime - b % prime)) % prime

def mul (a b : Nat) : Nat := a * b % prime

/-- Steps of the division algorithm on `r` and `s`, which `x` and `y` times a number leave modulo
another one. The result is what that number is multiplied by to leave the greatest common
divisor. -/
def cofactor (r s : Nat) (x y : Int) : Int :=
  if s = 0 then x else cofactor s (r % s) y (x - (r / s : Nat) * y)
termination_by s
decreasing_by exact Nat.mod_lt _ (by omega)

/-- The inverse of a number modulo another one, if they have no divisor in common. -/
def inverseModulo (modulus a : Nat) : Nat :=
  (cofactor (a % modulus) modulus 1 0 % modulus).toNat

/-- The inverse of a number that is no multiple of the prime. -/
def inverse (a : Nat) : Nat := inverseModulo prime a

/-- The third point on a line of a given slope through two points, reflected at the axis. -/
def onLine (slope : Nat) (p q : Point) : Point :=
  let x := sub (sub (mul slope slope) p.x) q.x
  ⟨x, sub (mul slope (sub p.x x)) p.y⟩

def double (p : Point) : Option Point :=
  if p.y = 0 then none
  else some (onLine (mul (mul 3 (mul p.x p.x)) (inverse (2 * p.y))) p p)

def add : Option Point → Option Point → Option Point
  | none, q => q
  | p, none => p
  | some p, some q =>
    if p.x ≠ q.x then some (onLine (mul (sub q.y p.y) (inverse (sub q.x p.x))) p q)
    else if p.y = q.y then double p
    else none

/-- A point added to itself so many times. -/
def times (k : Nat) (p : Option Point) : Option Point :=
  if k = 0 then none
  else
    let rest := times (k / 2) (p.bind double)
    if k % 2 = 1 then add p rest else rest
termination_by k

end Curve
end PriceOracle
