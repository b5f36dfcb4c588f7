import DoubleRatchet.Primitive.Scalar

/-!
# Curve25519

One curve in two coordinate systems. Key agreement uses the Montgomery form, where
a point is its `u` coordinate alone; signatures use the Edwards form, where points
can be added. Coordinates are numbers below the field's prime, and Edwards points
are affine, so equal points are equal values; sums and multiples are computed in
projective coordinates and brought back by one division.
-/

namespace DoubleRatchet
namespace Curve25519

def prime : Nat := (1 <<< 255) - 19

/-- The prime order of the base point. -/
def order : Nat := (1 <<< 252) + 27742317777372353535851937790883648493

namespace Field

def power (base exponent : Nat) : Nat :=
  if _h : exponent = 0 then 1
  else
    let half := power (base * base % prime) (exponent / 2)
    if exponent % 2 = 1 then half * base % prime else half
termination_by exponent

def negate (value : Nat) : Nat :=
  (prime - value % prime) % prime

def subtract (left right : Nat) : Nat :=
  (left + negate right) % prime

/-- Zero has the inverse zero. -/
def invert (value : Nat) : Nat :=
  power value (prime - 2)

/-- A square root of minus one. -/
def imaginary : Nat :=
  power 2 ((prime - 1) / 4)

/-- The even one of the two roots, if the value is a square. -/
def squareRoot (value : Nat) : Option Nat :=
  let candidate := power value ((prime + 3) / 8)
  let even (root : Nat) := if root % 2 = 0 then root else negate root
  if candidate * candidate % prime = value % prime then some (even candidate)
  else
    let other := candidate * imaginary % prime
    if other * other % prime = value % prime then some (even other) else none

end Field

/-! ## Montgomery form -/

/-- A `u` coordinate as a fraction. -/
structure Fraction where
  x : Nat
  z : Nat

def Fraction.double (point : Fraction) : Fraction :=
  let sum := (point.x + point.z) * (point.x + point.z) % prime
  let difference := Field.subtract point.x point.z
  let difference := difference * difference % prime
  let gap := Field.subtract sum difference
  ⟨sum * difference % prime, gap * (sum + 121665 * gap) % prime⟩

/-- The sum of two points whose difference has the coordinate `u`. -/
def Fraction.add (u : Nat) (left right : Fraction) : Fraction :=
  let first := Field.subtract left.x left.z * (right.x + right.z) % prime
  let second := (left.x + left.z) * Field.subtract right.x right.z % prime
  let gap := Field.subtract first second
  ⟨(first + second) * (first + second) % prime, u * (gap * gap % prime) % prime⟩

/-- Keeps two multiples that differ by the point itself, one bit of the scalar at a time. -/
def ladder (scalar u : Nat) : Nat :=
  let u := u % prime
  let (result, _) := Nat.fold 255 (fun index _ (low, high) =>
    let sum := Fraction.add u low high
    if scalar.testBit (254 - index) then (sum, high.double) else (low.double, sum))
    ((⟨1, 0⟩, ⟨u, 1⟩) : Fraction × Fraction)
  result.x * Field.invert result.z % prime

/-- The shared `u` coordinate of a scalar and a point. The top bit of the point is ignored. -/
def agree (scalar point : Block 32) : Block 32 :=
  Block.littleEndian 32 (ladder (Scalar.clamp scalar.toNat) (point.toNat % (1 <<< 255)))

/-! ## Edwards form -/

/-- The curve is `y² - x² = 1 + d x² y²`. -/
def coefficient : Nat :=
  Field.negate 121665 * Field.invert 121666 % prime

@[ext]
structure Point where
  x : Nat
  y : Nat
  deriving DecidableEq

def identity : Point :=
  ⟨0, 1⟩

def base : Point :=
  ⟨15112221349535400772501151409588531511454012693041857206046113283949847762202,
    46316835694926478169428394003475163141307993866256225615783033603165251855960⟩

def Point.neg (point : Point) : Point :=
  ⟨Field.negate point.x, point.y⟩

/-- The point `(x / z, y / z)`, with the product `t = x y / z`. -/
structure Extended where
  x : Nat
  y : Nat
  z : Nat
  t : Nat

def Extended.ofPoint (point : Point) : Extended :=
  ⟨point.x, point.y, 1, point.x * point.y % prime⟩

def Extended.toPoint (point : Extended) : Point :=
  let inverse := Field.invert point.z
  ⟨point.x * inverse % prime, point.y * inverse % prime⟩

def doubledCoefficient : Nat :=
  2 * coefficient % prime

/-- One formula for all pairs of points, equal ones included. -/
def Extended.add (left right : Extended) : Extended :=
  let a := Field.subtract left.y left.x * Field.subtract right.y right.x % prime
  let b := (left.y + left.x) * (right.y + right.x) % prime
  let c := left.t * doubledCoefficient % prime * right.t % prime
  let d := 2 * left.z * right.z % prime
  let e := Field.subtract b a
  let f := Field.subtract d c
  let g := d + c
  let h := b + a
  ⟨e * f % prime, g * h % prime, f * g % prime, e * h % prime⟩

def Extended.multiple (point : Extended) (scalar : Nat) : Extended :=
  if _h : scalar = 0 then .ofPoint identity
  else
    let half := multiple point (scalar / 2)
    let double := half.add half
    if scalar % 2 = 1 then double.add point else double
termination_by scalar

def Point.add (left right : Point) : Point :=
  ((Extended.ofPoint left).add (.ofPoint right)).toPoint

def Point.multiple (scalar : Nat) (point : Point) : Point :=
  ((Extended.ofPoint point).multiple scalar).toPoint

/-- The `y` coordinate, with the parity of `x` in the top bit. -/
def Point.compress (point : Point) : Block 32 :=
  Block.littleEndian 32 (point.y + (point.x % 2) <<< 255)

def Point.toMontgomery (point : Point) : Block 32 :=
  Block.littleEndian 32
    ((1 + point.y) * Field.invert (Field.subtract 1 point.y) % prime)

/-- The point with even `x` over a `u` coordinate; a coordinate of the twist has none. -/
def Point.ofMontgomery (u : Block 32) : Option Point :=
  let u := u.toNat % (1 <<< 255) % prime
  if u = prime - 1 then none
  else
    let y := Field.subtract u 1 * Field.invert (u + 1) % prime
    let square := y * y % prime
    let ratio := Field.subtract square 1 * Field.invert (coefficient * square + 1) % prime
    (Field.squareRoot ratio).map fun x => ⟨x, y⟩

end Curve25519
end DoubleRatchet
