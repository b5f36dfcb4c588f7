import Mathlib.Algebra.Field.Basic
import Mathlib.Algebra.Group.Even
import Mathlib.Tactic.FieldSimp
import Mathlib.Tactic.LinearCombination
import Mathlib.Tactic.Ring

/-!
# The group of an Edwards curve

On the curve `y² - x² = 1 + d x² y²` one formula adds any two points, equal ones and inverse ones
included, if `d` is no square and `-1` is one: no denominator vanishes. The sum is then commutative and
associative, with `(0, 1)` as its zero and `(-x, y)` as the negation of `(x, y)`.
-/

namespace DoubleRatchet

/-- A curve whose addition has no exceptions. -/
structure EdwardsCurve (K : Type*) [Field K] where
  d : K
  nonsquare : ¬ IsSquare d
  neg_one_square : IsSquare (-1 : K)
  two_ne_zero : (2 : K) ≠ 0

namespace EdwardsCurve

/-! ## Identities between coordinates -/

section Identities

variable {R : Type*} [CommRing R] {d x₁ y₁ x₂ y₂ x₃ y₃ : R}

/-- Where a denominator vanishes, `d` is a square up to a square. -/
theorem square_of_vanishes {i : R} (i_sq : i * i = -1)
    (first : y₁ ^ 2 - x₁ ^ 2 = 1 + d * x₁ ^ 2 * y₁ ^ 2)
    (second : y₂ ^ 2 - x₂ ^ 2 = 1 + d * x₂ ^ 2 * y₂ ^ 2)
    (vanishes : 1 + d * x₁ * x₂ * y₁ * y₂ = 0) :
    (y₁ + i * x₁) ^ 2 = d * (x₁ * y₁ * (y₂ - i * x₂)) ^ 2 := by
  linear_combination first - d * x₁ ^ 2 * y₁ ^ 2 * second +
    x₁ ^ 2 * (1 - d * y₁ ^ 2 * x₂ ^ 2) * i_sq +
    (2 * i * x₁ * y₁ + 1 - d * x₁ * x₂ * y₁ * y₂) * vanishes

/-- A sum is on the curve. -/
theorem sum_on_curve (first : y₁ ^ 2 - x₁ ^ 2 = 1 + d * x₁ ^ 2 * y₁ ^ 2)
    (second : y₂ ^ 2 - x₂ ^ 2 = 1 + d * x₂ ^ 2 * y₂ ^ 2) :
    (y₁ * y₂ + x₁ * x₂) ^ 2 * (1 + d * x₁ * x₂ * y₁ * y₂) ^ 2 -
        (x₁ * y₂ + y₁ * x₂) ^ 2 * (1 - d * x₁ * x₂ * y₁ * y₂) ^ 2 =
      (1 + d * x₁ * x₂ * y₁ * y₂) ^ 2 * (1 - d * x₁ * x₂ * y₁ * y₂) ^ 2 +
        d * (x₁ * y₂ + y₁ * x₂) ^ 2 * (y₁ * y₂ + x₁ * x₂) ^ 2 := by
  linear_combination
    (y₂ ^ 2 - x₂ ^ 2 - d * x₂ ^ 2 * y₂ ^ 2 * (y₁ ^ 2 - x₁ ^ 2) -
        d * x₂ ^ 2 * y₂ ^ 2 * (1 - (d * x₁ * y₁ * x₂ * y₂) ^ 2)) * first +
      (1 - (d * x₁ * y₁ * x₂ * y₂) ^ 2 -
        d * x₁ ^ 2 * y₁ ^ 2 * (y₂ ^ 2 - x₂ ^ 2 - d * x₂ ^ 2 * y₂ ^ 2 * (y₁ ^ 2 - x₁ ^ 2))) * second

/-- The two ways to add three points have the same first coordinate: the difference of the crossed
fractions is a combination of the three equations. -/
theorem cross_x (first : y₁ ^ 2 - x₁ ^ 2 = 1 + d * x₁ ^ 2 * y₁ ^ 2)
    (second : y₂ ^ 2 - x₂ ^ 2 = 1 + d * x₂ ^ 2 * y₂ ^ 2)
    (third : y₃ ^ 2 - x₃ ^ 2 = 1 + d * x₃ ^ 2 * y₃ ^ 2) :
    ((x₁ * y₂ + y₁ * x₂) * (1 - d * x₁ * x₂ * y₁ * y₂) * y₃ +
          (y₁ * y₂ + x₁ * x₂) * (1 + d * x₁ * x₂ * y₁ * y₂) * x₃) *
        ((1 + d * x₂ * x₃ * y₂ * y₃) * (1 - d * x₂ * x₃ * y₂ * y₃) +
          d * (x₂ * y₃ + y₂ * x₃) * (y₂ * y₃ + x₂ * x₃) * x₁ * y₁) =
      ((x₂ * y₃ + y₂ * x₃) * (1 - d * x₂ * x₃ * y₂ * y₃) * y₁ +
          (y₂ * y₃ + x₂ * x₃) * (1 + d * x₂ * x₃ * y₂ * y₃) * x₁) *
        ((1 + d * x₁ * x₂ * y₁ * y₂) * (1 - d * x₁ * x₂ * y₁ * y₂) +
          d * (x₁ * y₂ + y₁ * x₂) * (y₁ * y₂ + x₁ * x₂) * x₃ * y₃) := by
  linear_combination
    d * x₂ * y₂ * x₃ * y₃ * ((y₂ * y₃ + x₂ * x₃) * (1 + d * x₂ * x₃ * y₂ * y₃) * x₁ -
        (x₂ * y₃ + y₂ * x₃) * (1 - d * x₂ * x₃ * y₂ * y₃) * y₁) * first +
      d ^ 2 * x₁ * y₁ * x₂ * y₂ * x₃ * y₃ *
        (x₃ * y₃ * ((y₁ * y₂ + x₁ * x₂) * x₃ - (x₁ * y₂ + y₁ * x₂) * y₃) -
          x₁ * y₁ * ((y₂ * y₃ + x₂ * x₃) * x₁ - (x₂ * y₃ + y₂ * x₃) * y₁)) * second -
      d * x₁ * y₁ * x₂ * y₂ * ((y₁ * y₂ + x₁ * x₂) * (1 + d * x₁ * x₂ * y₁ * y₂) * x₃ -
        (x₁ * y₂ + y₁ * x₂) * (1 - d * x₁ * x₂ * y₁ * y₂) * y₃) * third

end Identities

variable {K : Type*} [Field K]

section Fractions

variable {d a b u v x y : K}

theorem fraction_on_curve (u_ne_zero : u ≠ 0) (v_ne_zero : v ≠ 0)
    (crossed : b ^ 2 * u ^ 2 - a ^ 2 * v ^ 2 = u ^ 2 * v ^ 2 + d * a ^ 2 * b ^ 2) :
    (b / v) ^ 2 - (a / u) ^ 2 = 1 + d * (a / u) ^ 2 * (b / v) ^ 2 := by
  field_simp
  linear_combination crossed

theorem numerator_mul (u_ne_zero : u ≠ 0) (v_ne_zero : v ≠ 0) :
    (a / u * x + b / v * y) * (u * v) = a * v * x + b * u * y := by
  field_simp

theorem one_add_mul (u_ne_zero : u ≠ 0) (v_ne_zero : v ≠ 0) :
    (1 + d * (a / u) * x * (b / v) * y) * (u * v) = u * v + d * a * b * x * y := by
  field_simp

end Fractions

@[ext]
structure Point (curve : EdwardsCurve K) where
  x : K
  y : K
  on_curve : y ^ 2 - x ^ 2 = 1 + curve.d * x ^ 2 * y ^ 2

namespace Point

variable {curve : EdwardsCurve K}

instance : Zero curve.Point :=
  ⟨⟨0, 1, by ring⟩⟩

instance : Neg curve.Point :=
  ⟨fun point => ⟨-point.x, point.y, by linear_combination point.on_curve⟩⟩

@[simp] theorem zero_x : (0 : curve.Point).x = 0 := rfl

@[simp] theorem zero_y : (0 : curve.Point).y = 1 := rfl

@[simp] theorem neg_x (point : curve.Point) : (-point).x = -point.x := rfl

@[simp] theorem neg_y (point : curve.Point) : (-point).y = point.y := rfl

def numeratorX (left right : curve.Point) : K :=
  left.x * right.y + left.y * right.x

def numeratorY (left right : curve.Point) : K :=
  left.y * right.y + left.x * right.x

def denominatorX (left right : curve.Point) : K :=
  1 + curve.d * left.x * right.x * left.y * right.y

def denominatorY (left right : curve.Point) : K :=
  1 - curve.d * left.x * right.x * left.y * right.y

/-- If the product were `-1`, then `d` would be the square of a quotient of coordinates, unless both
quotients divide by zero. -/
theorem denominatorX_ne_zero (left right : curve.Point) : denominatorX left right ≠ 0 := by
  intro vanishes
  unfold denominatorX at vanishes
  have product : curve.d * left.x * right.x * left.y * right.y = -1 := by
    linear_combination vanishes
  have nonzero : curve.d * left.x * right.x * left.y * right.y ≠ 0 := by
    rw [product]
    exact neg_ne_zero.mpr one_ne_zero
  have left_x : left.x ≠ 0 := by
    rintro zero
    simp [zero] at nonzero
  have left_y : left.y ≠ 0 := by
    rintro zero
    simp [zero] at nonzero
  have right_y : right.y ≠ 0 := by
    rintro zero
    simp [zero] at nonzero
  have divisor_eq_zero (i : K) (i_sq : i * i = -1) : right.y - i * right.x = 0 := by
    by_contra divisor
    have square := square_of_vanishes i_sq left.on_curve right.on_curve vanishes
    refine curve.nonsquare ⟨(left.y + i * left.x) / (left.x * left.y * (right.y - i * right.x)), ?_⟩
    rw [← pow_two, div_pow, square, mul_div_cancel_right₀]
    exact pow_ne_zero 2 (mul_ne_zero (mul_ne_zero left_x left_y) divisor)
  obtain ⟨i, i_sq⟩ := curve.neg_one_square
  have minus := divisor_eq_zero i i_sq.symm
  have plus := divisor_eq_zero (-i) (by rw [neg_mul_neg, i_sq])
  have double : 2 * right.y = 0 := by linear_combination minus + plus
  exact mul_ne_zero curve.two_ne_zero right_y double

theorem denominatorY_ne_zero (left right : curve.Point) : denominatorY left right ≠ 0 := by
  have negated : denominatorY left right = denominatorX (-left) right := by
    simp only [denominatorX, denominatorY, neg_x, neg_y]
    ring
  rw [negated]
  exact denominatorX_ne_zero (-left) right

instance : Add curve.Point where
  add left right :=
    { x := numeratorX left right / denominatorX left right
      y := numeratorY left right / denominatorY left right
      on_curve := fraction_on_curve (denominatorX_ne_zero left right) (denominatorY_ne_zero left right)
        (sum_on_curve left.on_curve right.on_curve) }

theorem add_x (left right : curve.Point) :
    (left + right).x = numeratorX left right / denominatorX left right := rfl

theorem add_y (left right : curve.Point) :
    (left + right).y = numeratorY left right / denominatorY left right := rfl

protected theorem add_comm (left right : curve.Point) : left + right = right + left := by
  apply Point.ext
  · rw [add_x, add_x, numeratorX, numeratorX, denominatorX, denominatorX]
    congr 1 <;> ring
  · rw [add_y, add_y, numeratorY, numeratorY, denominatorY, denominatorY]
    congr 1 <;> ring

protected theorem zero_add (point : curve.Point) : 0 + point = point := by
  apply Point.ext
  · simp [add_x, numeratorX, denominatorX]
  · simp [add_y, numeratorY, denominatorY]

protected theorem neg_add_cancel (point : curve.Point) : -point + point = 0 := by
  apply Point.ext
  · rw [add_x, zero_x, div_eq_zero_iff, numeratorX, neg_x, neg_y]
    left
    ring
  · rw [add_y, zero_y, div_eq_one_iff_eq (denominatorY_ne_zero (-point) point), numeratorY, denominatorY,
      neg_x, neg_y]
    linear_combination point.on_curve

/-- The factor at which the sum of a pair has no denominators. -/
def scale (left right : curve.Point) : K :=
  denominatorX left right * denominatorY left right

theorem scale_ne_zero (left right : curve.Point) : scale left right ≠ 0 :=
  mul_ne_zero (denominatorX_ne_zero left right) (denominatorY_ne_zero left right)

variable (first second third : curve.Point)

theorem denominatorX_add :
    denominatorX (first + second) third * scale first second =
      denominatorX first second * denominatorY first second +
        curve.d * numeratorX first second * numeratorY first second * third.x * third.y :=
  one_add_mul (denominatorX_ne_zero first second) (denominatorY_ne_zero first second)

theorem numeratorX_add :
    numeratorX (first + second) third * scale first second =
      numeratorX first second * denominatorY first second * third.y +
        numeratorY first second * denominatorX first second * third.x :=
  numerator_mul (denominatorX_ne_zero first second) (denominatorY_ne_zero first second)

theorem add_assoc_x : (first + second + third).x = (first + (second + third)).x := by
  rw [Point.add_comm first (second + third), add_x, add_x,
    div_eq_div_iff (denominatorX_ne_zero _ _) (denominatorX_ne_zero _ _)]
  have crossed : numeratorX (first + second) third * scale first second *
        (denominatorX (second + third) first * scale second third) =
      numeratorX (second + third) first * scale second third *
        (denominatorX (first + second) third * scale first second) := by
    rw [numeratorX_add, numeratorX_add, denominatorX_add, denominatorX_add]
    exact cross_x first.on_curve second.on_curve third.on_curve
  apply mul_right_cancel₀ (mul_ne_zero (scale_ne_zero first second) (scale_ne_zero second third))
  linear_combination crossed

/-- The sum with the point `(i, 0)` of order four, which exchanges the coordinates. -/
def rotate {i : K} (i_sq : i * i = -1) (point : curve.Point) : curve.Point where
  x := i * point.y
  y := i * point.x
  on_curve := by
    linear_combination point.on_curve + (point.x ^ 2 - point.y ^ 2 -
      curve.d * point.x ^ 2 * point.y ^ 2 * (i * i - 1)) * i_sq

theorem add_rotate {i : K} (i_sq : i * i = -1) (left right : curve.Point) :
    left + rotate i_sq right = rotate i_sq (left + right) := by
  have denominatorX_eq : denominatorX left (rotate i_sq right) = denominatorY left right := by
    simp only [denominatorX, denominatorY, rotate]
    linear_combination curve.d * left.x * right.x * left.y * right.y * i_sq
  have denominatorY_eq : denominatorY left (rotate i_sq right) = denominatorX left right := by
    simp only [denominatorX, denominatorY, rotate]
    linear_combination -curve.d * left.x * right.x * left.y * right.y * i_sq
  have numeratorX_eq : numeratorX left (rotate i_sq right) = i * numeratorY left right := by
    simp only [numeratorX, numeratorY, rotate]
    ring
  have numeratorY_eq : numeratorY left (rotate i_sq right) = i * numeratorX left right := by
    simp only [numeratorX, numeratorY, rotate]
    ring
  apply Point.ext
  · rw [add_x, numeratorX_eq, denominatorX_eq, mul_div_assoc]
    rfl
  · rw [add_y, numeratorY_eq, denominatorY_eq, mul_div_assoc]
    rfl

/-- The second coordinate is the first one of a rotated point. -/
protected theorem add_assoc : first + second + third = first + (second + third) := by
  obtain ⟨i, i_sq⟩ := curve.neg_one_square
  have rotated := add_assoc_x first second (rotate i_sq.symm third)
  rw [add_rotate, add_rotate, add_rotate] at rotated
  have nonzero : i ≠ 0 := by
    rintro rfl
    simp at i_sq
  exact Point.ext (add_assoc_x first second third) (mul_left_cancel₀ nonzero rotated)

instance : AddCommGroup curve.Point where
  add_assoc := Point.add_assoc
  zero_add := Point.zero_add
  add_zero point := by rw [Point.add_comm, Point.zero_add]
  neg_add_cancel := Point.neg_add_cancel
  add_comm := Point.add_comm
  nsmul := nsmulRec
  zsmul := zsmulRec

end Point
end EdwardsCurve
end DoubleRatchet
