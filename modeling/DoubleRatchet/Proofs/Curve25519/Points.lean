import DoubleRatchet.Proofs.Curve25519.Edwards
import DoubleRatchet.Proofs.Curve25519.Field
import Mathlib.GroupTheory.OrderOfElement

/-!
# Points that are computed

The pairs of reduced numbers that stand for points of the curve are closed under the computed operations,
and those are the operations of the curve's group: a projective point stands for the affine one, whatever
its scale, and one division brings it back. The base point generates a subgroup of prime order.
-/

namespace DoubleRatchet
namespace Curve25519

/-! ## The curve -/

theorem coefficient_nonsquare : ¬ IsSquare (coefficient : Residue) := by
  have nonzero : (coefficient : Residue) ≠ 0 := by
    have residue : ¬ coefficient % prime = 0 % prime := by decide +kernel
    rwa [← Field.cast_eq_iff, Nat.cast_zero] at residue
  have criterion : ¬ Field.power coefficient (prime / 2) % prime = 1 % prime := by decide +kernel
  rwa [← Field.cast_eq_iff, Field.cast_power, Nat.cast_one, ← ZMod.euler_criterion prime nonzero]
    at criterion

theorem neg_one_square : IsSquare (-1 : Residue) :=
  ⟨Field.imaginary, by rw [← pow_two, Field.cast_imaginary_sq]⟩

theorem two_ne_zero : (2 : Residue) ≠ 0 := by
  have residue : ¬ 2 % prime = 0 % prime := by decide
  rwa [← Field.cast_eq_iff, Nat.cast_zero] at residue

/-- The curve over the residues. -/
def edwards : EdwardsCurve Residue where
  d := coefficient
  nonsquare := coefficient_nonsquare
  neg_one_square := neg_one_square
  two_ne_zero := two_ne_zero

/-- The computed form of a point, with reduced coordinates. -/
def affine (element : edwards.Point) : Point :=
  ⟨element.x.val, element.y.val⟩

theorem affine_injective : Function.Injective affine := by
  intro left right same
  have x_eq : left.x.val = right.x.val := congrArg Point.x same
  have y_eq : left.y.val = right.y.val := congrArg Point.y same
  exact EdwardsCurve.Point.ext (ZMod.val_injective prime x_eq) (ZMod.val_injective prime y_eq)

theorem affine_zero : affine 0 = identity := by
  decide +kernel

theorem neg_affine (element : edwards.Point) : (affine element).neg = affine (-element) := by
  have negated : Field.negate element.x.val % prime = (-element.x).val :=
    Field.mod_eq_val (by rw [Field.cast_negate, ZMod.natCast_zmod_val])
  have reduced : Field.negate element.x.val % prime = Field.negate element.x.val := by
    unfold Field.negate
    exact Nat.mod_mod _ _
  rw [reduced] at negated
  exact Point.ext negated rfl

/-! ## Projective points -/

/-- The projective point stands for the point of the curve. -/
structure Extended.Represents (extended : Extended) (element : edwards.Point) : Prop where
  z_ne_zero : (extended.z : Residue) ≠ 0
  x_eq : (extended.x : Residue) = element.x * extended.z
  y_eq : (extended.y : Residue) = element.y * extended.z
  t_eq : (extended.t : Residue) = element.x * element.y * extended.z

namespace Extended

theorem represents_ofPoint (element : edwards.Point) : (ofPoint (affine element)).Represents element where
  z_ne_zero := by simp [ofPoint]
  x_eq := by simp [ofPoint, affine]
  y_eq := by simp [ofPoint, affine]
  t_eq := by simp [ofPoint, affine]

theorem Represents.toPoint {extended : Extended} {element : edwards.Point}
    (represents : extended.Represents element) : extended.toPoint = affine element := by
  apply Point.ext
  · refine Field.mod_eq_val ?_
    rw [Nat.cast_mul, Field.cast_invert, represents.x_eq, mul_inv_cancel_right₀ represents.z_ne_zero]
  · refine Field.mod_eq_val ?_
    rw [Nat.cast_mul, Field.cast_invert, represents.y_eq, mul_inv_cancel_right₀ represents.z_ne_zero]

open EdwardsCurve.Point in
/-- The four factors of a sum are numerators and denominators of the group's formula, on one scale. -/
theorem Represents.add {left right : Extended} {first second : edwards.Point}
    (isFirst : left.Represents first) (isSecond : right.Represents second) :
    (left.add right).Represents (first + second) := by
  let e := Field.subtract ((left.y + left.x) * (right.y + right.x) % prime)
    (Field.subtract left.y left.x * Field.subtract right.y right.x % prime)
  let f := Field.subtract (2 * left.z * right.z % prime)
    (left.t * doubledCoefficient % prime * right.t % prime)
  let g := 2 * left.z * right.z % prime + left.t * doubledCoefficient % prime * right.t % prime
  let h := (left.y + left.x) * (right.y + right.x) % prime +
    Field.subtract left.y left.x * Field.subtract right.y right.x % prime
  let scale : Residue := 2 * left.z * right.z
  have sum_eq : left.add right = ⟨e * f % prime, g * h % prime, f * g % prime, e * h % prime⟩ := rfl
  have e_eq : (e : Residue) = scale * numeratorX first second := by
    simp only [e, scale, Field.cast_subtract, ZMod.natCast_mod, Nat.cast_mul, Nat.cast_add,
      isFirst.x_eq, isFirst.y_eq, isSecond.x_eq, isSecond.y_eq, numeratorX]
    ring
  have f_eq : (f : Residue) = scale * denominatorY first second := by
    simp only [f, scale, Field.cast_subtract, ZMod.natCast_mod, Nat.cast_mul, Nat.cast_ofNat,
      isFirst.t_eq, isSecond.t_eq, denominatorY, doubledCoefficient, edwards]
    ring
  have g_eq : (g : Residue) = scale * denominatorX first second := by
    simp only [g, scale, ZMod.natCast_mod, Nat.cast_mul, Nat.cast_add, Nat.cast_ofNat,
      isFirst.t_eq, isSecond.t_eq, denominatorX, doubledCoefficient, edwards]
    ring
  have h_eq : (h : Residue) = scale * numeratorY first second := by
    simp only [h, scale, Field.cast_subtract, ZMod.natCast_mod, Nat.cast_mul, Nat.cast_add,
      isFirst.x_eq, isFirst.y_eq, isSecond.x_eq, isSecond.y_eq, numeratorY]
    ring
  have scale_ne_zero : scale ≠ 0 :=
    mul_ne_zero (mul_ne_zero two_ne_zero isFirst.z_ne_zero) isSecond.z_ne_zero
  have denominatorX_ne := denominatorX_ne_zero first second
  have denominatorY_ne := denominatorY_ne_zero first second
  rw [sum_eq]
  constructor
  · rw [ZMod.natCast_mod, Nat.cast_mul, f_eq, g_eq]
    exact mul_ne_zero (mul_ne_zero scale_ne_zero denominatorY_ne)
      (mul_ne_zero scale_ne_zero denominatorX_ne)
  · simp only [ZMod.natCast_mod, Nat.cast_mul, e_eq, f_eq, g_eq, add_x]
    field_simp
  · simp only [ZMod.natCast_mod, Nat.cast_mul, f_eq, g_eq, h_eq, add_y]
    field_simp
  · simp only [ZMod.natCast_mod, Nat.cast_mul, e_eq, f_eq, g_eq, h_eq, add_x, add_y]
    field_simp

theorem Represents.multiple {extended : Extended} {element : edwards.Point}
    (represents : extended.Represents element) (scalar : Nat) :
    (extended.multiple scalar).Represents (scalar • element) := by
  induction scalar using Nat.strong_induction_on with
  | h scalar ih =>
      unfold Extended.multiple
      split
      next isZero =>
        rw [isZero, zero_nsmul, ← affine_zero]
        exact represents_ofPoint 0
      next notZero =>
        have half := ih (scalar / 2) (by omega)
        have double := half.add half
        rw [← add_nsmul] at double
        dsimp only
        split
        next odd =>
          have next := double.add represents
          rw [← succ_nsmul] at next
          have scalar_eq : scalar / 2 + scalar / 2 + 1 = scalar := by omega
          rwa [scalar_eq] at next
        next even =>
          have scalar_eq : scalar / 2 + scalar / 2 = scalar := by omega
          rwa [scalar_eq] at double

end Extended

theorem add_affine (left right : edwards.Point) :
    (affine left).add (affine right) = affine (left + right) :=
  ((Extended.represents_ofPoint left).add (Extended.represents_ofPoint right)).toPoint

theorem multiple_affine (scalar : Nat) (element : edwards.Point) :
    (affine element).multiple scalar = affine (scalar • element) :=
  ((Extended.represents_ofPoint element).multiple scalar).toPoint

/-! ## The base point -/

theorem base_on_curve : (base.y : Residue) ^ 2 - (base.x : Residue) ^ 2 =
    1 + (coefficient : Residue) * (base.x : Residue) ^ 2 * (base.y : Residue) ^ 2 := by
  have numbers : base.y ^ 2 % prime =
      (1 + coefficient * base.x ^ 2 * base.y ^ 2 + base.x ^ 2) % prime := by decide +kernel
  rw [← Field.cast_eq_iff] at numbers
  push_cast at numbers
  exact sub_eq_iff_eq_add.mpr numbers

def generator : edwards.Point :=
  ⟨base.x, base.y, base_on_curve⟩

theorem affine_generator : affine generator = base := by
  decide +kernel

theorem order_nsmul_generator : order • generator = 0 := by
  apply affine_injective
  rw [← multiple_affine, affine_generator, affine_zero]
  decide +kernel

theorem addOrderOf_generator : addOrderOf generator = order := by
  have : Fact order.Prime := ⟨order_prime⟩
  refine addOrderOf_eq_prime order_nsmul_generator ?_
  intro isZero
  have same := congrArg affine isZero
  rw [affine_generator, affine_zero] at same
  exact absurd same (by decide)

/-- The subgroup has no element of order two. -/
theorem eq_zero_of_neg_eq {element : edwards.Point} (isMultiple : element ∈ AddSubgroup.zmultiples generator)
    (neg_eq : -element = element) : element = 0 := by
  obtain ⟨count, element_eq⟩ := AddSubgroup.mem_zmultiples_iff.mp isMultiple
  have full : order • element = 0 := by
    rw [← element_eq, smul_comm, order_nsmul_generator, smul_zero]
  have twice : 2 • element = 0 := by
    rw [two_nsmul]
    exact neg_eq_iff_add_eq_zero.mp neg_eq
  have divides : addOrderOf element ∣ Nat.gcd order 2 :=
    Nat.dvd_gcd (addOrderOf_dvd_of_nsmul_eq_zero full) (addOrderOf_dvd_of_nsmul_eq_zero twice)
  have coprime : Nat.gcd order 2 = 1 := by decide
  rw [coprime, Nat.dvd_one] at divides
  exact AddMonoid.addOrderOf_eq_one_iff.mp divides

end Curve25519
end DoubleRatchet
