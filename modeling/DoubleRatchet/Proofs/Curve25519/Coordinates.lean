import DoubleRatchet.Proofs.Curve25519.Points
import DoubleRatchet.Proofs.Signature.Xeddsa

/-!
# Compressed points and agreement coordinates

The top bit of a compressed point is the parity of its first coordinate, which negation turns over. An
agreement coordinate is a quotient of the second one alone, so it is the same for a point and its
negation, and the point of even first coordinate is found again from it. The compressed form tells all
points apart.
-/

namespace DoubleRatchet
namespace Curve25519

theorem val_lt_top (residue : Residue) : residue.val < 1 <<< 255 :=
  Nat.lt_trans residue.val_lt (by decide)

/-! ## Signs -/

theorem toNat_compress (element : edwards.Point) :
    (affine element).compress.toNat = element.y.val + (element.x.val % 2) <<< 255 := by
  have below := val_lt_top element.y
  refine Block.toNat_littleEndian ?_
  dsimp only [affine]
  rw [Nat.shiftLeft_eq]
  omega

theorem positive_compress_iff (element : edwards.Point) :
    Xeddsa.Positive (affine element).compress ↔ element.x.val % 2 = 0 := by
  have below := val_lt_top element.y
  unfold Xeddsa.Positive
  rw [toNat_compress, Nat.shiftLeft_eq]
  omega

theorem clearTopBit_compress (element : edwards.Point) :
    Xeddsa.clearTopBit (affine element).compress = Block.littleEndian 32 element.y.val := by
  have below := val_lt_top element.y
  unfold Xeddsa.clearTopBit
  rw [toNat_compress]
  simp only [Nat.shiftLeft_eq] at below ⊢
  congr 1
  omega

theorem clearTopBit_compress_neg (element : edwards.Point) :
    Xeddsa.clearTopBit (affine (-element)).compress = Xeddsa.clearTopBit (affine element).compress := by
  rw [clearTopBit_compress, clearTopBit_compress, EdwardsCurve.Point.neg_y]

/-- A number and its negation add to the prime, which is odd. -/
theorem neg_val_even_iff {residue : Residue} (nonzero : residue ≠ 0) :
    (-residue).val % 2 = 0 ↔ ¬ residue.val % 2 = 0 := by
  have odd : prime % 2 = 1 := by decide
  have below := residue.val_lt
  have : NeZero residue := ⟨nonzero⟩
  rw [ZMod.val_neg_of_ne_zero]
  omega

theorem positive_compress_neg {element : edwards.Point} (x_ne : element.x ≠ 0) :
    Xeddsa.Positive (affine (-element)).compress ↔ ¬ Xeddsa.Positive (affine element).compress := by
  rw [positive_compress_iff, positive_compress_iff, EdwardsCurve.Point.neg_x, neg_val_even_iff x_ne]

/-! ## Points with a first coordinate -/

theorem x_ne_zero {element : edwards.Point} (isMultiple : element ∈ AddSubgroup.zmultiples generator)
    (ne_zero : element ≠ 0) : element.x ≠ 0 := by
  intro isZero
  refine ne_zero (eq_zero_of_neg_eq isMultiple ?_)
  apply EdwardsCurve.Point.ext
  · rw [EdwardsCurve.Point.neg_x, isZero, neg_zero]
  · rfl

theorem y_ne_one {element : edwards.Point} (x_ne : element.x ≠ 0) : element.y ≠ 1 := by
  intro isOne
  have curve := element.on_curve
  rw [isOne] at curve
  have product : (1 + edwards.d) * element.x ^ 2 = 0 := by linear_combination -curve
  rcases mul_eq_zero.mp product with isMinusOne | isZero
  · have d_eq : edwards.d = -1 := by linear_combination isMinusOne
    exact edwards.nonsquare (d_eq ▸ edwards.neg_one_square)
  · exact x_ne (pow_eq_zero_iff (by decide) |>.mp isZero)

/-- The curve's equation can be solved for the square of the first coordinate. -/
theorem one_add_mul_sq_ne_zero (residue : Residue) : edwards.d * residue ^ 2 + 1 ≠ 0 := by
  intro vanishes
  obtain ⟨i, i_sq⟩ := edwards.neg_one_square
  have residue_ne : residue ≠ 0 := by
    rintro rfl
    simp at vanishes
  refine edwards.nonsquare ⟨i / residue, ?_⟩
  field_simp
  linear_combination vanishes + i_sq

/-! ## Agreement coordinates -/

/-- The agreement coordinate as a residue. -/
def coordinate (element : edwards.Point) : Residue :=
  (1 + element.y) * (1 - element.y)⁻¹

theorem coordinate_neg (element : edwards.Point) : coordinate (-element) = coordinate element := by
  unfold coordinate
  rw [EdwardsCurve.Point.neg_y]

theorem toMontgomery_affine (element : edwards.Point) :
    (affine element).toMontgomery = Block.littleEndian 32 (coordinate element).val := by
  unfold Point.toMontgomery
  congr 1
  refine Field.mod_eq_val ?_
  simp only [affine, coordinate, Nat.cast_mul, Nat.cast_add, Nat.cast_one, Field.cast_invert,
    Field.cast_subtract, ZMod.natCast_zmod_val]

theorem toMontgomery_neg (element : edwards.Point) :
    (affine (-element)).toMontgomery = (affine element).toMontgomery := by
  rw [toMontgomery_affine, toMontgomery_affine, coordinate_neg]

theorem toNat_toMontgomery (element : edwards.Point) :
    (affine element).toMontgomery.toNat = (coordinate element).val := by
  rw [toMontgomery_affine]
  exact Block.toNat_littleEndian (Nat.lt_trans (val_lt_top _) (by decide))

theorem positive_toMontgomery (element : edwards.Point) :
    Xeddsa.Positive (affine element).toMontgomery := by
  unfold Xeddsa.Positive
  rw [toNat_toMontgomery]
  exact val_lt_top _

section

variable {element : edwards.Point}

theorem coordinate_ne_neg_one (y_ne : element.y ≠ 1) : coordinate element ≠ -1 := by
  have divisor : 1 - element.y ≠ 0 := sub_ne_zero.mpr y_ne.symm
  intro isMinusOne
  unfold coordinate at isMinusOne
  rw [mul_inv_eq_iff_eq_mul₀ divisor] at isMinusOne
  exact two_ne_zero (by linear_combination isMinusOne)

/-- The second coordinate is the quotient taken back. -/
theorem y_of_coordinate (y_ne : element.y ≠ 1) :
    (coordinate element - 1) * (coordinate element + 1)⁻¹ = element.y := by
  have divisor : 1 - element.y ≠ 0 := sub_ne_zero.mpr y_ne.symm
  have shifted : coordinate element + 1 ≠ 0 := by
    intro vanishes
    exact coordinate_ne_neg_one y_ne (eq_neg_of_add_eq_zero_left vanishes)
  rw [mul_inv_eq_iff_eq_mul₀ shifted]
  unfold coordinate
  field_simp
  ring

theorem x_sq_of_y : (element.y ^ 2 - 1) * (edwards.d * element.y ^ 2 + 1)⁻¹ = element.x ^ 2 := by
  rw [mul_inv_eq_iff_eq_mul₀ (one_add_mul_sq_ne_zero element.y)]
  linear_combination element.on_curve

theorem ofMontgomery_toMontgomery (y_ne : element.y ≠ 1) (isEven : element.x.val % 2 = 0) :
    Point.ofMontgomery (affine element).toMontgomery = some (affine element) := by
  have masked : (affine element).toMontgomery.toNat % (1 <<< 255) % prime =
      (coordinate element).val := by
    rw [toNat_toMontgomery, Nat.mod_eq_of_lt (val_lt_top _), Nat.mod_eq_of_lt (ZMod.val_lt _)]
  have notTwist : (coordinate element).val ≠ prime - 1 := by
    intro isLast
    have negated : prime - 1 = Field.negate 1 := by decide
    have residue := congrArg (Nat.cast : Nat → Residue) (isLast.trans negated)
    rw [ZMod.natCast_zmod_val, Field.cast_negate, Nat.cast_one] at residue
    exact coordinate_ne_neg_one y_ne residue
  have y_eq : Field.subtract (coordinate element).val 1 *
      Field.invert ((coordinate element).val + 1) % prime = element.y.val := by
    refine Field.mod_eq_val ?_
    rw [Nat.cast_mul, Field.cast_subtract, Field.cast_invert, Nat.cast_add, Nat.cast_one,
      ZMod.natCast_zmod_val, y_of_coordinate y_ne]
  have root_eq : Field.squareRoot (Field.subtract (element.y.val * element.y.val % prime) 1 *
      Field.invert (coefficient * (element.y.val * element.y.val % prime) + 1) % prime) =
        some element.x.val := by
    refine Field.squareRoot_eq_some element.x.val_lt isEven ?_
    rw [ZMod.natCast_mod, Nat.cast_mul, Field.cast_subtract, Field.cast_invert, Nat.cast_add,
      Nat.cast_mul coefficient, ZMod.natCast_mod, Nat.cast_mul, Nat.cast_one, ZMod.natCast_zmod_val,
      ZMod.natCast_zmod_val, ← pow_two]
    exact x_sq_of_y.symm
  unfold Point.ofMontgomery
  dsimp only
  rw [masked, if_neg notTwist, y_eq, root_eq]
  rfl

end

/-! ## Telling points apart -/

theorem sq_eq_of_y_eq {left right : edwards.Point} (same : left.y = right.y) :
    left.x ^ 2 = right.x ^ 2 := by
  rw [← x_sq_of_y, ← x_sq_of_y, same]

/-- Of the two points with one second coordinate, the compressed form tells the sign. -/
theorem compress_injective : Function.Injective fun element => (affine element).compress := by
  intro left right same
  have numbers : left.y.val + (left.x.val % 2) <<< 255 = right.y.val + (right.x.val % 2) <<< 255 := by
    rw [← toNat_compress, ← toNat_compress]
    exact congrArg Block.toNat same
  have leftBelow := val_lt_top left.y
  have rightBelow := val_lt_top right.y
  simp only [Nat.shiftLeft_eq] at numbers leftBelow rightBelow
  have y_eq : left.y = right.y := ZMod.val_injective prime (by omega)
  have parity : left.x.val % 2 = right.x.val % 2 := by
    rw [y_eq] at numbers
    omega
  -- Two roots of one square are equal or opposite, and opposite ones differ in parity.
  rcases sq_eq_sq_iff_eq_or_eq_neg.mp (sq_eq_of_y_eq y_eq) with x_eq | opposite
  · exact EdwardsCurve.Point.ext x_eq y_eq
  · by_cases isZero : right.x = 0
    · rw [isZero, neg_zero] at opposite
      exact EdwardsCurve.Point.ext (opposite.trans isZero.symm) y_eq
    · have turned := neg_val_even_iff isZero
      rw [← opposite, parity] at turned
      exact absurd turned iff_not_self

/-- Only points of the curve are reconstructed. -/
theorem exists_of_ofMontgomery {u : Block 32} {point : Point}
    (found : Point.ofMontgomery u = some point) : ∃ element, point = affine element := by
  unfold Point.ofMontgomery at found
  dsimp only at found
  split at found
  · cases found
  · generalize y_eq : Field.subtract (u.toNat % (1 <<< 255) % prime) 1 *
      Field.invert (u.toNat % (1 <<< 255) % prime + 1) % prime = y at found
    have y_lt : y < prime := by
      rw [← y_eq]
      exact Nat.mod_lt _ (by decide)
    obtain ⟨x, isRoot, rfl⟩ := Option.map_eq_some_iff.mp found
    obtain ⟨x_lt, x_sq⟩ := Field.squareRoot_sound isRoot
    rw [ZMod.natCast_mod, Nat.cast_mul, Field.cast_subtract, Field.cast_invert, Nat.cast_add,
      Nat.cast_mul coefficient, ZMod.natCast_mod, Nat.cast_mul, Nat.cast_one, ← pow_two,
      ← div_eq_mul_inv] at x_sq
    replace x_sq := (eq_div_iff (one_add_mul_sq_ne_zero (y : Residue))).mp x_sq
    have on_curve : (y : Residue) ^ 2 - (x : Residue) ^ 2 =
        1 + edwards.d * (x : Residue) ^ 2 * (y : Residue) ^ 2 := by
      linear_combination -x_sq
    refine ⟨⟨x, y, on_curve⟩, Point.ext ?_ ?_⟩
    · exact (ZMod.val_natCast_of_lt x_lt).symm
    · exact (ZMod.val_natCast_of_lt y_lt).symm

end Curve25519
end DoubleRatchet
