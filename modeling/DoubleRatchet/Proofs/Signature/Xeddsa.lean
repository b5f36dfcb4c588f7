import DoubleRatchet.Primitive.Xeddsa
import DoubleRatchet.Proofs.Codec
import Mathlib.GroupTheory.OrderOfElement

/-!
# Signatures verify

A signature is an equation between multiples of the base point, so it takes no more of the curve than
that its points are a group, that the base point has a large prime order, and that an agreement
coordinate names a point up to its sign. Signer and verifier then speak of the same point: the signer
has turned its own to the positive sign, and the verifier reconstructs just that one.
-/

namespace DoubleRatchet

namespace Scalar

theorem eight_dvd_clamp (scalar : Nat) : 8 ∣ clamp scalar := by
  unfold clamp
  exact Nat.dvd_add (by decide) (Nat.dvd_mul_right 8 _)

theorem clamp_pos (scalar : Nat) : 0 < clamp scalar := by
  unfold clamp
  exact Nat.add_pos_left (by decide) _

theorem clamp_lt (scalar : Nat) : clamp scalar < 1 <<< 255 := by
  unfold clamp
  have bound : scalar % (1 <<< 254) < 1 <<< 254 := Nat.mod_lt scalar (by decide)
  omega

end Scalar

namespace Xeddsa

/-- The sign in the top bit is clear. -/
def Positive (block : Block 32) : Prop :=
  block.toNat < 1 <<< 255

theorem clearTopBit_of_positive {block : Block 32} (positive : Positive block) :
    clearTopBit block = block := by
  unfold clearTopBit
  rw [Nat.mod_eq_of_lt positive, Block.littleEndian_toNat]

instance (block : Block 32) : Decidable (Positive block) :=
  inferInstanceAs (Decidable (_ < _))

theorem positive_iff_top_ne_one (block : Block 32) :
    Positive block ↔ block.toNat >>> 255 ≠ 1 := by
  have bound := block.toNat_lt
  unfold Positive
  rw [Nat.shiftRight_eq_div_pow]
  simp only [Nat.shiftLeft_eq] at bound ⊢
  omega

/-- The points are the elements of an additive group. Signs and agreement coordinates need laws only at
nonzero multiples of the base point, since every key is one. -/
structure Group.Lawful (group : Group) {Element : Type*} [AddCommGroup Element]
    (point : Element → group.Point) (generator : Element) : Prop where
  base_eq : group.base = point generator
  add_eq : ∀ left right, group.add (point left) (point right) = point (left + right)
  neg_eq : ∀ element, group.neg (point element) = point (-element)
  multiple_eq : ∀ count element, group.multiple count (point element) = point (count • element)
  order_eq : group.order = addOrderOf generator
  order_prime : group.order.Prime
  order_large : 1 <<< 252 ≤ group.order
  order_small : group.order ≤ 1 <<< 253
  /-- Negation turns the sign over. -/
  positive_neg : ∀ element ∈ AddSubgroup.zmultiples generator, element ≠ 0 →
    (Positive (group.compress (point (-element))) ↔ ¬ Positive (group.compress (point element)))
  /-- Negation changes nothing but the sign. -/
  clearTopBit_neg : ∀ element ∈ AddSubgroup.zmultiples generator, element ≠ 0 →
    clearTopBit (group.compress (point (-element))) = clearTopBit (group.compress (point element))
  toMontgomery_neg : ∀ element ∈ AddSubgroup.zmultiples generator, element ≠ 0 →
    group.toMontgomery (point (-element)) = group.toMontgomery (point element)
  toMontgomery_positive : ∀ element ∈ AddSubgroup.zmultiples generator, element ≠ 0 →
    Positive (group.toMontgomery (point element))
  ofMontgomery_toMontgomery : ∀ element ∈ AddSubgroup.zmultiples generator, element ≠ 0 →
    Positive (group.compress (point element)) →
      group.ofMontgomery (group.toMontgomery (point element)) = some (point element)

namespace Group.Lawful

variable {group : Group} {Element : Type*} [AddCommGroup Element] {point : Element → group.Point}
  {generator : Element}

theorem multiple_base (lawful : group.Lawful point generator) (count : Nat) :
    group.multiple count group.base = point (count • generator) := by
  rw [lawful.base_eq, lawful.multiple_eq]

theorem order_nsmul (lawful : group.Lawful point generator) : group.order • generator = 0 := by
  rw [lawful.order_eq]
  exact addOrderOf_nsmul_eq_zero generator

theorem mod_order_nsmul (lawful : group.Lawful point generator) (count : Nat) :
    (count % group.order) • generator = count • generator := by
  rw [lawful.order_eq]
  exact mod_addOrderOf_nsmul generator count

/-- A clamped scalar is eight times a number too small to hold the order as a factor. -/
theorem clamp_nsmul_ne_zero (lawful : group.Lawful point generator) (scalar : Nat) :
    Scalar.clamp scalar • generator ≠ 0 := by
  intro isZero
  have divides : group.order ∣ Scalar.clamp scalar := by
    rw [lawful.order_eq]
    exact addOrderOf_dvd_of_nsmul_eq_zero isZero
  obtain ⟨part, clamp_eq⟩ := Scalar.eight_dvd_clamp scalar
  have positive := Scalar.clamp_pos scalar
  have below := Scalar.clamp_lt scalar
  have large := lawful.order_large
  rw [clamp_eq] at divides positive below
  rcases lawful.order_prime.dvd_mul.mp divides with dividesEight | dividesPart
  · have atMost := Nat.le_of_dvd (by decide) dividesEight
    omega
  · have atMost := Nat.le_of_dvd (by omega) dividesPart
    omega

theorem negated_nsmul (lawful : group.Lawful point generator) {scalar : Nat}
    (below : scalar < group.order) :
    ((group.order - scalar) % group.order) • generator = -(scalar • generator) := by
  have sum : (group.order - scalar) • generator + scalar • generator = 0 := by
    rw [← add_nsmul, Nat.sub_add_cancel below.le, lawful.order_nsmul]
  rw [lawful.mod_order_nsmul]
  exact eq_neg_of_add_eq_zero_left sum

/-- The pair in terms of the key's own multiple of the base point. -/
theorem signingPair_eq (lawful : group.Lawful point generator) (secret : Block 32) :
    let scalar := Scalar.clamp secret.toNat % group.order
    let compressed := group.compress (point (Scalar.clamp secret.toNat • generator))
    signingPair group secret =
      (if Positive compressed then scalar else (group.order - scalar) % group.order,
        clearTopBit compressed) := by
  dsimp only [signingPair]
  rw [lawful.multiple_base, lawful.mod_order_nsmul]
  simp only [positive_iff_top_ne_one, ne_eq, ite_not]

/-- What signer and verifier both know of a key: a multiple of the base point that has positive sign. -/
structure Shares (group : Group) (point : Element → group.Point) (generator : Element)
    (secret : Block 32) (element : Element) : Prop where
  isMultiple : element ∈ AddSubgroup.zmultiples generator
  ne_zero : element ≠ 0
  positive : Positive (group.compress (point element))
  scalar_nsmul : (signingPair group secret).1 • generator = element
  compressed : (signingPair group secret).2 = group.compress (point element)
  publicKey_eq : publicKey group secret = group.toMontgomery (point element)

/-- The scalar is negated just when its own multiple has the wrong sign. -/
theorem exists_shares (lawful : group.Lawful point generator) (secret : Block 32) :
    ∃ element, Shares group point generator secret element := by
  let element := Scalar.clamp secret.toNat • generator
  have isMultiple : element ∈ AddSubgroup.zmultiples generator :=
    AddSubgroup.nsmul_mem_zmultiples generator _
  have ne_zero : element ≠ 0 := lawful.clamp_nsmul_ne_zero secret.toNat
  have pair_eq := lawful.signingPair_eq secret
  have publicKey_eq : publicKey group secret = group.toMontgomery (point element) := by
    unfold publicKey
    rw [lawful.multiple_base]
  by_cases positive : Positive (group.compress (point element))
  · refine ⟨element, isMultiple, ne_zero, positive, ?_, ?_, publicKey_eq⟩
    · rw [pair_eq]
      dsimp only
      rw [if_pos positive, lawful.mod_order_nsmul]
    · rw [pair_eq]
      exact clearTopBit_of_positive positive
  · have turned : Positive (group.compress (point (-element))) :=
      (lawful.positive_neg element isMultiple ne_zero).mpr positive
    refine ⟨-element, neg_mem isMultiple, neg_ne_zero.mpr ne_zero, turned, ?_, ?_, ?_⟩
    · have below : Scalar.clamp secret.toNat % group.order < group.order :=
        Nat.mod_lt _ lawful.order_prime.pos
      rw [pair_eq]
      dsimp only
      rw [if_neg positive, lawful.negated_nsmul below, lawful.mod_order_nsmul]
    · rw [pair_eq, ← clearTopBit_of_positive turned]
      exact (lawful.clearTopBit_neg element isMultiple ne_zero).symm
    · rw [publicKey_eq, lawful.toMontgomery_neg element isMultiple ne_zero]

/-- The verifier reconstructs the point of the signer's scalar. -/
theorem Shares.ofMontgomery (lawful : group.Lawful point generator) {secret : Block 32}
    {element : Element} (shares : Shares group point generator secret element) :
    group.ofMontgomery (clearTopBit (publicKey group secret)) = some (point element) := by
  have keyPositive := lawful.toMontgomery_positive element shares.isMultiple shares.ne_zero
  rw [shares.publicKey_eq, clearTopBit_of_positive keyPositive]
  exact lawful.ofMontgomery_toMontgomery element shares.isMultiple shares.ne_zero shares.positive

/-- The equation of a signature: the part of the key cancels, and the nonce is left. -/
theorem response_nsmul (lawful : group.Lawful point generator) {scalar : Nat} {element : Element}
    (scalar_nsmul : scalar • generator = element) (nonce challenge : Nat) :
    ((nonce + challenge * scalar) % group.order) • generator + challenge • -element =
      nonce • generator := by
  rw [lawful.mod_order_nsmul, add_nsmul, mul_nsmul', scalar_nsmul, neg_nsmul, add_neg_cancel_right]

/-- A response is reduced, so masking loses none of it and its high bits are clear. -/
theorem masked_response (lawful : group.Lawful point generator) (value : Nat) :
    (Block.littleEndian 32 (value % group.order)).toNat % (1 <<< 255) = value % group.order ∧
      (value % group.order) >>> 253 = 0 := by
  have below := Nat.lt_of_lt_of_le (Nat.mod_lt value lawful.order_prime.pos) lawful.order_small
  constructor
  · rw [Block.toNat_littleEndian (Nat.lt_trans below (by decide)),
      Nat.mod_eq_of_lt (Nat.lt_trans below (by decide))]
  · rw [Nat.shiftRight_eq_div_pow]
    exact Nat.div_eq_of_lt below

/-- Every signature verifies, whatever the hash. -/
theorem verify_sign (lawful : group.Lawful point generator) (hash : Bytes → Block 64)
    (secret : Block 32) (message : Bytes) (noise : Block 64) :
    verify group hash (publicKey group secret) message
      (sign group hash secret message noise).bytes = true := by
  obtain ⟨element, shares⟩ := lawful.exists_shares secret
  have reconstructed := shares.ofMontgomery lawful
  unfold verify sign
  simp only [Block.ofBytes?_eq_some.mpr rfl, Block.halves_append, reconstructed, shares.compressed]
  set nonce := hashToScalar group hash (nonceLabel ++
    Bytes.littleEndian 32 (signingPair group secret).1 ++ message ++ noise.bytes)
  set challenge := hashToScalar group hash ((group.compress (group.multiple nonce group.base)).bytes ++
    (group.compress (point element)).bytes ++ message)
  obtain ⟨masked, high⟩ :=
    lawful.masked_response (nonce + challenge * (signingPair group secret).1)
  have expected : group.add (group.multiple ((nonce + challenge * (signingPair group secret).1) %
        group.order) group.base) (group.multiple challenge (group.neg (point element))) =
      group.multiple nonce group.base := by
    rw [lawful.neg_eq, lawful.multiple_eq, lawful.multiple_base, lawful.multiple_base, lawful.add_eq,
      lawful.response_nsmul shares.scalar_nsmul]
  rw [masked, if_neg (not_not.mpr high), Nat.mod_mod, expected]
  exact beq_self_eq_true _

end Group.Lawful
end Xeddsa
end DoubleRatchet
