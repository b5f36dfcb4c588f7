import DoubleRatchet.Proofs.Curve25519.Coordinates
import DoubleRatchet.Proofs.Suite
import DoubleRatchet.Suite.Standard

/-!
# Signatures of the suite in use

The curve in use is a lawful group for signatures, so what a private key signs is accepted under its
public half: for every key, clamped or not, every message and all noise.
-/

namespace DoubleRatchet
namespace Curve25519

/-- The computed curve is what signatures rely on. -/
theorem signingGroup_lawful : signingGroup.Lawful affine generator where
  base_eq := affine_generator.symm
  add_eq := add_affine
  neg_eq := neg_affine
  multiple_eq := multiple_affine
  order_eq := addOrderOf_generator.symm
  order_prime := order_prime
  order_large := by decide +kernel
  order_small := by decide +kernel
  positive_neg _ isMultiple ne_zero := positive_compress_neg (x_ne_zero isMultiple ne_zero)
  clearTopBit_neg element _ _ := clearTopBit_compress_neg element
  toMontgomery_neg element _ _ := toMontgomery_neg element
  toMontgomery_positive element _ _ := positive_toMontgomery element
  ofMontgomery_toMontgomery element isMultiple ne_zero positive := by
    have y_ne := y_ne_one (x_ne_zero isMultiple ne_zero)
    have isEven := (positive_compress_iff element).mp positive
    dsimp only [signingGroup]
    exact ofMontgomery_toMontgomery y_ne isEven

end Curve25519

namespace Suite

/-- Every signature is accepted under the public key of the key that made it. -/
theorem standard_acceptsSigned : standard.AcceptsSigned := by
  intro key message noise
  dsimp only [standard]
  exact Curve25519.signingGroup_lawful.verify_sign Sha512.digest key.scalar message noise

end Suite
end DoubleRatchet
