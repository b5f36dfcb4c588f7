import DoubleRatchet.Primitive.Aead
import DoubleRatchet.Primitive.Curve25519
import DoubleRatchet.Primitive.Hmac
import DoubleRatchet.Primitive.Sha512
import DoubleRatchet.Primitive.Xeddsa
import DoubleRatchet.Suite

/-!
# The suite in use

Curve25519 for agreement and signatures, SHA-512 as the hash, HMAC and key
derivation over SHA-256, ChaCha20 with Poly1305 for encryption.
-/

namespace DoubleRatchet

/-- The Edwards form of the curve, as signatures use it. -/
def Curve25519.signingGroup : Xeddsa.Group where
  Point := Point
  base := base
  order := order
  add := Point.add
  neg := Point.neg
  multiple := Point.multiple
  compress := Point.compress
  toMontgomery := Point.toMontgomery
  ofMontgomery := Point.ofMontgomery

def Suite.standard : Suite where
  publicKey key := ⟨Xeddsa.publicKey Curve25519.signingGroup key.scalar⟩
  agree key theirs :=
    let secret := Curve25519.agree key.scalar theirs.point
    if secret = Block.fill 32 0 then none else some secret
  sign key message noise :=
    Xeddsa.sign Curve25519.signingGroup Sha512.digest key.scalar message noise
  verify key message signature :=
    Xeddsa.verify Curve25519.signingGroup Sha512.digest key.point message signature
  hash := Sha512.digest
  tag := Hmac.tag
  derive := Hkdf.derive
  encrypt := Aead.encrypt
  decrypt := Aead.decrypt

namespace Suite

/-- Key derivation to a length chosen by the caller, which may be too long. -/
def deriveChecked (suite : Suite) (secret : Bytes) (salt : Option Bytes) (info : Bytes)
    (length : Nat) : Except Failure Bytes :=
  if length ≤ Hkdf.maxLength then .ok (suite.derive secret salt info length).bytes
  else .error (.refused .keyDerivation)

end Suite
end DoubleRatchet
