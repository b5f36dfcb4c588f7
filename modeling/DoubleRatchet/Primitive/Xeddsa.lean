import DoubleRatchet.Primitive.Scalar

/-!
# Signatures with agreement keys

An agreement key fixes a point only up to its sign, so the signer negates its
scalar whenever its point has the sign that the verifier would not reconstruct.
The scheme is written over any group with a compressed form and a conversion to
and from agreement coordinates.
-/

namespace DoubleRatchet
namespace Xeddsa

structure Group where
  Point : Type
  base : Point
  /-- The order of the base point. -/
  order : Nat
  add : Point → Point → Point
  neg : Point → Point
  multiple : Nat → Point → Point
  /-- A coordinate, with the sign of the other one in the top bit. -/
  compress : Point → Block 32
  toMontgomery : Point → Block 32
  /-- The point of positive sign over an agreement coordinate. -/
  ofMontgomery : Block 32 → Option Point

/-- Separates the hash that draws the nonce from the one that draws the challenge. -/
def nonceLabel : Bytes :=
  0xfe :: List.replicate 31 0xff

def clearTopBit (block : Block 32) : Block 32 :=
  Block.littleEndian 32 (block.toNat % (1 <<< 255))

variable (group : Group) (hash : Bytes → Block 64)

/-- The agreement coordinate of a private key. -/
def publicKey (secret : Block 32) : Block 32 :=
  group.toMontgomery (group.multiple (Scalar.clamp secret.toNat) group.base)

/-- A scalar and the compressed form, of positive sign, of its multiple of the base point. -/
def signingPair (secret : Block 32) : Nat × Block 32 :=
  let scalar := Scalar.clamp secret.toNat % group.order
  let compressed := group.compress (group.multiple scalar group.base)
  let signed :=
    if compressed.toNat >>> 255 = 1 then (group.order - scalar) % group.order else scalar
  (signed, clearTopBit compressed)

def hashToScalar (input : Bytes) : Nat :=
  (hash input).toNat % group.order

/-- `noise` is fresh for every signature. -/
def sign (secret : Block 32) (message : Bytes) (noise : Block 64) : Block 64 :=
  let (scalar, point) := signingPair group secret
  let nonce := hashToScalar group hash
    (nonceLabel ++ Bytes.littleEndian 32 scalar ++ message ++ noise.bytes)
  let commitment := group.compress (group.multiple nonce group.base)
  let challenge := hashToScalar group hash (commitment.bytes ++ point.bytes ++ message)
  commitment.append (Block.littleEndian 32 ((nonce + challenge * scalar) % group.order))

def verify (key : Block 32) (message signature : Bytes) : Bool :=
  match Block.ofBytes? 64 signature with
  | none => false
  | some signature =>
      let commitment := signature.halves.1
      let response := signature.halves.2.toNat % (1 <<< 255)
      if response >>> 253 ≠ 0 then false
      else
        match group.ofMontgomery (clearTopBit key) with
        | none => false
        | some point =>
            let challenge := hashToScalar group hash
              (commitment.bytes ++ (group.compress point).bytes ++ message)
            let expected := group.add
              (group.multiple (response % group.order) group.base)
              (group.multiple challenge (group.neg point))
            group.compress expected == commitment

end Xeddsa
end DoubleRatchet
