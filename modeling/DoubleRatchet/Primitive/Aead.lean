import DoubleRatchet.Primitive.ChaCha20

/-!
# Authenticated encryption with ChaCha20 and Poly1305

The one-time authenticator evaluates a polynomial at a point taken from the
keystream. It covers the associated data and the ciphertext, each padded to
sixteen bytes, and their lengths. `decrypt` gives the plaintext only for the tag
that `encrypt` would have written.
-/

namespace DoubleRatchet
namespace Poly1305

def prime : Nat := (1 <<< 130) - 5

/-- The bits of the evaluation point that may be set. -/
def pointMask : Nat := 0x0ffffffc0ffffffc0ffffffc0fffffff

def tag (key : Block 32) (message : Bytes) : Block 16 :=
  let point := Bytes.ofLittleEndian (key.bytes.take 16) &&& pointMask
  let shift := Bytes.ofLittleEndian (key.bytes.drop 16)
  let value := (Bytes.pieces 16 message).foldl
    (fun value piece => (value + Bytes.ofLittleEndian (piece ++ [1])) * point % prime) 0
  Block.littleEndian 16 (value + shift)

end Poly1305

namespace Aead

def tagLength : Nat := 16

def padded (bytes : Bytes) : Bytes :=
  bytes ++ List.replicate ((16 - bytes.length % 16) % 16) 0

def authenticate (key : Block 32) (nonce : Block 12) (associated ciphertext : Bytes) : Block 16 :=
  let oneTimeKey := (ChaCha20.keystreamBlock key nonce 0).halves.1
  let covered := padded associated ++ padded ciphertext ++
    Bytes.littleEndian 8 associated.length ++ Bytes.littleEndian 8 ciphertext.length
  Poly1305.tag oneTimeKey covered

def encrypt (key : Block 32) (nonce : Block 12) (plaintext associated : Bytes) : Bytes :=
  let ciphertext := ChaCha20.apply key nonce 1 plaintext
  ciphertext ++ (authenticate key nonce associated ciphertext).bytes

def decrypt (key : Block 32) (nonce : Block 12) (sealed associated : Bytes) : Option Bytes :=
  if sealed.length < tagLength then none
  else
    let ciphertext := sealed.take (sealed.length - tagLength)
    let tag := sealed.drop (sealed.length - tagLength)
    if tag = (authenticate key nonce associated ciphertext).bytes then
      some (ChaCha20.apply key nonce 1 ciphertext)
    else none

end Aead
end DoubleRatchet
