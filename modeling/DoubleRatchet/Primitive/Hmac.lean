import DoubleRatchet.Primitive.Sha256

/-!
# HMAC and key derivation over SHA-256

`Hmac.tag` authenticates a message under a key of any length. `Hkdf.derive`
stretches a secret to any number of bytes: it first extracts a key under the salt
and then chains tags, each of which covers the previous one, the label and a
counter.
-/

namespace DoubleRatchet
namespace Hmac

def blockSize : Nat := 64

/-- A key longer than a block is replaced by its digest; a shorter one gets zeros. -/
def blockKey (key : Bytes) : Bytes :=
  let short := if key.length ≤ blockSize then key else (Sha256.digest key).bytes
  short ++ List.replicate (blockSize - short.length) 0

def tag (key message : Bytes) : Block 32 :=
  let block := blockKey key
  let inner := Sha256.digest (block.map (· ^^^ 0x36) ++ message)
  Sha256.digest (block.map (· ^^^ 0x5c) ++ inner.bytes)

end Hmac

namespace Hkdf

/-- Longer outputs would need a counter above one byte. -/
def maxLength : Nat := 255 * 32

/-- A missing salt counts as 32 zeros. -/
def extract (salt : Option Bytes) (secret : Bytes) : Block 32 :=
  Hmac.tag (salt.getD (List.replicate 32 0)) secret

def chain (key info : Bytes) : (count index : Nat) → (previous : Bytes) → Bytes
  | 0, _, _ => []
  | count + 1, index, previous =>
      let current := Hmac.tag key (previous ++ info ++ [UInt8.ofNat index])
      current.bytes ++ chain key info count (index + 1) current.bytes

theorem length_chain (key info : Bytes) (count index : Nat) (previous : Bytes) :
    (chain key info count index previous).length = 32 * count := by
  induction count generalizing index previous with
  | zero => rfl
  | succ count ih => simp [chain, ih, Block.length_eq]; omega

def derive (secret : Bytes) (salt : Option Bytes) (info : Bytes) (size : Nat) : Block size :=
  Block.takeFrom (chain (extract salt secret).bytes info ((size + 31) / 32) 1 []) size
    (by rw [length_chain]; omega)

end Hkdf
end DoubleRatchet
