import DoubleRatchet.Bytes

/-!
# SHA-256

A message is padded with a one bit, zeros and its length in bits, and cut into
blocks of 64 bytes; each block is mixed into eight words by 64 rounds. The digest
is the final eight words, highest byte first.
-/

namespace DoubleRatchet
namespace Sha256

/-- The first 32 fractional bits of the cube roots of the first 64 primes. -/
def roundConstants : Array UInt32 :=
  #[
    0x428a2f98, 0x71374491, 0xb5c0fbcf, 0xe9b5dba5, 0x3956c25b, 0x59f111f1,
    0x923f82a4, 0xab1c5ed5, 0xd807aa98, 0x12835b01, 0x243185be, 0x550c7dc3,
    0x72be5d74, 0x80deb1fe, 0x9bdc06a7, 0xc19bf174, 0xe49b69c1, 0xefbe4786,
    0x0fc19dc6, 0x240ca1cc, 0x2de92c6f, 0x4a7484aa, 0x5cb0a9dc, 0x76f988da,
    0x983e5152, 0xa831c66d, 0xb00327c8, 0xbf597fc7, 0xc6e00bf3, 0xd5a79147,
    0x06ca6351, 0x14292967, 0x27b70a85, 0x2e1b2138, 0x4d2c6dfc, 0x53380d13,
    0x650a7354, 0x766a0abb, 0x81c2c92e, 0x92722c85, 0xa2bfe8a1, 0xa81a664b,
    0xc24b8b70, 0xc76c51a3, 0xd192e819, 0xd6990624, 0xf40e3585, 0x106aa070,
    0x19a4c116, 0x1e376c08, 0x2748774c, 0x34b0bcb5, 0x391c0cb3, 0x4ed8aa4a,
    0x5b9cca4f, 0x682e6ff3, 0x748f82ee, 0x78a5636f, 0x84c87814, 0x8cc70208,
    0x90befffa, 0xa4506ceb, 0xbef9a3f7, 0xc67178f2]

structure State where
  a : UInt32
  b : UInt32
  c : UInt32
  d : UInt32
  e : UInt32
  f : UInt32
  g : UInt32
  h : UInt32

/-- The first 32 fractional bits of the square roots of the first eight primes. -/
def initial : State :=
  ⟨0x6a09e667, 0xbb67ae85, 0x3c6ef372, 0xa54ff53a,
    0x510e527f, 0x9b05688c, 0x1f83d9ab, 0x5be0cd19⟩

@[inline] def rotate (word count : UInt32) : UInt32 :=
  (word >>> count) ||| (word <<< (32 - count))

@[inline] def bigSigmaA (word : UInt32) : UInt32 :=
  rotate word 2 ^^^ rotate word 13 ^^^ rotate word 22

@[inline] def bigSigmaE (word : UInt32) : UInt32 :=
  rotate word 6 ^^^ rotate word 11 ^^^ rotate word 25

@[inline] def smallSigmaEarly (word : UInt32) : UInt32 :=
  rotate word 7 ^^^ rotate word 18 ^^^ (word >>> 3)

@[inline] def smallSigmaLate (word : UInt32) : UInt32 :=
  rotate word 17 ^^^ rotate word 19 ^^^ (word >>> 10)

def readWord (bytes : Bytes) : UInt32 :=
  bytes.foldl (fun (word : UInt32) byte => (word <<< 8) ||| byte.toUInt32) 0

/-- The 64 words of a block: its sixteen own words, then each from four earlier ones. -/
def schedule (block : Bytes) : Array UInt32 :=
  let own := (Bytes.pieces 4 block).map readWord
  Nat.fold 48 (fun index _ words =>
    words.push (smallSigmaLate (words.getD (index + 14) 0) + words.getD (index + 9) 0 +
      smallSigmaEarly (words.getD (index + 1) 0) + words.getD index 0)) own.toArray

@[inline] def round (state : State) (constant word : UInt32) : State :=
  let choice := (state.e &&& state.f) ^^^ (~~~state.e &&& state.g)
  let majority := (state.a &&& state.b) ^^^ (state.a &&& state.c) ^^^ (state.b &&& state.c)
  let first := state.h + bigSigmaE state.e + choice + constant + word
  let second := bigSigmaA state.a + majority
  ⟨first + second, state.a, state.b, state.c, state.d + first, state.e, state.f, state.g⟩

def compress (state : State) (block : Bytes) : State :=
  let words := schedule block
  let mixed := Nat.fold 64 (fun index _ current =>
    round current (roundConstants.getD index 0) (words.getD index 0)) state
  ⟨state.a + mixed.a, state.b + mixed.b, state.c + mixed.c, state.d + mixed.d,
    state.e + mixed.e, state.f + mixed.f, state.g + mixed.g, state.h + mixed.h⟩

/-- The fewest zeros that leave room for the 8-byte length at the end of a block. -/
def pad (message : Bytes) : Bytes :=
  message ++ 0x80 ::
    (List.replicate ((119 - message.length % 64) % 64) 0 ++
      Bytes.bigEndian 8 (8 * message.length))

def word (value : UInt32) : Block 4 :=
  ⟨Bytes.bigEndian 4 value.toNat, by simp [Bytes.bigEndian]⟩

def digest (message : Bytes) : Block 32 :=
  let final := (Bytes.pieces 64 (pad message)).foldl compress initial
  (((word final.a).append (word final.b)).append ((word final.c).append (word final.d))).append
    (((word final.e).append (word final.f)).append ((word final.g).append (word final.h)))

end Sha256
end DoubleRatchet
