import DoubleRatchet.Bytes

/-!
# ChaCha20

The keystream block of a key, a nonce and a counter is a permutation of sixteen
words added to those words. A text is encrypted and decrypted by the same
exclusive or with consecutive blocks.
-/

namespace DoubleRatchet
namespace ChaCha20

abbrev Words := Vector UInt32 16

/-- The text "expand 32-byte k". -/
def constants : Bytes :=
  Bytes.ofText "expand 32-byte k"

/-- Constants, key, counter and nonce, read as little-endian words. -/
def start (key : Block 32) (nonce : Block 12) (counter : UInt32) : Words :=
  let input := constants ++ key.bytes ++ Bytes.littleEndian 4 counter.toNat ++ nonce.bytes
  Vector.ofFn fun index =>
    UInt32.ofNat (Bytes.ofLittleEndian ((input.drop (4 * index.val)).take 4))

@[inline] def rotate (word count : UInt32) : UInt32 :=
  (word <<< count) ||| (word >>> (32 - count))

/-- Adds `source` to `target`, then turns the difference of `other` and the sum. -/
@[inline] def mix (state : Words) (target source other : Fin 16) (count : UInt32) : Words :=
  let sum := state.get target + state.get source
  let turned := rotate (state.get other ^^^ sum) count
  (state.set target sum).set other turned

def quarterRound (state : Words) (a b c d : Fin 16) : Words :=
  mix (mix (mix (mix state a b d 16) c d b 12) a b d 8) c d b 7

/-- The four columns, then the four diagonals. -/
def doubleRound (state : Words) : Words :=
  let state := quarterRound state 0 4 8 12
  let state := quarterRound state 1 5 9 13
  let state := quarterRound state 2 6 10 14
  let state := quarterRound state 3 7 11 15
  let state := quarterRound state 0 5 10 15
  let state := quarterRound state 1 6 11 12
  let state := quarterRound state 2 7 8 13
  quarterRound state 3 4 9 14

def keystreamBlock (key : Block 32) (nonce : Block 12) (counter : UInt32) : Block 64 :=
  let before := start key nonce counter
  let after := Nat.fold 10 (fun _ _ state => doubleRound state) before
  let sums := Vector.zipWith (· + ·) before after
  ⟨sums.toList.flatMap fun word => Bytes.littleEndian 4 word.toNat, by
    simp [List.length_flatMap, List.map_const']⟩

/-- Combines each piece of 64 bytes with the block of its counter. -/
def apply (key : Block 32) (nonce : Block 12) (counter : UInt32) (text : Bytes) : Bytes :=
  (Bytes.pieces 64 text).zipIdx.flatMap fun (piece, index) =>
    piece.zipWith (· ^^^ ·) (keystreamBlock key nonce (counter + UInt32.ofNat index)).bytes

end ChaCha20
end DoubleRatchet
