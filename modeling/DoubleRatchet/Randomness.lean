import DoubleRatchet.Primitive.Sha256

/-!
# Randomness

Random bytes come from a stream: bytes that are ready, followed by blocks that are
made on demand. A draw takes the next bytes and leaves the rest of the stream.
-/

namespace DoubleRatchet

structure Randomness where
  ready : Bytes
  block : Nat → Block 32
  next : Nat

/-- A computation that takes its random bytes from a stream. -/
abbrev Draw (α : Type) : Type := StateM Randomness α

namespace Randomness

/-- A tape, and after its end the digests of the tape and a block number. -/
def ofTape (tape : Bytes) : Randomness :=
  { ready := tape
    block := fun index => Sha256.digest (tape ++ Bytes.bigEndian 4 index)
    next := 0 }

/-- The next `count` blocks. -/
def upcoming (random : Randomness) (count : Nat) : Bytes :=
  (List.range count).flatMap fun index => (random.block (random.next + index)).bytes

theorem length_upcoming (random : Randomness) (count : Nat) :
    (random.upcoming count).length = 32 * count := by
  induction count with
  | zero => rfl
  | succ count ih =>
      simp only [upcoming, List.range_succ, List.flatMap_append, List.length_append] at ih ⊢
      simp [ih, Block.length_eq]
      omega

def draw (size : Nat) : Draw (Block size) := fun random =>
  let count := (size - random.ready.length + 31) / 32
  let ready := random.ready ++ random.upcoming count
  (Block.takeFrom ready size (by simp only [ready, List.length_append, length_upcoming]; omega),
    { random with ready := ready.drop size, next := random.next + count })

/-- Attempts after which `uniform` gives up; each fails with a chance below one half. -/
def maxAttempts : Nat := 0x100000000

/-- A number from `low` on, below `low + range`. Four random bytes are scaled to the range,
and drawn again when their place in it would make some numbers likelier than others. -/
def uniform (low range : Nat) : (attempts : Nat) → Draw UInt32
  | 0 => pure (UInt32.ofNat low)
  | attempts + 1 => do
      let bytes ← draw 4
      let scaled := bytes.toNat * range
      if scaled % 0x100000000 < range <<< (31 - range.log2) then
        pure (UInt32.ofNat (low + scaled / 0x100000000))
      else uniform low range attempts

end Randomness
end DoubleRatchet
