import DoubleRatchet.Bytes

/-!
# Scalars for key agreement

An agreement multiplies points by a multiple of eight of a fixed bit length: the
factor removes what a small subgroup could contribute, and the length hides nothing
about the key in the running time.
-/

namespace DoubleRatchet
namespace Scalar

/-- Bit 254 set, the bits above it and the lowest three clear. -/
def clamp (scalar : Nat) : Nat :=
  (1 <<< 254) + 8 * (scalar % (1 <<< 254) / 8)

def clampBlock (block : Block 32) : Block 32 :=
  Block.littleEndian 32 (clamp block.toNat)

end Scalar
end DoubleRatchet
