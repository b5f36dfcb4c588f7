/-!
# Byte strings

Byte strings are lists. A `Block n` is a byte string whose length is known to be
`n`: keys, digests and nonces are blocks, so no operation on them has to ask for
their length again. Numbers are written with a fixed count of bytes, in either
order, and `ofLittleEndian` reads them back.
-/

namespace DoubleRatchet

abbrev Bytes := List UInt8

namespace Bytes

/-- The `count` low bytes of `value`, lowest first. -/
def littleEndian : Nat → Nat → Bytes
  | 0, _ => []
  | count + 1, value => UInt8.ofNat value :: littleEndian count (value / 256)

def ofLittleEndian : Bytes → Nat
  | [] => 0
  | byte :: rest => byte.toNat + 256 * ofLittleEndian rest

/-- The `count` low bytes of `value`, highest first. -/
def bigEndian (count value : Nat) : Bytes :=
  (littleEndian count value).reverse

def ofBigEndian (bytes : Bytes) : Nat :=
  bytes.foldl (fun value byte => 256 * value + byte.toNat) 0

@[simp] theorem length_littleEndian (count value : Nat) :
    (littleEndian count value).length = count := by
  induction count generalizing value with
  | zero => rfl
  | succ count ih => simp [littleEndian, ih]

def hexDigit (value : UInt8) : Char :=
  if value < 10 then Char.ofNat (48 + value.toNat) else Char.ofNat (87 + value.toNat)

/-- Two lower-case hexadecimal digits a byte. -/
def toHex (bytes : Bytes) : String :=
  String.ofList (bytes.flatMap fun byte => [hexDigit (byte / 16), hexDigit (byte % 16)])

def hexValue (digit : Char) : Option UInt8 :=
  if '0' ≤ digit ∧ digit ≤ '9' then some (UInt8.ofNat (digit.toNat - 48))
  else if 'a' ≤ digit ∧ digit ≤ 'f' then some (UInt8.ofNat (digit.toNat - 87))
  else if 'A' ≤ digit ∧ digit ≤ 'F' then some (UInt8.ofNat (digit.toNat - 55))
  else none

/-- Reads digits after the bytes in `front`, which are in reverse order. -/
def readHex : List Char → (front : Bytes) → Option Bytes
  | [], front => some front.reverse
  | [_], _ => none
  | high :: low :: rest, front =>
      match hexValue high, hexValue low with
      | some high, some low => readHex rest ((16 * high + low) :: front)
      | _, _ => none

/-- Reads digits of either case, two a byte. -/
def ofHex? (text : String) : Option Bytes :=
  readHex text.toList []

/-- The bytes of a text in UTF-8. -/
def ofText (text : String) : Bytes :=
  text.toUTF8.toList

/-- Consecutive pieces of `size` bytes; the last one may be shorter. -/
def pieces (size : Nat) (bytes : Bytes) : List Bytes :=
  if _h : size = 0 ∨ bytes = [] then []
  else bytes.take size :: pieces size (bytes.drop size)
termination_by bytes.length
decreasing_by
  cases bytes with
  | nil => simp_all
  | cons byte rest => simp_all; omega

end Bytes

/-- A byte string of a fixed length. -/
@[ext]
structure Block (size : Nat) where
  bytes : Bytes
  length_eq : bytes.length = size
  deriving DecidableEq

namespace Block

def ofBytes? (size : Nat) (bytes : Bytes) : Option (Block size) :=
  if length_eq : bytes.length = size then some ⟨bytes, length_eq⟩ else none

/-- The same byte at every position. -/
def fill (size : Nat) (byte : UInt8) : Block size :=
  ⟨List.replicate size byte, by simp⟩

/-- `count` bytes from position `start` on. -/
def slice {size : Nat} (block : Block size) (start count : Nat)
    (within : start + count ≤ size := by omega) : Block count :=
  ⟨(block.bytes.drop start).take count, by simp [block.length_eq]; omega⟩

/-- The two keys in a block of twice their size. -/
def halves (block : Block 64) : Block 32 × Block 32 :=
  (block.slice 0 32, block.slice 32 32)

/-- The first `count` bytes of a string that has at least that many. -/
def takeFrom (bytes : Bytes) (count : Nat) (enough : count ≤ bytes.length) : Block count :=
  ⟨bytes.take count, by simp [enough]⟩

def littleEndian (size value : Nat) : Block size :=
  ⟨Bytes.littleEndian size value, Bytes.length_littleEndian size value⟩

def toNat {size : Nat} (block : Block size) : Nat :=
  Bytes.ofLittleEndian block.bytes

def append {first second : Nat} (left : Block first) (right : Block second) :
    Block (first + second) :=
  ⟨left.bytes ++ right.bytes, by simp [left.length_eq, right.length_eq]⟩

end Block
end DoubleRatchet
