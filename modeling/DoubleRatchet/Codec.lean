import DoubleRatchet.Failure

/-!
# Written forms

A codec writes values and reads one value from the front of a byte string, leaving
what follows. Numbers have a fixed width and are written lowest byte first; lists
and byte strings are preceded by their length in eight bytes; an optional value is
preceded by a byte, zero or one. Larger codecs are made of smaller ones, field
after field.
-/

namespace DoubleRatchet

structure Codec (α : Type) where
  encode : α → Bytes
  decode : Bytes → Except DecodeError (α × Bytes)

namespace Codec

variable {α β : Type}

def takeBytes (shortage : DecodeError) (count : Nat) (input : Bytes) :
    Except DecodeError (Block count × Bytes) :=
  let front := input.take count
  if length_eq : front.length = count then .ok (⟨front, length_eq⟩, input.drop count)
  else .error shortage

def block (size : Nat) : Codec (Block size) where
  encode value := value.bytes
  decode := takeBytes .endOfInput size

def byte : Codec UInt8 where
  encode value := [value]
  decode
    | [] => .error .endOfInput
    | value :: rest => .ok (value, rest)

/-- A number of `width` bytes. -/
def number (width : Nat) : Codec Nat where
  encode value := Bytes.littleEndian width value
  decode input := do
    let (bytes, rest) ← takeBytes .endOfInput width input
    pure (bytes.toNat, rest)

/-- Another view of the same written form. -/
def map (codec : Codec α) (ofWritten : α → β) (toWritten : β → α) : Codec β where
  encode value := codec.encode (toWritten value)
  decode input := do
    let (value, rest) ← codec.decode input
    pure (ofWritten value, rest)

/-- A view that refuses some written forms, once they are read to their end. -/
def filterMap (codec : Codec α) (ofWritten : α → Except DecodeError β) (toWritten : β → α) :
    Codec β where
  encode value := codec.encode (toWritten value)
  decode input := do
    let (written, rest) ← codec.decode input
    let value ← ofWritten written
    pure (value, rest)

def pair (first : Codec α) (second : Codec β) : Codec (α × β) where
  encode value := first.encode value.1 ++ second.encode value.2
  decode input := do
    let (left, rest) ← first.decode input
    let (right, rest) ← second.decode rest
    pure ((left, right), rest)

def word32 : Codec UInt32 :=
  (number 4).map UInt32.ofNat UInt32.toNat

def word64 : Codec UInt64 :=
  (number 8).map UInt64.ofNat UInt64.toNat

def optional (codec : Codec α) : Codec (Option α) where
  encode
    | none => [0]
    | some value => 1 :: codec.encode value
  decode input := do
    let (tag, rest) ← byte.decode input
    if tag = 0 then pure (none, rest)
    else if tag = 1 then
      let (value, rest) ← codec.decode rest
      pure (some value, rest)
    else throw (.optionTag tag)

/-- A byte string behind its length; `shortage` is the answer to a length beyond the input. -/
def counted (shortage : DecodeError) : Codec Bytes where
  encode value := (number 8).encode value.length ++ value
  decode input := do
    let (length, rest) ← (number 8).decode input
    let (bytes, rest) ← takeBytes shortage length rest
    pure (bytes.bytes, rest)

/-- A byte string that is read as a whole. -/
def string : Codec Bytes :=
  counted .longString

/-- A byte string that is read byte after byte. -/
def byteList : Codec Bytes :=
  counted .endOfInput

def decodeMany (codec : Codec α) : Nat → Bytes → Except DecodeError (List α × Bytes)
  | 0, input => .ok ([], input)
  | count + 1, input => do
      let (value, rest) ← codec.decode input
      let (values, rest) ← decodeMany codec count rest
      pure (value :: values, rest)

def list (codec : Codec α) : Codec (List α) where
  encode values := (number 8).encode values.length ++ values.flatMap codec.encode
  decode input := do
    let (length, rest) ← (number 8).decode input
    codec.decodeMany length rest

/-- Reads a value that may be followed by anything. -/
def decodeFront (codec : Codec α) (input : Bytes) : Except DecodeError α :=
  (codec.decode input).map (·.1)

/-- Reads a stored record. -/
def decodeRecord (codec : Codec α) (input : Bytes) : Except Error α :=
  (codec.decodeFront input).mapError .serialization

end Codec
end DoubleRatchet
