import DoubleRatchet.Codec

/-!
# Keys

A public key is written as a type byte and 32 bytes; a private key is 32 bytes, kept
as given. Public keys are ordered by their written form, so that two parties who
compare the same keys agree on who has the smaller one.
-/

namespace DoubleRatchet

structure PublicKey where
  point : Block 32
  deriving DecidableEq

namespace PublicKey

/-- Marks a key of the one curve in use. -/
def keyType : UInt8 := 0x05

def encode (key : PublicKey) : Bytes :=
  keyType :: key.point.bytes

/-- The length is judged before the type. -/
def decode : Bytes → Except KeyError PublicKey
  | [] => .error (.publicLength 0)
  | type :: rest =>
      match Block.ofBytes? 32 rest with
      | none => .error (.publicLength (rest.length + 1))
      | some point => if type = keyType then .ok ⟨point⟩ else .error (.keyType type)

def codec : Codec PublicKey :=
  Codec.byteList.filterMap (fun bytes => (decode bytes).mapError .key) encode

def text (key : PublicKey) : String :=
  Bytes.toHex key.encode

instance : LT PublicKey where
  lt left right := left.encode < right.encode

instance (left right : PublicKey) : Decidable (left < right) :=
  inferInstanceAs (Decidable (left.encode < right.encode))

instance : Ord PublicKey where
  compare left right := compareOfLessAndEq left right

end PublicKey

structure PrivateKey where
  scalar : Block 32
  deriving DecidableEq

namespace PrivateKey

def encode (key : PrivateKey) : Bytes :=
  key.scalar.bytes

def decode (bytes : Bytes) : Except KeyError PrivateKey :=
  match Block.ofBytes? 32 bytes with
  | none => .error (.privateLength bytes.length)
  | some scalar => .ok ⟨scalar⟩

def codec : Codec PrivateKey :=
  Codec.byteList.filterMap (fun bytes => (decode bytes).mapError .key) encode

end PrivateKey

structure KeyPair where
  publicKey : PublicKey
  privateKey : PrivateKey
  deriving DecidableEq

def KeyPair.codec : Codec KeyPair :=
  (PublicKey.codec.pair PrivateKey.codec).map (fun (publicKey, privateKey) =>
    { publicKey, privateKey }) fun pair => (pair.publicKey, pair.privateKey)

end DoubleRatchet
