import DoubleRatchet.Config
import DoubleRatchet.Key
import DoubleRatchet.Primitive.Scalar
import DoubleRatchet.Randomness

/-!
# Cipher suites

The protocol is written over these operations and relies on nothing else about
them: key agreement, signatures, a hash, an authentication code, key derivation and
authenticated encryption.
-/

namespace DoubleRatchet

structure Suite where
  publicKey : PrivateKey → PublicKey
  /-- None if the point lies in the small subgroup, where every scalar agrees on zero. -/
  agree : PrivateKey → PublicKey → Option (Block 32)
  /-- The last argument is the noise that makes a signature differ from all others. -/
  sign : PrivateKey → Bytes → Block 64 → Block 64
  verify : PublicKey → (message signature : Bytes) → Bool
  hash : Bytes → Block 64
  /-- The authentication code of a message under a key. -/
  tag : (key message : Bytes) → Block 32
  /-- Stretches a secret, with a salt and a label. -/
  derive : (secret : Bytes) → (salt : Option Bytes) → (info : Bytes) → (size : Nat) → Block size
  encrypt : Block 32 → Block 12 → (plaintext associated : Bytes) → Bytes
  decrypt : Block 32 → Block 12 → (ciphertext associated : Bytes) → Option Bytes

namespace Suite

variable (suite : Suite)

/-- The nonce is the front of an initial vector; only one length of it is supported. -/
def nonce (config : Config) (vector : Bytes) : Except Failure (Block 12) :=
  if config.nonceLength ≠ 12 then .error (.invalidKey (.nonceLength config.nonceLength))
  else
    match Block.ofBytes? 12 (vector.take 12) with
    | none => .error (.invalidKey (.shortInitialVector vector.length))
    | some nonce => .ok nonce

def sealText (config : Config) (key : Block 32) (vector plaintext associated : Bytes) :
    Except Failure Bytes := do
  let nonce ← nonce config vector
  pure (suite.encrypt key nonce plaintext associated)

def openText (config : Config) (key : Block 32) (vector ciphertext associated : Bytes) :
    Except Failure Bytes := do
  let nonce ← nonce config vector
  match suite.decrypt key nonce ciphertext associated with
  | none => throw (.invalidMessage .encryption)
  | some plaintext => pure plaintext

end Suite

namespace PrivateKey

/-- A fresh key is clamped when it is made; a key from elsewhere is kept as it is. -/
def generate : Draw PrivateKey := do
  let bytes ← Randomness.draw 32
  pure ⟨Scalar.clampBlock bytes⟩

variable (suite : Suite)

def agreement (key : PrivateKey) (theirs : PublicKey) : Except Failure (Block 32) :=
  match suite.agree key theirs with
  | none => .error (.invalidKey .nonContributory)
  | some secret => .ok secret

/-- A signature takes 64 random bytes. -/
def signature (key : PrivateKey) (message : Bytes) : Draw (Block 64) := do
  let noise ← Randomness.draw 64
  pure (suite.sign key message noise)

end PrivateKey

namespace KeyPair

variable (suite : Suite)

def ofPrivate (key : PrivateKey) : KeyPair :=
  { publicKey := suite.publicKey key, privateKey := key }

def generate : Draw KeyPair := do
  let key ← PrivateKey.generate
  pure (ofPrivate suite key)

def agreement (pair : KeyPair) (theirs : PublicKey) : Except Failure (Block 32) :=
  pair.privateKey.agreement suite theirs

/-- Reads a pair that was stored together, and checks that its halves belong together. -/
def decodeMatching (input : Bytes) : Except Error KeyPair := do
  let pair ← codec.decodeRecord input
  if suite.publicKey pair.privateKey = pair.publicKey then pure pair
  else throw (.invalidKey .identityMismatch)

end KeyPair
end DoubleRatchet
