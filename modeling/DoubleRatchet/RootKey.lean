import DoubleRatchet.Chain

/-!
# Root keys

Each step of the root key mixes in one key agreement and gives a new root key, the
start of a chain, and a key that authenticates the new epoch. Authentication keys
remember their predecessor and count the epochs.
-/

namespace DoubleRatchet

structure AuthKey where
  key : Bytes
  lastKey : Bytes
  epoch : UInt32
  deriving DecidableEq

namespace AuthKey

/-- Before any epoch. -/
def empty : AuthKey :=
  { key := [], lastKey := [], epoch := 0 }

def isEmpty (auth : AuthKey) : Bool :=
  auth.key.isEmpty

def advance (auth : AuthKey) (key : Bytes) : Except Failure AuthKey := do
  let epoch ← successor auth.epoch
  pure { key := key, lastKey := auth.key, epoch := epoch }

def codec : Codec AuthKey :=
  (Codec.string.pair <| Codec.string.pair Codec.word32).map
    (fun (key, lastKey, epoch) => { key, lastKey, epoch })
    fun auth => (auth.key, auth.lastKey, auth.epoch)

def description (auth : AuthKey) : String :=
  "AuthKey \x7b index: " ++ toString auth.epoch.toNat ++ ", key_len: " ++
    toString auth.key.length ++ " \x7d"

end AuthKey

/-- The three parts of derived key material. -/
structure RootSecrets where
  root : Block 32
  chain : Block 32
  auth : Block 32

def RootSecrets.split (material : Block 96) : RootSecrets :=
  { root := material.slice 0 32
    chain := material.slice 32 32
    auth := material.slice 64 32 }

structure RootKey where
  key : Block 32
  deriving DecidableEq

/-- What a step of the root key gives. -/
structure RootStep where
  root : RootKey
  chain : ChainKey
  auth : AuthKey
  deriving DecidableEq

namespace RootKey

def info : Bytes := Bytes.ofText "WhisperRatchet"

/-- The agreement of our pair with their key, stretched under the root key. -/
def step (suite : Suite) (root : RootKey) (theirs : PublicKey) (ours : KeyPair) :
    Except Failure RootStep := do
  let secret ← ours.agreement suite theirs
  let secrets := RootSecrets.split (suite.derive secret.bytes (some root.key.bytes) info 96)
  pure
    { root := ⟨secrets.root⟩
      chain := { key := secrets.chain, index := 0 }
      auth := { key := secrets.auth.bytes, lastKey := secrets.auth.bytes, epoch := 0 } }

def codec : Codec RootKey :=
  (Codec.block 32).map (fun key => { key := key }) RootKey.key

def description : String := "RootKey(..)"

end RootKey
end DoubleRatchet
