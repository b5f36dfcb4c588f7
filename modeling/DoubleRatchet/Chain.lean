import DoubleRatchet.Suite

/-!
# Chains of message keys

A chain key yields the keys of one message and the chain key of the next. The two
use different labels, so the keys of a message tell nothing about the chain.
-/

namespace DoubleRatchet

/-- What one message is encrypted and authenticated with. -/
structure MessageKeys where
  cipherKey : Block 32
  macKey : Block 32
  vector : Block 16
  counter : UInt32
  deriving DecidableEq

namespace MessageKeys

def info : Bytes := Bytes.ofText "WhisperMessageKeys"

def derive (suite : Suite) (seed : Bytes) (counter : UInt32) : MessageKeys :=
  let material := suite.derive seed none info 80
  { cipherKey := material.slice 0 32
    macKey := material.slice 32 32
    vector := material.slice 64 16
    counter := counter }

def codec : Codec MessageKeys :=
  ((Codec.block 32).pair <| (Codec.block 32).pair <| (Codec.block 16).pair Codec.word32).map
    (fun (cipherKey, macKey, vector, counter) => { cipherKey, macKey, vector, counter })
    fun keys => (keys.cipherKey, keys.macKey, keys.vector, keys.counter)

/-- A text without the secrets. -/
def description (keys : MessageKeys) : String :=
  "MessageKeys \x7b counter: " ++ toString keys.counter.toNat ++ ", .. \x7d"

end MessageKeys

structure ChainKey where
  key : Block 32
  index : UInt32
  deriving DecidableEq

namespace ChainKey

def messageLabel : Bytes := [0x01]

def chainLabel : Bytes := [0x02]

variable (suite : Suite)

def next (chain : ChainKey) : Except Failure ChainKey := do
  let index ← successor chain.index
  pure { key := suite.tag chain.key.bytes chainLabel, index := index }

/-- The keys of the message whose counter is the chain's index. -/
def messageKeys (chain : ChainKey) : MessageKeys :=
  .derive suite (suite.tag chain.key.bytes messageLabel).bytes chain.index

def codec : Codec ChainKey :=
  ((Codec.block 32).pair Codec.word32).map (fun (key, index) => { key, index })
    fun chain => (chain.key, chain.index)

def description (chain : ChainKey) : String :=
  "ChainKey \x7b index: " ++ toString chain.index.toNat ++ ", .. \x7d"

end ChainKey
end DoubleRatchet
