import DoubleRatchet.Suite

/-!
# Chains of sender keys

The chain of one sender in a group: each iteration yields the key of one message and
the seed of the next iteration.
-/

namespace DoubleRatchet

structure SenderMessageKey where
  iteration : UInt32
  vector : Block 16
  cipherKey : Block 32
  seed : Block 32
  deriving DecidableEq

namespace SenderMessageKey

def info : Bytes := Bytes.ofText "WhisperGroup"

def derive (suite : Suite) (iteration : UInt32) (seed : Block 32) : SenderMessageKey :=
  let material := suite.derive seed.bytes none info 48
  { iteration := iteration
    vector := material.slice 0 16
    cipherKey := material.slice 16 32
    seed := seed }

def codec : Codec SenderMessageKey :=
  (Codec.word32.pair <| (Codec.block 16).pair <| (Codec.block 32).pair (Codec.block 32)).map
    (fun (iteration, vector, cipherKey, seed) => { iteration, vector, cipherKey, seed })
    fun key => (key.iteration, key.vector, key.cipherKey, key.seed)

/-- A text without the secrets. -/
def description (key : SenderMessageKey) : String :=
  "SenderMessageKey \x7b iteration: " ++ toString key.iteration.toNat ++ ", .. \x7d"

end SenderMessageKey

structure SenderChainKey where
  iteration : UInt32
  seed : Block 32
  deriving DecidableEq

namespace SenderChainKey

def messageLabel : Bytes := [0x01]

def chainLabel : Bytes := [0x02]

variable (suite : Suite)

def messageKey (chain : SenderChainKey) : SenderMessageKey :=
  .derive suite chain.iteration (suite.tag chain.seed.bytes messageLabel)

def next (chain : SenderChainKey) : Except Failure SenderChainKey := do
  let iteration ← successor chain.iteration
  pure { iteration := iteration, seed := suite.tag chain.seed.bytes chainLabel }

def codec : Codec SenderChainKey :=
  (Codec.word32.pair (Codec.block 32)).map (fun (iteration, seed) => { iteration, seed })
    fun chain => (chain.iteration, chain.seed)

def description (chain : SenderChainKey) : String :=
  "SenderChainKey \x7b iteration: " ++ toString chain.iteration.toNat ++ ", .. \x7d"

end SenderChainKey
end DoubleRatchet
