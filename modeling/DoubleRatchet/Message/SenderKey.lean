import DoubleRatchet.Message.Envelope
import DoubleRatchet.Suite

/-!
# Group messages

A group message names the sender key and the iteration that lead to its key, and
ends with a signature. A distribution message hands a sender key to a member of the
group.
-/

namespace DoubleRatchet

structure SenderKeyMessage where
  version : UInt8
  keyId : UInt32
  iteration : UInt32
  ciphertext : Bytes
  serialized : Bytes
  deriving DecidableEq

namespace SenderKeyMessage

structure Body where
  keyId : UInt32
  iteration : UInt32
  ciphertext : Bytes
  deriving DecidableEq

def Body.codec : Codec Body :=
  (Codec.word32.pair <| Codec.word32.pair Codec.string).map
    (fun (keyId, iteration, ciphertext) => { keyId, iteration, ciphertext })
    fun body => (body.keyId, body.iteration, body.ciphertext)

def signatureLength : Nat := 64

def make (suite : Suite) (version : UInt8) (body : Body) (key : PrivateKey) :
    Draw SenderKeyMessage := do
  let covered := Envelope.pack Body.codec version body
  let signature ← key.signature suite covered
  pure
    { version := version
      keyId := body.keyId
      iteration := body.iteration
      ciphertext := body.ciphertext
      serialized := covered ++ signature.bytes }

def parse (data : Bytes) : Except Error SenderKeyMessage := do
  let parts ← Envelope.split data signatureLength
  let body ← Envelope.readBody Body.codec parts.body
  pure
    { version := parts.version
      keyId := body.keyId
      iteration := body.iteration
      ciphertext := body.ciphertext
      serialized := data }

def verifySignature (suite : Suite) (message : SenderKeyMessage) (key : PublicKey) : Bool :=
  let length := message.serialized.length - signatureLength
  suite.verify key (message.serialized.take length) (message.serialized.drop length)

end SenderKeyMessage

structure DistributionMessage where
  version : UInt8
  id : UInt32
  iteration : UInt32
  chainKey : Block 32
  signingKey : PublicKey
  serialized : Bytes
  deriving DecidableEq

namespace DistributionMessage

/-- The chain key is written as a string of any length. -/
structure Body where
  id : UInt32
  iteration : UInt32
  chainKey : Bytes
  signingKey : PublicKey
  deriving DecidableEq

def Body.codec : Codec Body :=
  (Codec.word32.pair <| Codec.word32.pair <| Codec.string.pair PublicKey.codec).map
    (fun (id, iteration, chainKey, signingKey) => { id, iteration, chainKey, signingKey })
    fun body => (body.id, body.iteration, body.chainKey, body.signingKey)

/-- Only a string of the length of a chain key is one. -/
def checkChainKey (bytes : Bytes) : Except Error (Block 32) :=
  match Block.ofBytes? 32 bytes with
  | none => .error (.invalidMessage (.chainKeyLength bytes.length))
  | some key => .ok key

def make (version : UInt8) (body : Body) : Except Error DistributionMessage := do
  let chainKey ← checkChainKey body.chainKey
  pure
    { version := version
      id := body.id
      iteration := body.iteration
      chainKey := chainKey
      signingKey := body.signingKey
      serialized := Envelope.pack Body.codec version body }

def parse (data : Bytes) : Except Error DistributionMessage := do
  let parts ← Envelope.split data 0
  let body ← Envelope.readBody Body.codec parts.body
  let chainKey ← checkChainKey body.chainKey
  pure
    { version := parts.version
      id := body.id
      iteration := body.iteration
      chainKey := chainKey
      signingKey := body.signingKey
      serialized := data }

end DistributionMessage
end DoubleRatchet
