import DoubleRatchet.Message.Signal

/-!
# First messages

Until the other side has answered, a message is wrapped together with what the
other side needs to join the session: our registration and identity, our base key,
and the numbers of its own prekeys.
-/

namespace DoubleRatchet

structure PreKeyMessage where
  version : UInt8
  registrationId : UInt32
  preKeyId : Option UInt32
  signedPreKeyId : UInt32
  baseKey : PublicKey
  identityKey : PublicKey
  message : SignalMessage
  serialized : Bytes
  deriving DecidableEq

namespace PreKeyMessage

/-- The wrapped message is kept in its written form. -/
structure Body where
  registrationId : UInt32
  preKeyId : Option UInt32
  signedPreKeyId : UInt32
  baseKey : PublicKey
  identityKey : PublicKey
  message : Bytes
  deriving DecidableEq

def Body.codec : Codec Body :=
  (Codec.word32.pair <| Codec.word32.optional.pair <| Codec.word32.pair <|
    PublicKey.codec.pair <| PublicKey.codec.pair Codec.string).map
    (fun (registrationId, preKeyId, signedPreKeyId, baseKey, identityKey, message) =>
      { registrationId, preKeyId, signedPreKeyId, baseKey, identityKey, message })
    fun body => (body.registrationId, body.preKeyId, body.signedPreKeyId, body.baseKey,
      body.identityKey, body.message)

def make (version : UInt8) (registrationId : UInt32) (preKeyId : Option UInt32)
    (signedPreKeyId : UInt32) (baseKey identityKey : PublicKey) (message : SignalMessage) :
    PreKeyMessage :=
  let body : Body :=
    { registrationId, preKeyId, signedPreKeyId, baseKey, identityKey,
      message := message.serialized }
  { version, registrationId, preKeyId, signedPreKeyId, baseKey, identityKey, message,
    serialized := Envelope.pack Body.codec version body }

/-- The outer body is read before the wrapped message. -/
def parse (config : Config) (data : Bytes) : Except Error PreKeyMessage := do
  let parts ← Envelope.split data 0
  let body ← Envelope.readBody Body.codec parts.body
  let message ← SignalMessage.parse config body.message
  pure
    { version := parts.version
      registrationId := body.registrationId
      preKeyId := body.preKeyId
      signedPreKeyId := body.signedPreKeyId
      baseKey := body.baseKey
      identityKey := body.identityKey
      message := message
      serialized := data }

end PreKeyMessage
end DoubleRatchet
