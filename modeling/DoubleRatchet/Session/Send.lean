import DoubleRatchet.Message.PreKey
import DoubleRatchet.Session.State

/-!
# Sending in one session state

A text is encrypted with the keys of the sending chain, which then moves on. Until
the other side has answered, the message also carries what begins the session.
-/

namespace DoubleRatchet

/-- What is sent: a message of a session, or one that also begins it. -/
inductive CiphertextMessage where
  | signal (message : SignalMessage)
  | preKey (message : PreKeyMessage)
  deriving DecidableEq

namespace CiphertextMessage

/-- The number by which transports tell message types apart. -/
def typeNumber : CiphertextMessage → Nat
  | signal _ => 2
  | preKey _ => 3

def serialized : CiphertextMessage → Bytes
  | signal message => message.serialized
  | preKey message => message.serialized

/-- Reads what was sent under a type number. Whatever is not a first message is a message of a
session. -/
def parse (config : Config) (typeNumber : Nat) (data : Bytes) : Except Error CiphertextMessage :=
  if typeNumber = 3 then preKey <$> PreKeyMessage.parse config data
  else signal <$> SignalMessage.parse config data

end CiphertextMessage

namespace SessionState

variable (suite : Suite) (config : Config)

/-- The message for a text from us to them. -/
def encrypt (ours theirs : PublicKey) (plaintext : Bytes) :
    Step SessionState CiphertextMessage := do
  let state ← get
  let chain ← state.requireSenderChain
  let keys := chain.chainKey.messageKeys suite
  let ratchetKey := chain.ratchetKey.publicKey
  let counter := chain.chainKey.index
  let ciphertext ← suite.sealText config keys.cipherKey keys.vector.bytes plaintext
    (SignalMessage.associatedData state.version ratchetKey counter)
  let message := SignalMessage.make suite config state.version keys.macKey.bytes
    { ratchetKey, counter, previousCounter := state.previousCounter, ciphertext } ours theirs
  let next ← chain.chainKey.next suite
  setSenderChainKey next
  match state.pending with
  | none => pure (.signal message)
  | some pending => pure (.preKey (PreKeyMessage.make state.version state.localRegistrationId
      pending.preKeyId pending.signedPreKeyId pending.baseKey ours message))

end SessionState
end DoubleRatchet
