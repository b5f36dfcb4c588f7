import DoubleRatchet.Message.SenderKey
import DoubleRatchet.Session.Exchange

/-!
# Exchanging group messages

A sender creates its key once, hands it out with distribution messages, and encrypts
every text once for the whole group. Members follow the sender's chain.
-/

namespace DoubleRatchet
namespace Group

def generateKeyId : Draw UInt32 :=
  Randomness.uniform 0 0x7fffffff Randomness.maxAttempts

/-- A key of our own, whose chain begins at its first iteration. -/
def generateSenderKey (suite : Suite) : Draw SenderKeyRecord := do
  let keyId ← generateKeyId
  let seed ← Randomness.draw 32
  let signingKey ← KeyPair.generate suite
  pure (SenderKeyRecord.own keyId 0 seed signingKey)

/-- What the encryption of a message covers besides its text. -/
def associatedData (keyId iteration : UInt32) : Bytes :=
  Bytes.bigEndian 4 keyId.toNat ++ Bytes.bigEndian 4 iteration.toNat

variable (suite : Suite) (config : Config)

/-- The distribution message for where the sender's chain is now; a sender without a key gets
one. -/
def create (name : SenderKeyName) : Step Store DistributionMessage := do
  let stored := (← get).senderKey name
  let record ←
    if stored.isEmpty then
      let made ← generateSenderKey suite
      modify (Store.putSenderKey name made)
      pure made
    else pure stored
  let state ← record.newest
  DistributionMessage.make Envelope.currentVersion
    { id := state.keyId
      iteration := state.chainKey.iteration
      chainKey := state.chainKey.seed.bytes
      signingKey := state.signingKey }

/-- Takes over the sender key of another member. -/
def process (name : SenderKeyName) (message : DistributionMessage) : Step Store Unit :=
  modify fun store =>
    store.putSenderKey name
      ((store.senderKey name).add config message.id message.iteration message.chainKey
        message.signingKey)

/-- The signed message for a text on the chain of a state, which then moves on. -/
def encryptWith (plaintext : Bytes) : Step SenderKeyState Bytes := do
  let state ← get
  let key := state.chainKey.messageKey suite
  let ciphertext ← suite.sealText config key.cipherKey key.vector.bytes plaintext
    (associatedData state.keyId key.iteration)
  let signingKey ← state.requirePrivateKey
  let message ← SenderKeyMessage.make suite Envelope.currentVersion
    { keyId := state.keyId, iteration := key.iteration, ciphertext } signingKey
  let next ← state.chainKey.next suite
  set { state with chainKey := next }
  pure message.serialized

def encrypt (name : SenderKeyName) (plaintext : Bytes) : Step Store Bytes := do
  let record := (← get).senderKey name
  match record.states with
  | [] => throw (.noSession (.senderKey name))
  | newest :: older =>
      let (message, newest) ← Step.apart (encryptWith suite config plaintext) newest
      modify (Store.putSenderKey name { states := newest :: older })
      pure message

/-- The text of a message of the sender key of a state. -/
def decryptWith (message : SenderKeyMessage) : Step SenderKeyState Bytes := do
  if !message.verifySignature suite (← get).signingKey then
    throw (.invalidMessage .badSignature)
  let key ← SenderKeyState.messageKey suite config message.iteration
  suite.openText config key.cipherKey key.vector.bytes message.ciphertext
    (associatedData message.keyId message.iteration)

/-- A message is read only if there is a sender key that it could belong to. -/
def decrypt (name : SenderKeyName) (data : Bytes) (receiver : Receiver) : Step Store Bytes := do
  let record := (← get).senderKey name
  if record.isEmpty then throw (.noSession (.senderKey name))
  let message ← SenderKeyMessage.parse data
  let state ← record.withId message.keyId
  let (plaintext, state) ← Step.apart (decryptWith suite config message) state
  receiver plaintext
  modify (Store.putSenderKey name (record.update state))
  pure plaintext

end Group
end DoubleRatchet
