import DoubleRatchet.Session.Begin
import DoubleRatchet.Session.Send

/-!
# Exchanging messages

Texts are encrypted with the current session of an address and decrypted with the
session that they belong to. A receiver sees a plaintext before the session that
decrypted it is stored, and may stop that.
-/

namespace DoubleRatchet

/-- What happens to a plaintext before its session is stored. -/
abbrev Receiver : Type := Bytes → Except Failure Unit

/-- Takes every plaintext. -/
def Receiver.accept : Receiver := fun _ => .ok ()

namespace Session

/-- The record of an address that has a session. -/
def existing (address : Address) : Step Store SessionRecord := do
  let record := (← get).session address
  if record.isFresh then throw (.noSession (.peer address)) else pure record

def remoteRegistrationId (address : Address) : Step Store UInt32 := do
  pure (← existing address).current.remoteRegistrationId

def version (address : Address) : Step Store UInt8 := do
  pure (← existing address).current.version

variable (suite : Suite) (config : Config)

/-- Sends only to the identity that is trusted for the address. -/
def encrypt (address : Address) (plaintext : Bytes) : Step Store CiphertextMessage := do
  let record ← existing address
  let (ours, theirs) ← record.current.identities
  if !(← get).trusts address theirs then Step.refuse (.untrustedIdentity address)
  let (message, state) ←
    Step.apart (SessionState.encrypt suite config ours theirs plaintext) record.current
  modify (Store.putSession address (record.setCurrent state))
  pure message

/-- Reads a first message. The one-time prekey that it used is removed with its session stored. -/
def decryptPreKeyMessage (address : Address) (message : PreKeyMessage) (receiver : Receiver) :
    Step Store Bytes := do
  let (used, record) ←
    acceptPreKeyMessage suite config address ((← get).session address) message
  let (plaintext, record) ←
    Step.apart (SessionRecord.decrypt suite config message.message) record
  receiver plaintext
  modify (Store.putSession address record)
  match used with
  | none => pure plaintext
  | some id =>
      modify (Store.removePreKey id)
      pure plaintext

def decryptMessage (address : Address) (message : SignalMessage) (receiver : Receiver) :
    Step Store Bytes := do
  let record ← existing address
  let (plaintext, record) ← Step.apart (SessionRecord.decrypt suite config message) record
  receiver plaintext
  modify (Store.putSession address record)
  pure plaintext

def decrypt (address : Address) (message : CiphertextMessage) (receiver : Receiver) :
    Step Store Bytes :=
  match message with
  | .signal message => decryptMessage suite config address message receiver
  | .preKey message => decryptPreKeyMessage suite config address message receiver

end Session
end DoubleRatchet
