import DoubleRatchet.Message.PreKey
import DoubleRatchet.Store

/-!
# Beginning sessions

A session begins on one side with a bundle of the other side's keys, and on the other
side with the first message. Either way the session that was current goes to the
archive.
-/

namespace DoubleRatchet
namespace Session

variable (suite : Suite) (config : Config)

/-- The record with room for a new session. -/
def makeRoom (record : SessionRecord) : SessionRecord :=
  if record.isFresh then record else record.archiveCurrent config

/-- Checks a bundle: its identity, and the signature on its signed prekey. -/
def acceptBundle (address : Address) (bundle : PreKeyBundle) : Step Store PublicKey := do
  if !(← get).trusts address bundle.identityKey then
    Step.refuse (.untrustedIdentity address)
  match bundle.signedPreKey with
  | none => throw (.invalidKey .noSignedPreKey)
  | some signedPreKey =>
      if suite.verify bundle.identityKey signedPreKey.encode bundle.signedPreKeySignature then
        pure signedPreKey
      else throw (.invalidKey .signedPreKeySignature)

/-- Begins a session from a bundle. The number of the one-time prekey is announced only
together with the key. -/
def processBundle (address : Address) (bundle : PreKeyBundle) : Step Store Unit := do
  let signedPreKey ← acceptBundle suite address bundle
  let store ← get
  let base ← KeyPair.generate suite
  let record := makeRoom config (store.session address)
  let keys : Handshake.Initiator :=
    { ourIdentity := store.identity
      ourBase := base
      theirIdentity := bundle.identityKey
      theirSignedPreKey := signedPreKey
      theirOneTimePreKey := bundle.preKey
      theirRatchet := signedPreKey }
  let ((), state) ← Step.apart (keys.establish suite config) record.current
  let state :=
    { state with
      pending := some
        { preKeyId := if bundle.preKey.isSome then bundle.preKeyId else none
          signedPreKeyId := bundle.signedPreKeyId
          baseKey := base.publicKey }
      localRegistrationId := store.registrationId
      remoteRegistrationId := bundle.registrationId
      initiatorBaseKey := some base.publicKey }
  modify fun store =>
    (store.putIdentity address bundle.identityKey).putSession address (record.setCurrent state)

/-- The one-time pair of a first message, and its number if it comes from the store. A number
that is not in the store stands for a fresh pair. -/
def oneTimePair (preKeyId : Option UInt32) : Step Store (Option KeyPair × Option UInt32) := do
  match preKeyId with
  | none => pure (none, none)
  | some id =>
      match (← get).preKeys.find? id with
      | some record => pure (some record.keyPair, some id)
      | none =>
          let pair ← KeyPair.generate suite
          pure (some pair, none)

/-- Joins the session that a first message announces. -/
def join (record : SessionRecord) (message : PreKeyMessage) :
    Step Store (Option UInt32 × SessionRecord) := do
  let store ← get
  match store.signedPreKeys.find? message.signedPreKeyId with
  | none => Step.refuse (.unknownKeyId message.signedPreKeyId)
  | some signedPreKey =>
      let (oneTime, used) ← oneTimePair suite message.preKeyId
      let record := makeRoom config record
      let keys : Handshake.Responder :=
        { ourIdentity := store.identity
          ourSignedPreKey := signedPreKey.keyPair
          ourOneTimePreKey := oneTime
          ourRatchet := signedPreKey.keyPair
          theirIdentity := message.identityKey
          theirBase := message.baseKey }
      let ((), state) ← Step.apart (keys.establish suite) record.current
      let state :=
        { state with
          localRegistrationId := store.registrationId
          remoteRegistrationId := message.registrationId
          initiatorBaseKey := some message.baseKey }
      pure (used, record.setCurrent state)

/-- Brings a record up to a first message: the session is joined unless the record has it. The
result names the one-time prekey that was used. -/
def acceptPreKeyMessage (address : Address) (record : SessionRecord) (message : PreKeyMessage) :
    Step Store (Option UInt32 × SessionRecord) := do
  if !(← get).trusts address message.identityKey then
    Step.refuse (.untrustedIdentity address)
  let result ←
    if record.hasSession message.version message.baseKey then pure (none, record)
    else join suite config record message
  modify (Store.putIdentity address message.identityKey)
  pure result

/-- Joins the session of a first message without reading its text. The caller removes the
one-time prekey that was used. -/
def processPreKeyMessage (address : Address) (message : PreKeyMessage) :
    Step Store (Option UInt32) := do
  let (used, record) ←
    acceptPreKeyMessage suite config address ((← get).session address) message
  modify (Store.putSession address record)
  pure used

end Session
end DoubleRatchet
