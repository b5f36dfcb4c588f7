import DoubleRatchet.Store

/-!
# Publishing prekeys

A party publishes a bundle and keeps the private halves of what the bundle offers, so
that it can join the sessions that others begin.
-/

namespace DoubleRatchet
namespace Session

variable (suite : Suite)

/-- A fresh one-time prekey, kept under its own number. -/
def offerOneTime : Option UInt32 → Step Store (Option PreKeyRecord)
  | none => pure none
  | some id => do
      let record ← PreKeyRecord.fresh suite id 0
      modify (Store.putPreKey record.id record)
      pure (some record)

/-- A bundle of fresh prekeys for a device of ours. -/
def publish (device : UInt32) (preKeyId : Option UInt32) (signedPreKeyId : UInt32)
    (timestamp : UInt64) : Step Store PreKeyBundle := do
  let oneTime ← offerOneTime suite preKeyId
  let store ← get
  let signed ← SignedPreKeyRecord.generate suite store.identity signedPreKeyId timestamp
  modify (Store.putSignedPreKey signed.id signed)
  pure
    { registrationId := store.registrationId
      device := device
      preKeyId := oneTime.map PreKeyRecord.id
      preKey := oneTime.map fun record => record.keyPair.publicKey
      signedPreKeyId := signed.id
      signedPreKey := some signed.keyPair.publicKey
      signedPreKeySignature := signed.signature
      identityKey := store.identity.publicKey }

end Session
end DoubleRatchet
