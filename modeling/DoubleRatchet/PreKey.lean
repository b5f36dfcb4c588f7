import DoubleRatchet.Suite

/-!
# Prekeys

Keys that a party publishes ahead of time, so that others can begin a session with
it while it is away: one-time prekeys, signed prekeys, and bundles that offer one of
each with the party's identity.
-/

namespace DoubleRatchet

structure PreKeyRecord where
  id : UInt32
  keyPair : KeyPair
  deriving DecidableEq

namespace PreKeyRecord

def codec : Codec PreKeyRecord :=
  (Codec.word32.pair KeyPair.codec).map (fun (id, keyPair) => { id, keyPair })
    fun record => (record.id, record.keyPair)

/-- The number of ids, which run from one on. -/
def idCount : UInt32 := 0xfffffe

/-- The id at position `offset` of a batch. Ids begin anew after the largest one. -/
def batchId (start offset : UInt32) : UInt32 :=
  let base := if start = 0 then 0 else start - 1
  (base + offset) % idCount + 1

/-- A fresh prekey for position `offset` of a batch. -/
def fresh (suite : Suite) (start offset : UInt32) : Draw PreKeyRecord := do
  let keyPair ← KeyPair.generate suite
  pure { id := batchId start offset, keyPair := keyPair }

/-- A batch of fresh prekeys under consecutive ids. -/
def generate (suite : Suite) (start count : UInt32) : Draw (List PreKeyRecord) :=
  (List.range count.toNat).mapM fun offset => fresh suite start (UInt32.ofNat offset)

end PreKeyRecord

structure SignedPreKeyRecord where
  id : UInt32
  timestamp : UInt64
  keyPair : KeyPair
  signature : Bytes
  deriving DecidableEq

namespace SignedPreKeyRecord

def codec : Codec SignedPreKeyRecord :=
  (Codec.word32.pair <| Codec.word64.pair <| KeyPair.codec.pair Codec.string).map
    (fun (id, timestamp, keyPair, signature) => { id, timestamp, keyPair, signature })
    fun record => (record.id, record.timestamp, record.keyPair, record.signature)

/-- The identity key signs the written form of the public half. -/
def generate (suite : Suite) (identity : KeyPair) (id : UInt32) (timestamp : UInt64) :
    Draw SignedPreKeyRecord := do
  let keyPair ← KeyPair.generate suite
  let signature ← identity.privateKey.signature suite keyPair.publicKey.encode
  pure { id := id, timestamp := timestamp, keyPair := keyPair, signature := signature.bytes }

end SignedPreKeyRecord

structure PreKeyBundle where
  registrationId : UInt32
  device : UInt32
  preKeyId : Option UInt32
  preKey : Option PublicKey
  signedPreKeyId : UInt32
  /-- A bundle without a signed prekey begins no session. -/
  signedPreKey : Option PublicKey
  signedPreKeySignature : Bytes
  identityKey : PublicKey
  deriving DecidableEq

def PreKeyBundle.codec : Codec PreKeyBundle :=
  (Codec.word32.pair <| Codec.word32.pair <| Codec.word32.optional.pair <|
    PublicKey.codec.optional.pair <| Codec.word32.pair <| PublicKey.codec.optional.pair <|
    Codec.string.pair PublicKey.codec).map
    (fun (registrationId, device, preKeyId, preKey, signedPreKeyId, signedPreKey,
        signedPreKeySignature, identityKey) =>
      { registrationId, device, preKeyId, preKey, signedPreKeyId, signedPreKey,
        signedPreKeySignature, identityKey })
    fun bundle => (bundle.registrationId, bundle.device, bundle.preKeyId, bundle.preKey,
      bundle.signedPreKeyId, bundle.signedPreKey, bundle.signedPreKeySignature,
      bundle.identityKey)

/-- A number that tells apart the installations of one account. -/
def generateRegistrationId : Draw UInt32 :=
  Randomness.uniform 1 16380 Randomness.maxAttempts

end DoubleRatchet
