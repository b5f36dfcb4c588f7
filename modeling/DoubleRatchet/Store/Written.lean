import DoubleRatchet.Store

/-!
# Stores of written records

A store keeps its records as they are written, and reads a record each time that it is asked for.
Identities are kept as they are.
-/

namespace DoubleRatchet
namespace Codec

variable {κ α : Type} [Ord κ] [DecidableEq κ] (codec : Codec α)

/-- Reads what is kept under a key, if anything is. -/
def load (key : κ) (table : Table κ Bytes) : Except Error (Option α) :=
  match table.find? key with
  | none => .ok none
  | some bytes => (codec.decodeRecord bytes).map some

def save [Std.TransOrd κ] [Std.LawfulEqOrd κ] (key : κ) (value : α) (table : Table κ Bytes) :
    Table κ Bytes :=
  table.insert key (codec.encode value)

end Codec

structure WrittenStore where
  identity : KeyPair
  registrationId : UInt32
  identities : Table Address PublicKey := .empty
  preKeys : Table UInt32 Bytes := .empty
  signedPreKeys : Table UInt32 Bytes := .empty
  sessions : Table Address Bytes := .empty
  senderKeys : Table SenderKeyName Bytes := .empty
  deriving DecidableEq

namespace WrittenStore

def preKey (id : UInt32) (store : WrittenStore) : Except Error (Option PreKeyRecord) :=
  PreKeyRecord.codec.load id store.preKeys

def putPreKey (id : UInt32) (record : PreKeyRecord) (store : WrittenStore) : WrittenStore :=
  { store with preKeys := PreKeyRecord.codec.save id record store.preKeys }

def signedPreKey (id : UInt32) (store : WrittenStore) : Except Error (Option SignedPreKeyRecord) :=
  SignedPreKeyRecord.codec.load id store.signedPreKeys

def putSignedPreKey (id : UInt32) (record : SignedPreKeyRecord) (store : WrittenStore) :
    WrittenStore :=
  { store with signedPreKeys := SignedPreKeyRecord.codec.save id record store.signedPreKeys }

/-- A record that was never stored is an empty one. -/
def session (address : Address) (store : WrittenStore) : Except Error SessionRecord :=
  (SessionRecord.codec.load address store.sessions).map (·.getD {})

def putSession (address : Address) (record : SessionRecord) (store : WrittenStore) : WrittenStore :=
  { store with sessions := SessionRecord.codec.save address record store.sessions }

def senderKey (name : SenderKeyName) (store : WrittenStore) : Except Error SenderKeyRecord :=
  (SenderKeyRecord.codec.load name store.senderKeys).map (·.getD {})

def putSenderKey (name : SenderKeyName) (record : SenderKeyRecord) (store : WrittenStore) :
    WrittenStore :=
  { store with senderKeys := SenderKeyRecord.codec.save name record store.senderKeys }

end WrittenStore

/-- The store with its records written. -/
def Store.written (store : Store) : WrittenStore where
  identity := store.identity
  registrationId := store.registrationId
  identities := store.identities
  preKeys := store.preKeys.map PreKeyRecord.codec.encode
  signedPreKeys := store.signedPreKeys.map SignedPreKeyRecord.codec.encode
  sessions := store.sessions.map SessionRecord.codec.encode
  senderKeys := store.senderKeys.map SenderKeyRecord.codec.encode

end DoubleRatchet
