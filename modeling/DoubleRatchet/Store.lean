import DoubleRatchet.Group.Record
import DoubleRatchet.PreKey
import DoubleRatchet.Session.Record
import DoubleRatchet.Store.Table

/-!
# Stores

What one party keeps: its own identity, the identities it has seen, its prekeys, and
the records of its sessions and groups. A record that was never stored is an empty
one.
-/

namespace DoubleRatchet

structure Store where
  identity : KeyPair
  registrationId : UInt32
  /-- The last identity seen for an address. -/
  identities : Table Address PublicKey := .empty
  preKeys : Table UInt32 PreKeyRecord := .empty
  signedPreKeys : Table UInt32 SignedPreKeyRecord := .empty
  sessions : Table Address SessionRecord := .empty
  senderKeys : Table SenderKeyName SenderKeyRecord := .empty
  deriving DecidableEq

namespace Store

def session (address : Address) (store : Store) : SessionRecord :=
  (store.sessions.find? address).getD {}

def putSession (address : Address) (record : SessionRecord) (store : Store) : Store :=
  { store with sessions := store.sessions.insert address record }

def deleteSession (address : Address) (store : Store) : Store :=
  { store with sessions := store.sessions.erase address }

/-- Deletes the sessions with all devices of a name. -/
def deleteSessions (name : String) (store : Store) : Store :=
  { store with sessions := store.sessions.keep fun address => address.name ≠ name }

/-- The devices of a name with a session, in order, except the first device. -/
def subDevices (name : String) (store : Store) : List UInt32 :=
  (store.sessions.keys.filter fun address => address.name = name ∧ address.device ≠ 1).map
    Address.device

/-- An identity is trusted if it is the one last seen, or the first one. -/
def trusts (address : Address) (identity : PublicKey) (store : Store) : Bool :=
  match store.identities.find? address with
  | none => true
  | some known => known = identity

def putIdentity (address : Address) (identity : PublicKey) (store : Store) : Store :=
  { store with identities := store.identities.insert address identity }

/-- Whether `identity` takes the place of a different one. -/
def replacesIdentity (address : Address) (identity : PublicKey) (store : Store) : Bool :=
  !store.trusts address identity

def putPreKey (id : UInt32) (record : PreKeyRecord) (store : Store) : Store :=
  { store with preKeys := store.preKeys.insert id record }

def removePreKey (id : UInt32) (store : Store) : Store :=
  { store with preKeys := store.preKeys.erase id }

def putSignedPreKey (id : UInt32) (record : SignedPreKeyRecord) (store : Store) : Store :=
  { store with signedPreKeys := store.signedPreKeys.insert id record }

def removeSignedPreKey (id : UInt32) (store : Store) : Store :=
  { store with signedPreKeys := store.signedPreKeys.erase id }

def senderKey (name : SenderKeyName) (store : Store) : SenderKeyRecord :=
  (store.senderKeys.find? name).getD {}

def putSenderKey (name : SenderKeyName) (record : SenderKeyRecord) (store : Store) : Store :=
  { store with senderKeys := store.senderKeys.insert name record }

/-- Forgets all sessions and all sender keys. -/
def clearSessions (store : Store) : Store :=
  { store with sessions := .empty, senderKeys := .empty }

end Store
end DoubleRatchet
