import DoubleRatchet.Proofs.Conversation.Ledger
import DoubleRatchet.Proofs.Handshake
import DoubleRatchet.Proofs.Session.Send
import DoubleRatchet.Session.Exchange
import DoubleRatchet.Store.Lock

/-!
# Conversations

Two parties that have not met: one begins a session with a bundle of the other, and from then on each
sends and reads in any order. Between them is a network that keeps every letter and may deliver it
late, never, or again and again. A run is what can happen; books and letters record what did.
-/

namespace DoubleRatchet

inductive Side where
  | initiator
  | responder
  deriving DecidableEq

namespace Side

def other : Side → Side
  | initiator => responder
  | responder => initiator

def update {α : Type} (side : Side) (value : α) (values : Side → α) : Side → α := fun each =>
  if each = side then value else values each

variable {α : Type} {side : Side} {value : α} {values : Side → α}

@[simp] theorem other_other (side : Side) : side.other.other = side := by
  cases side <;> rfl

theorem other_ne (side : Side) : side.other ≠ side := by
  cases side <;> decide

theorem eq_or_eq_other (each side : Side) : each = side ∨ each = side.other := by
  cases each <;> cases side <;> decide

@[simp] theorem update_self : side.update value values side = value := if_pos rfl

@[simp] theorem update_other : side.update value values side.other = values side.other :=
  if_neg (other_ne side)

theorem update_eq_self (side : Side) (values : Side → α) :
    side.update (values side) values = values := by
  funext each
  unfold update
  split
  · rename_i same
    rw [same]
  · rfl

theorem update_update (side : Side) (first second : α) (values : Side → α) :
    side.update second (side.update first values) = side.update second values := by
  funext each
  unfold update
  split
  · rfl
  · rfl

/-- What the new value shares with the old one, the values share on every side. -/
theorem update_congr {β : Type} {each : Side} (view : α → β)
    (same : view value = view (values side)) :
    view (side.update value values each) = view (values each) := by
  rcases eq_or_eq_other each side with rfl | rfl
  · rw [update_self, same]
  · rw [update_other]

@[simp] theorem other_update_self : side.other.update value values side = values side :=
  if_neg (other_ne side).symm

end Side

/-- Two parties without a session or an identity for each other, and a bundle that the responder
published. -/
structure Opening (suite : Suite) where
  store : Side → Store
  /-- Where each side finds the other. -/
  peer : Side → Address
  bundle : PreKeyBundle
  signedPreKey : SignedPreKeyRecord
  oneTime : Option (UInt32 × PreKeyRecord)
  noSession : ∀ side, (store side).sessions.find? (peer side) = none
  noIdentity : ∀ side, (store side).identities.find? (peer side) = none
  identity_matches : ∀ side, (store side).identity.Matches suite
  identityKey_eq : bundle.identityKey = (store .responder).identity.publicKey
  signedPreKey_eq : bundle.signedPreKey = some signedPreKey.keyPair.publicKey
  signedPreKey_kept :
    (store .responder).signedPreKeys.find? bundle.signedPreKeyId = some signedPreKey
  signedPreKey_matches : signedPreKey.keyPair.Matches suite
  signed : suite.verify bundle.identityKey signedPreKey.keyPair.publicKey.encode
    bundle.signedPreKeySignature = true
  preKeyId_eq : bundle.preKeyId = oneTime.map Prod.fst
  preKey_eq : bundle.preKey = oneTime.map fun offered => offered.2.keyPair.publicKey
  oneTime_kept : ∀ id record, oneTime = some (id, record) →
    (store .responder).preKeys.find? id = some record ∧ record.keyPair.Matches suite

/-- A message on the network, with the text that it was made of. -/
structure Letter where
  sender : Side
  message : CiphertextMessage
  plaintext : Bytes
  deriving DecidableEq

namespace Letter

def addressee (letter : Letter) : Side :=
  letter.sender.other

def key (letter : Letter) : PublicKey :=
  letter.message.inner.ratchetKey

def counter (letter : Letter) : Nat :=
  letter.message.inner.counter.toNat

end Letter

structure Conversation where
  parties : Side → Locked Store
  /-- What each side has read. -/
  books : Side → Book
  /-- The ratchet keys that each side has drawn, oldest first. -/
  ratchetKeys : Side → List PublicKey
  sent : List Letter
  read : List Letter

namespace Conversation

variable {suite : Suite} (config : Config) (opening : Opening suite)

/-- The initiator has processed the bundle. -/
def begun (random : Randomness) : Conversation :=
  let outcome := Locked.run
    (Session.processBundle suite config (opening.peer .initiator) opening.bundle)
    { content := opening.store .initiator } random
  let ratchetKey := (KeyPair.generate suite (KeyPair.generate suite random).2).1.publicKey
  { parties := Side.initiator.update outcome.state fun side => { content := opening.store side }
    books
      | .initiator => [{ key := opening.signedPreKey.keyPair.publicKey }]
      | .responder => []
    ratchetKeys
      | .initiator => [ratchetKey]
      | .responder => [opening.signedPreKey.keyPair.publicKey]
    sent := []
    read := [] }

/-- One side encrypts a text for the other. -/
def encrypted (side : Side) (plaintext : Bytes) (random : Randomness)
    (conversation : Conversation) : Outcome (Locked Store) CiphertextMessage :=
  Locked.run (Session.encrypt suite config (opening.peer side) plaintext)
    (conversation.parties side) random

/-- The addressee of a letter decrypts it. -/
def decrypted (letter : Letter) (random : Randomness) (conversation : Conversation) :
    Outcome (Locked Store) Bytes :=
  Locked.run
    (Session.decrypt suite config (opening.peer letter.addressee) letter.message Receiver.accept)
    (conversation.parties letter.addressee) random

def send (side : Side) (plaintext : Bytes) (random : Randomness) (conversation : Conversation) :
    Conversation :=
  let outcome := conversation.encrypted config opening side plaintext random
  { conversation with
    parties := side.update outcome.state conversation.parties
    sent := match outcome.result with
      | .ok message => conversation.sent ++ [{ sender := side, message, plaintext }]
      | .error _ => conversation.sent }

/-- A ratchet key is drawn when the first message under a ratchet key of the other side is read. -/
def deliver (letter : Letter) (random : Randomness) (conversation : Conversation) : Conversation :=
  let side := letter.addressee
  let book := conversation.books side
  let outcome := conversation.decrypted config opening letter random
  let conversation :=
    { conversation with parties := side.update outcome.state conversation.parties }
  match outcome.result with
  | .error _ => conversation
  | .ok _ =>
      let ratchetKeys := if letter.key ∈ book.keys then conversation.ratchetKeys side
        else conversation.ratchetKeys side ++ [(KeyPair.generate suite random).1.publicKey]
      { conversation with
        books := side.update (book.reading config letter.key letter.counter) conversation.books
        ratchetKeys := side.update ratchetKeys conversation.ratchetKeys
        read := conversation.read ++ [letter] }

/-- A side has sent a letter, and keeps what it has then. -/
def posting (side : Side) (lock : Locked Store) (message : CiphertextMessage) (plaintext : Bytes)
    (conversation : Conversation) : Conversation :=
  { conversation with
    parties := side.update lock conversation.parties
    sent := conversation.sent ++ [{ sender := side, message, plaintext }] }

/-- The addressee has read a letter, and has drawn a ratchet key if the chain of the letter was new. -/
def reading (letter : Letter) (lock : Locked Store) (fresh : PublicKey)
    (conversation : Conversation) : Conversation :=
  let side := letter.addressee
  { conversation with
    parties := side.update lock conversation.parties
    books := side.update ((conversation.books side).reading config letter.key letter.counter)
      conversation.books
    ratchetKeys := side.update
      (if letter.key ∈ (conversation.books side).keys then conversation.ratchetKeys side
      else conversation.ratchetKeys side ++ [fresh]) conversation.ratchetKeys
    read := conversation.read ++ [letter] }

/-- What can happen. Letters under ratchet keys that the addressee dropped for newer ones are not
delivered any more, and nobody draws a ratchet key twice. -/
inductive Run : Conversation → Prop where
  | start (random : Randomness) : Run (begun config opening random)
  | send {conversation : Conversation} (run : Run conversation) (side : Side) (plaintext : Bytes)
      (random : Randomness) : Run (conversation.send config opening side plaintext random)
  | deliver {conversation : Conversation} (run : Run conversation) (letter : Letter)
      (random : Randomness) (isSent : letter ∈ conversation.sent)
      (kept : (conversation.books letter.addressee).Keeps config letter.key)
      (fresh : letter.key ∉ (conversation.books letter.addressee).keys →
        (KeyPair.generate suite random).1.publicKey ∉
          conversation.ratchetKeys letter.addressee) :
      Run (conversation.deliver config opening letter random)

end Conversation
end DoubleRatchet
