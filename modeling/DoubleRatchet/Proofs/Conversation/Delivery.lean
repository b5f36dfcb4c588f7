import DoubleRatchet.Proofs.Conversation.Usable

/-!
# Letters are read once, in any order

Whatever the network does, a letter is read as it was written when it reaches its addressee for the
first time, and is called a duplicate from then on. What can come in between are the limits: a chain
that was dropped, keys that were evicted, a counter too far ahead, and a counter of 32 bits that is
used up.
-/

namespace DoubleRatchet
namespace Conversation

variable {suite : Suite} {config : Config} {opening : Opening suite} {conversation : Conversation}
  {letter : Letter}

/-- The books say what the sessions hold. -/
theorem Run.books_agree (lawful : suite.Lawful) (short : config.macLength ≤ 32)
    (run : Run config opening conversation) (side : Side)
    (met : (((conversation.parties side).content.session (opening.peer side)).isFresh) = false) :
    (((conversation.parties side).content.session (opening.peer side)).current.receiverChains.map
      ReceiverChain.outline) =
      (newest config.maxReceiverChains (conversation.books side)).map ChainLog.outline := by
  obtain ⟨script, follows⟩ := run.follows lawful short
  have synced := follows.synced
  obtain ⟨_, sole⟩ := (follows.keeps side).sole_of_begun met
  have current_eq : ((conversation.parties side).content.session (opening.peer side)).current =
      script.states side := by
    rw [sole.session_eq]
    rfl
  rw [current_eq, (synced.holds side).receiverChains_eq]
  apply Book.map_outline_realise (synced.valid side)
  intro key noted
  exact (synced.proper side.other).begins key ((synced.book_keys_sublist side).subset noted)

/-- Counters of 32 bits have lasted for the addressee of a letter. They do until 2 ^ 31 letters have
been sent; after that, it must not have aborted, and a key that is new to it needs room for two more
epochs. -/
def Lasts (letter : Letter) (conversation : Conversation) : Prop :=
  conversation.sent.length + 1 < 0x80000000 ∨
    (conversation.parties letter.addressee).poisoned = false ∧
      (letter.key ∉ (conversation.books letter.addressee).keys →
        (conversation.ratchetKeys letter.addressee).length < 0x80000000)

theorem Run.usable_of_lasts (lawful : suite.Lawful) (short : config.macLength ≤ 32)
    (run : Run config opening conversation) (lasts : conversation.Lasts letter) :
    (conversation.parties letter.addressee).poisoned = false ∧
      (letter.key ∉ (conversation.books letter.addressee).keys →
        (conversation.ratchetKeys letter.addressee).length < 0x80000000) := by
  rcases lasts with few | later
  · exact ⟨run.usable lawful short few letter.addressee,
      fun _ => run.room lawful short few letter.addressee⟩
  · exact later

/-- A letter is read with the text that it was made of when it is delivered for the first time, unless
it is too far ahead or its keys were evicted. Once it was read, every delivery ends in a duplicate and
changes nothing. And the books, in which a letter is too far ahead or its keys were evicted, say what
the session of the addressee holds. -/
theorem letter_is_read_once (lawful : suite.Lawful) (short : config.macLength ≤ 32)
    (run : Run config opening conversation) (isSent : letter ∈ conversation.sent)
    (kept : (conversation.books letter.addressee).Keeps config letter.key)
    (lasts : conversation.Lasts letter) (random : Randomness) :
    let log := (conversation.books letter.addressee).log letter.key
    let outcome := conversation.decrypted config opening letter random
    let record := (conversation.parties letter.addressee).content.session
      (opening.peer letter.addressee)
    (letter ∉ conversation.read →
      letter.counter ≤ log.next + config.maxForwardJumps.toNat →
      letter.counter ∉ log.evicted →
      outcome.result = .ok letter.plaintext) ∧
    (letter ∈ conversation.read →
      (∃ index, index.toNat = log.next ∧ outcome.result =
        .error (.refused (.duplicateMessage index letter.message.inner.counter))) ∧
      outcome.state = conversation.parties letter.addressee) ∧
    (record.isFresh = false →
      record.current.receiverChains.map ReceiverChain.outline =
        (newest config.maxReceiverChains (conversation.books letter.addressee)).map
          ChainLog.outline) := by
  intro log outcome record
  obtain ⟨usable, room⟩ := run.usable_of_lasts lawful short lasts
  obtain ⟨script, follows⟩ := run.follows lawful short
  have sender_eq : letter.addressee.other = letter.sender := Side.other_other letter.sender
  have synced := follows.synced
  have genuine := follows.genuine letter isSent
  have drawn := follows.keyed letter isSent
  rw [← sender_eq] at genuine drawn
  obtain ⟨stored, refused, reads, _, _, unchanged⟩ := follows.decrypt_eq isSent
  have outcome_eq : outcome = Locked.run
    (Session.decrypt suite config (opening.peer letter.addressee) letter.message Receiver.accept)
    (conversation.parties letter.addressee) random := rfl
  rw [Locked.run_of_free usable, reads] at outcome_eq
  refine ⟨?_, ?_, run.books_agree lawful short letter.addressee⟩
  · intro unread near notEvicted
    rw [follows.drawn letter.addressee] at room
    have grants : log.Grants config letter.counter :=
      follows.recorded.grants isSent unread near notEvicted
    obtain ⟨final, rest, read⟩ :=
      synced.decrypt_of_grants lawful drawn kept room genuine grants random
    rw [outcome_eq, read]
    rfl
  · intro isRead
    have done : log.Done letter.counter := follows.recorded.read_done letter isRead
    obtain ⟨index, index_eq, duplicate⟩ :=
      synced.decrypt_of_done drawn kept genuine.version_eq done random
    have hasJoined : script.hasJoined = true := by
      cases joined : script.hasJoined with
      | true => rfl
      | false =>
          rw [follows.unread joined] at isRead
          cases isRead
    rw [outcome_eq, duplicate]
    refine ⟨⟨index, index_eq, rfl⟩, ?_⟩
    change ({ content := refused, poisoned := false } : Locked Store) = _
    rw [unchanged hasJoined, ← usable]

/-- The caller and the newcomer, with both kinds of prekeys. -/
def newcomers : Opening Suite.additive where
  store
    | .initiator => { identity := KeyPair.additive 4, registrationId := 2 }
    | .responder => .newcomer
  peer
    | .initiator => .newcomer
    | .responder => .caller
  bundle := { PreKeyBundle.newcomer with
    preKeyId := some 6, preKey := some (KeyPair.additive 3).publicKey }
  signedPreKey := { id := 7, timestamp := 0, keyPair := KeyPair.additive 2, signature := [] }
  oneTime := some (6, { id := 6, keyPair := KeyPair.additive 3 })
  noSession side := by cases side <;> rfl
  noIdentity side := by cases side <;> rfl
  identity_matches side := by cases side <;> rfl
  identityKey_eq := rfl
  signedPreKey_eq := rfl
  signedPreKey_kept := by decide
  signedPreKey_matches := rfl
  signed := rfl
  preKeyId_eq := rfl
  preKey_eq := rfl
  oneTime_kept id record offered := by
    cases offered
    exact ⟨by decide, rfl⟩

/-- The caller has sent two letters. -/
def twoCalls : Conversation :=
  ((begun {} newcomers (.repeated 8)).send {} newcomers .initiator [1, 2, 3] (.repeated 0)).send {}
    newcomers .initiator [4, 5] (.repeated 0)

def firstCall : Letter :=
  twoCalls.sent.get ⟨0, by decide +kernel⟩

def secondCall : Letter :=
  twoCalls.sent.get ⟨1, by decide +kernel⟩

/-- The second letter comes first. -/
def overtaken : Conversation :=
  twoCalls.deliver {} newcomers secondCall (.repeated 16)

theorem run_overtaken : Run {} newcomers overtaken := by
  have delivered : secondCall ∈ twoCalls.sent ∧
      (twoCalls.books secondCall.addressee).Keeps {} secondCall.key ∧
      (KeyPair.generate Suite.additive (.repeated 16)).1.publicKey ∉
        twoCalls.ratchetKeys secondCall.addressee := by decide +kernel
  apply Run.deliver
  · apply Run.send
    apply Run.send
    exact Run.start (.repeated 8)
  · exact delivered.1
  · exact delivered.2.1
  · exact fun _ => delivered.2.2

theorem overtaken_letters :
    (overtaken.decrypted {} newcomers firstCall (.repeated 0)).result = .ok [1, 2, 3] ∧
      ∃ index, (overtaken.decrypted {} newcomers secondCall (.repeated 0)).result =
        .error (.refused (.duplicateMessage index secondCall.message.inner.counter)) := by
  have short : ({} : Config).macLength ≤ 32 := by decide
  have isText : firstCall.plaintext = [1, 2, 3] := by decide +kernel
  have lasts (letter : Letter) : overtaken.Lasts letter := .inl (by decide +kernel)
  obtain ⟨isSent, kept, unread, near, notEvicted⟩ :
      firstCall ∈ overtaken.sent ∧
      (overtaken.books firstCall.addressee).Keeps {} firstCall.key ∧
      firstCall ∉ overtaken.read ∧
      firstCall.counter ≤ ((overtaken.books firstCall.addressee).log firstCall.key).next +
        ({} : Config).maxForwardJumps.toNat ∧
      firstCall.counter ∉ ((overtaken.books firstCall.addressee).log firstCall.key).evicted := by
    decide +kernel
  obtain ⟨secondSent, secondKept, secondRead⟩ :
      secondCall ∈ overtaken.sent ∧
      (overtaken.books secondCall.addressee).Keeps {} secondCall.key ∧
      secondCall ∈ overtaken.read := by decide +kernel
  have first := letter_is_read_once Suite.additive_lawful short run_overtaken isSent kept
    (lasts firstCall) (.repeated 0)
  have second := letter_is_read_once Suite.additive_lawful short run_overtaken secondSent secondKept
    (lasts secondCall) (.repeated 0)
  constructor
  · rw [← isText]
    exact first.1 unread near notEvicted
  · obtain ⟨⟨index, _, duplicate⟩, _⟩ := second.2.1 secondRead
    exact ⟨index, duplicate⟩

end Conversation
end DoubleRatchet
