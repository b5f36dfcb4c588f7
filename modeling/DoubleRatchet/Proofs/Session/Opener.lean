import DoubleRatchet.Proofs.Session.Operation

/-!
# The state that opens a message

A successful decryption is the work of one state of the record, once the record is up to the message.
This module names that state, and says what the party's store is then; and what is never changed by
an exchange.
-/

namespace DoubleRatchet

variable {suite : Suite} {config : Config} {address : Address} {store after : Store}
  {random rest : Randomness}

namespace Session

/-! ## What an exchange leaves alone -/

/-- What a party publishes and keeps apart from its sessions. -/
def published (store : Store) : KeyPair × UInt32 × Table UInt32 SignedPreKeyRecord :=
  (store.identity, store.registrationId, store.signedPreKeys)

theorem published_withoutUsed (used : Option UInt32) (store : Store) :
    published (withoutUsed used store) = published store := by
  cases used <;> rfl

/-! ## The record that is searched -/

/-- The record in which a message is looked for, and the stream that is left for the search. -/
def prepared (suite : Suite) (config : Config) (address : Address) (message : CiphertextMessage)
    (store : Store) (random : Randomness) : SessionRecord × Randomness :=
  match message with
  | .signal _ => (store.session address, random)
  | .preKey message =>
      match acceptPreKeyMessage suite config address (store.session address) message store random with
      | ⟨.ok (_, joined), _, drawn⟩ => (joined, drawn)
      | _ => (store.session address, random)

theorem prepared_of_accept {message : PreKeyMessage} {joined : SessionRecord}
    {used : Option UInt32}
    (accepted : acceptPreKeyMessage suite config address (store.session address) message store
      random = ⟨.ok (used, joined), after, rest⟩) :
    prepared suite config address (.preKey message) store random = (joined, rest) := by
  simp only [prepared, accepted]

/-- The state that opens a message, if one does. -/
def opener (suite : Suite) (config : Config) (address : Address) (message : CiphertextMessage)
    (store : Store) (random : Randomness) : SessionState :=
  let (record, drawn) := prepared suite config address message store random
  (record.states[record.answerIndex suite config message.inner drawn]?).getD {}

/-- A message was opened: by the opener, in the record that was prepared for it. -/
structure Opened (suite : Suite) (config : Config) (address : Address) (message : CiphertextMessage)
    (store : Store) (random : Randomness) (plaintext : Bytes) (after : Store) : Prop where
  opened : ∃ index drawn final rest,
    (prepared suite config address message store random).1.states[index]? =
        some (opener suite config address message store random) ∧
      SessionState.decrypt suite config message.inner
        (opener suite config address message store random) drawn = ⟨.ok plaintext, final, rest⟩ ∧
      after.session address = (prepared suite config address message store random).1.answered config
        { index, state := final, plaintext }
  published_eq : published after = published store

theorem opened_of_search {message : CiphertextMessage} {record : SessionRecord} {plaintext : Bytes}
    (decrypted : SessionRecord.decrypt suite config message.inner
      (prepared suite config address message store random).1
      (prepared suite config address message store random).2 = ⟨.ok plaintext, record, rest⟩)
    (stored : after.session address = record) (published_eq : published after = published store) :
    Opened suite config address message store random plaintext after := by
  obtain ⟨state, answer, searched, answers, rfl, rfl⟩ := SessionRecord.decrypt_eq_ok decrypted
  obtain ⟨drawn, succeeded⟩ := answers.succeeded
  have index_eq : SessionRecord.answerIndex suite config message.inner
      (prepared suite config address message store random).1
      (prepared suite config address message store random).2 = answer.index := by
    rw [SessionRecord.answerIndex, searched]
  have opener_eq : opener suite config address message store random = state := by
    unfold opener
    dsimp only
    rw [index_eq, answers.found]
    rfl
  refine ⟨⟨answer.index, drawn, answer.state, rest, ?_, ?_, stored⟩, published_eq⟩
  · rw [opener_eq]
    exact answers.found
  · rw [opener_eq]
    exact succeeded

theorem opened_of_decrypt {message : CiphertextMessage} {receiver : Receiver} {plaintext : Bytes}
    (read : decrypt suite config address message receiver store random =
      ⟨.ok plaintext, after, rest⟩) :
    Opened suite config address message store random plaintext after := by
  cases message with
  | signal message =>
      obtain ⟨_, _, record, decrypted, rfl⟩ := decryptMessage_eq_ok read
      exact opened_of_search decrypted (Store.session_putSession _ _ _) rfl
  | preKey message =>
      obtain ⟨used, joined, pinned, drawn, record, accepted, decrypted, _, rfl⟩ :=
        decryptPreKeyMessage_eq_ok read
      obtain ⟨_, rfl, _⟩ := accept_eq_ok accepted
      have stored : (withoutUsed used ((store.putIdentity address message.identityKey).putSession
          address record)).session address = record := by simp
      have searched : SessionRecord.decrypt suite config (CiphertextMessage.preKey message).inner
          (prepared suite config address (.preKey message) store random).1
          (prepared suite config address (.preKey message) store random).2 =
          ⟨.ok plaintext, record, rest⟩ := by
        rw [prepared_of_accept accepted]
        exact decrypted
      exact opened_of_search searched stored (published_withoutUsed used _)

theorem prepares_prepared (message : CiphertextMessage) (store : Store) (random : Randomness) :
    ∃ place, Prepares suite config (store.session address)
      (prepared suite config address message store random).1 place := by
  cases message with
  | signal message => exact ⟨id, .stays⟩
  | preKey message =>
      unfold prepared
      dsimp only
      split
      · rename_i accepted
        exact ⟨_, prepares_of_accept accepted⟩
      · exact ⟨id, .stays⟩

/-- A state that a first message lets a party join sends under the signed prekey that the message
names. -/
theorem senderChain_of_accept {message : PreKeyMessage} {record joined : SessionRecord}
    {used : Option UInt32}
    (accepted : acceptPreKeyMessage suite config address record message store random =
      ⟨.ok (used, joined), after, rest⟩) :
    joined = record ∨ ∃ signedPreKey chainKey state,
      store.signedPreKeys.find? message.signedPreKeyId = some signedPreKey ∧
        state.senderChain = some { ratchetKey := signedPreKey.keyPair, chainKey } ∧
        joined = (makeRoom config record).setCurrent state := by
  obtain ⟨_, _, ⟨_, _, same, _⟩ | ⟨_, joining⟩⟩ := accept_eq_ok accepted
  · exact .inl same
  · obtain ⟨_, signedPreKey, oneTime, drawn, state, found, _, established, joined_eq⟩ :=
      join_eq_ok joining
    obtain ⟨secret, _, rfl, _⟩ := Handshake.Responder.establish_eq_ok.mp established
    exact .inr ⟨signedPreKey, _, _, found, rfl, joined_eq⟩

theorem senderChain_of_prepared (message : CiphertextMessage) (store : Store)
    (random : Randomness) :
    let record := (prepared suite config address message store random).1
    record = store.session address ∨ ∃ id signedPreKey chainKey state,
      store.signedPreKeys.find? id = some signedPreKey ∧
        state.senderChain = some { ratchetKey := signedPreKey.keyPair, chainKey } ∧
        record = (makeRoom config (store.session address)).setCurrent state := by
  cases message with
  | signal message => exact .inl rfl
  | preKey message =>
      unfold prepared
      dsimp only
      split
      · rename_i accepted
        exact (senderChain_of_accept accepted).imp_right fun joined => ⟨_, joined⟩
      · exact .inl rfl

/-- A message that is not read moves no session, though it may pin an identity. -/
theorem unread_of_decrypt {message : CiphertextMessage} {receiver : Receiver} {failure : Failure}
    (failed : decrypt suite config address message receiver store random =
      ⟨.error failure, after, rest⟩) :
    after = store ∨ ∃ identity, after = store.putIdentity address identity := by
  cases message with
  | signal message =>
      have atomic : Step.Atomic (decryptMessage suite config address message receiver) :=
        atomic_decryptMessage
      have unchanged := atomic store random failure
      rw [show decryptMessage suite config address message receiver store random = _ from failed]
        at unchanged
      exact .inl (unchanged rfl)
  | preKey message =>
      rcases decryptPreKeyMessage_eq_error failed with ⟨_, unchanged⟩ | ⟨_, _, _, accepted⟩
      · exact .inl unchanged
      · obtain ⟨_, pinned, _⟩ := accept_eq_ok accepted
        exact .inr ⟨_, pinned⟩

end Session
end DoubleRatchet
