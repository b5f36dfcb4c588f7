import DoubleRatchet.Proofs.Session.Opener

/-!
# Where a message is looked for

A plain message is looked for in the record that a party has, and a first message in the record once it
is up to the message. What comes of the message is what comes of it in that record, as an equation.
-/

namespace DoubleRatchet

variable {suite : Suite} {config : Config} {address : Address} {random rest drawn : Randomness}

/-- What a search leaves behind: what it found is stored, or nothing is. -/
def Outcome.keeping {σ τ α : Type} (stored : τ → σ) (refused : σ) : Outcome τ α → Outcome σ α
  | ⟨.ok value, final, rest⟩ => ⟨.ok value, stored final, rest⟩
  | ⟨.error failure, _, rest⟩ => ⟨.error failure, refused, rest⟩

theorem Outcome.keeping_eq_ok {σ τ α : Type} {stored : τ → σ} {refused after : σ} {value : α}
    {outcome : Outcome τ α} :
    outcome.keeping stored refused = ⟨.ok value, after, rest⟩ ↔
      ∃ final, outcome = ⟨.ok value, final, rest⟩ ∧ after = stored final := by
  rcases outcome with ⟨failure | found, final, drawn⟩
  · constructor
    · intro kept
      cases kept
    · rintro ⟨_, impossible, _⟩
      cases impossible
  · constructor
    · intro kept
      cases kept
      exact ⟨final, rfl, rfl⟩
    · rintro ⟨_, same, rfl⟩
      cases same
      rfl

theorem Outcome.keeping_eq_error {σ τ α : Type} {stored : τ → σ} {refused after : σ}
    {failure : Failure} {outcome : Outcome τ α}
    (failed : outcome.keeping stored refused = ⟨.error failure, after, rest⟩) : after = refused := by
  rcases outcome with ⟨reason | found, final, drawn⟩
  · cases failed
    rfl
  · cases failed

theorem Outcome.result_keeping {σ τ α : Type} (stored : τ → σ) (refused : σ) (outcome : Outcome τ α) :
    (outcome.keeping stored refused).result = outcome.result := by
  rcases outcome with ⟨failure | value, final, rest⟩ <;> rfl

namespace Session

variable {store pinned : Store} {record joined : SessionRecord} {used : Option UInt32}

theorem decryptMessage_eq {message : SignalMessage}
    (begun : (store.session address).isFresh = false) (random : Randomness) :
    decryptMessage suite config address message Receiver.accept store random =
      (SessionRecord.decrypt suite config message (store.session address) random).keeping
        (store.putSession address) store := by
  have found : existing address store random = ⟨.ok (store.session address), store, random⟩ :=
    existing_eq_ok.mpr ⟨begun, rfl, rfl, rfl⟩
  unfold decryptMessage
  rw [Step.bind_of_ok found]
  rcases search : SessionRecord.decrypt suite config message (store.session address) random with
    ⟨failure | plaintext, final, rest⟩
  · exact Step.bind_of_error (Step.apart_eq_error.mpr ⟨rfl, final, search⟩)
  · exact Step.bind_of_ok (Step.apart_eq_ok.mpr ⟨rfl, search⟩)

theorem decryptPreKeyMessage_eq {message : PreKeyMessage}
    (accepted : acceptPreKeyMessage suite config address (store.session address) message store
      random = ⟨.ok (used, joined), pinned, drawn⟩) :
    decryptPreKeyMessage suite config address message Receiver.accept store random =
      (SessionRecord.decrypt suite config message.message joined drawn).keeping
        (fun final => withoutUsed used (pinned.putSession address final)) pinned := by
  unfold decryptPreKeyMessage
  rw [Step.get_bind, Step.bind_of_ok accepted]
  rcases search : SessionRecord.decrypt suite config message.message joined drawn with
    ⟨failure | plaintext, final, rest⟩
  · exact Step.bind_of_error (Step.apart_eq_error.mpr ⟨rfl, final, search⟩)
  · refine (Step.bind_of_ok (Step.apart_eq_ok.mpr ⟨rfl, search⟩)).trans ?_
    cases used <;> rfl

theorem processPreKeyMessage_eq {message : PreKeyMessage}
    (accepted : acceptPreKeyMessage suite config address (store.session address) message store
      random = ⟨.ok (used, joined), pinned, drawn⟩) :
    processPreKeyMessage suite config address message store random =
      ⟨.ok used, pinned.putSession address joined, drawn⟩ := by
  unfold processPreKeyMessage
  rw [Step.get_bind, Step.bind_of_ok accepted]
  rfl

/-- Where a party looks for a message: in which record, and what it keeps whether or not it finds the
session. -/
structure Sought (suite : Suite) (config : Config) (address : Address) (message : CiphertextMessage)
    (store : Store) (record : SessionRecord) (used : Option UInt32) (pinned : Store) : Prop where
  decrypt_eq : ∀ random, decrypt suite config address message Receiver.accept store random =
    (SessionRecord.decrypt suite config message.inner record random).keeping
      (fun final => withoutUsed used (pinned.putSession address final)) pinned
  prepared_eq : ∀ random, prepared suite config address message store random = (record, random)

theorem sought_of_session (message : SignalMessage)
    (begun : (store.session address).isFresh = false) :
    Sought suite config address (.signal message) store (store.session address) none store where
  decrypt_eq := decryptMessage_eq begun
  prepared_eq _ := rfl

theorem sought_of_accept {message : PreKeyMessage} (accepted : ∀ random,
      acceptPreKeyMessage suite config address (store.session address) message store random =
        ⟨.ok (used, joined), pinned, random⟩) :
    Sought suite config address (.preKey message) store joined used pinned where
  decrypt_eq random := decryptPreKeyMessage_eq (accepted random)
  prepared_eq random := by simp only [prepared, accepted random]

/-! ## Bringing a record up to a first message -/

section Accept

variable {message : PreKeyMessage} (trusted : store.trusts address message.identityKey = true)
include trusted

theorem accept_of_session (known : record.hasSession message.version message.baseKey = true)
    (random : Randomness) :
    acceptPreKeyMessage suite config address record message store random =
      ⟨.ok (none, record), store.putIdentity address message.identityKey, random⟩ := by
  unfold acceptPreKeyMessage
  rw [Step.get_bind]
  simp only [trusted, Bool.not_true, Bool.false_eq_true, if_false, known, if_true]
  rfl

theorem accept_of_join (unknown : record.hasSession message.version message.baseKey = false)
    (joining : join suite config record message store random = ⟨.ok (used, joined), store, rest⟩) :
    acceptPreKeyMessage suite config address record message store random =
      ⟨.ok (used, joined), store.putIdentity address message.identityKey, rest⟩ := by
  unfold acceptPreKeyMessage
  rw [Step.get_bind]
  simp only [trusted, Bool.not_true, Bool.false_eq_true, if_false, unknown]
  exact Step.bind_of_ok joining

end Accept

/-! ## Joining -/

/-- The keys that a first message names are there: a prekey record for the number of each. -/
structure Offers (message : PreKeyMessage) (signedPreKey : SignedPreKeyRecord)
    (oneTime : Option KeyPair) (store : Store) : Prop where
  signedPreKey_eq : store.signedPreKeys.find? message.signedPreKeyId = some signedPreKey
  oneTime_eq : oneTime =
    message.preKeyId.bind fun id => (store.preKeys.find? id).map PreKeyRecord.keyPair
  found : message.preKeyId.isSome = oneTime.isSome

variable {message : PreKeyMessage} {signedPreKey : SignedPreKeyRecord} {oneTime : Option KeyPair}

theorem Offers.oneTimePair_eq (offers : Offers message signedPreKey oneTime store)
    (random : Randomness) :
    oneTimePair suite message.preKeyId store random =
      ⟨.ok (oneTime, message.preKeyId), store, random⟩ := by
  have oneTime_eq := offers.oneTime_eq
  have found := offers.found
  unfold oneTimePair
  cases named : message.preKeyId with
  | none =>
      rw [named] at oneTime_eq
      rw [oneTime_eq]
      rfl
  | some id =>
      rw [named] at oneTime_eq found
      dsimp only
      rw [Step.get_bind]
      cases kept : store.preKeys.find? id with
      | none =>
          simp only [Option.bind_some, kept, Option.map_none] at oneTime_eq
          rw [oneTime_eq] at found
          cases found
      | some record =>
          simp only [Option.bind_some, kept, Option.map_some] at oneTime_eq
          rw [oneTime_eq]
          rfl

theorem Offers.join_eq (offers : Offers message signedPreKey oneTime store) {secret : Bytes}
    (found : (responderKeys store message signedPreKey oneTime).secret suite = .ok secret)
    (record : SessionRecord) (random : Randomness) :
    join suite config record message store random =
      ⟨.ok (message.preKeyId, (makeRoom config record).setCurrent (joinedState store message
        ((responderKeys store message signedPreKey oneTime).begun suite secret
          (makeRoom config record).current))), store, random⟩ := by
  have established : (responderKeys store message signedPreKey oneTime).establish suite
      (makeRoom config record).current random =
      ⟨.ok (), (responderKeys store message signedPreKey oneTime).begun suite secret
        (makeRoom config record).current, random⟩ :=
    Handshake.Responder.establish_eq_ok.mpr ⟨secret, found, rfl, rfl⟩
  unfold join
  rw [Step.get_bind, offers.signedPreKey_eq]
  dsimp only
  rw [Step.bind_of_ok (offers.oneTimePair_eq random)]
  exact Step.bind_of_ok (Step.apart_eq_ok.mpr ⟨rfl, established⟩)

end Session
end DoubleRatchet
