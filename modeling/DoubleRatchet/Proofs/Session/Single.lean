import DoubleRatchet.Proofs.Session.Seek

/-!
# Parties with one session

Where a record holds one session, what a party does with a message is what this session does with
it, and this module says so as an equation: for a session that is stored, and for one that a first
message lets the party join.
-/

namespace DoubleRatchet

variable {suite : Suite} {config : Config} {random rest : Randomness}

namespace SessionRecord

/-- What a record says when its only session fails. -/
def reported (failure : Failure) : Failure :=
  if isFinal failure then failure else .invalidMessage .noValidSession

end SessionRecord

/-- The answer of an only session: the session is stored as it is afterwards, or not at all. -/
def Outcome.storing {σ : Type} (stored : SessionState → σ) (refused : σ) :
    Outcome SessionState Bytes → Outcome σ Bytes
  | ⟨.ok plaintext, final, rest⟩ => ⟨.ok plaintext, stored final, rest⟩
  | ⟨.error failure, _, rest⟩ => ⟨.error (SessionRecord.reported failure), refused, rest⟩

theorem SessionRecord.decrypt_ofState (message : SignalMessage) (state : SessionState)
    (random : Randomness) :
    SessionRecord.decrypt suite config message (ofState state) random =
      (SessionState.decrypt suite config message state random).storing ofState (ofState state) := by
  unfold SessionRecord.decrypt
  rw [Step.get_bind, Step.draw_bind]
  unfold states firstAnswer firstAnswer
  rcases attempt : SessionState.decrypt suite config message state random with
    ⟨failure | plaintext, final, drawn⟩
  · simp only [ofState, attempt, Outcome.storing, reported]
    split
    · rfl
    · rfl
  · simp only [ofState, attempt, Outcome.storing]
    rfl

theorem Outcome.keeping_storing {σ τ : Type} (stored : τ → σ) (refused : σ)
    (state : SessionState → τ) (unread : τ) (outcome : Outcome SessionState Bytes) :
    (outcome.storing state unread).keeping stored refused =
      outcome.storing (fun final => stored (state final)) refused := by
  rcases outcome with ⟨failure | plaintext, final, rest⟩ <;> rfl

namespace Session

variable {address : Address} {theirs : PublicKey} {store : Store} {state : SessionState}

/-- The session is the only one with the address. -/
structure Sole (address : Address) (theirs : PublicKey) (state : SessionState) (store : Store) :
    Prop where
  session_eq : store.session address = .ofState state
  identity_eq : store.identities.find? address = some theirs

/-- The message is one of the session, and what it announces is the session. -/
def Announces (theirs : PublicKey) (state : SessionState) : CiphertextMessage → Prop
  | .signal _ => True
  | .preKey message => message.identityKey = theirs ∧ message.version = state.version ∧
      state.initiatorBaseKey = some message.baseKey

theorem Sole.begun (sole : Sole address theirs state store) (begun : state.isInitialized = true) :
    (store.session address).isFresh = false := by
  rw [sole.session_eq]
  simpa [SessionRecord.isFresh, SessionRecord.ofState] using begun

theorem Sole.accept_eq {message : PreKeyMessage} (sole : Sole address theirs state store)
    (announces : Announces theirs state (.preKey message)) (random : Randomness) :
    acceptPreKeyMessage suite config address (store.session address) message store random =
      ⟨.ok (none, .ofState state), store, random⟩ := by
  obtain ⟨identityKey_eq, version_eq, baseKey_eq⟩ := announces
  have known : store.identities.find? address = some message.identityKey :=
    identityKey_eq ▸ sole.identity_eq
  have trusted : store.trusts address message.identityKey = true :=
    (Store.trusts_iff address store message.identityKey).mpr (.inr known)
  have hasSession :
      (SessionRecord.ofState state).hasSession message.version message.baseKey = true := by
    simp [SessionRecord.hasSession, SessionRecord.states, SessionRecord.ofState, version_eq,
      baseKey_eq]
  rw [sole.session_eq, accept_of_session trusted hasSession, Store.putIdentity_of_find? address store known]

/-- A party whose only session a message belongs to. -/
theorem Sole.decrypt_eq {message : CiphertextMessage} (sole : Sole address theirs state store)
    (begun : state.isInitialized = true) (announces : Announces theirs state message)
    (random : Randomness) :
    decrypt suite config address message Receiver.accept store random =
      (SessionState.decrypt suite config message.inner state random).storing
        (fun final => store.putSession address (.ofState final)) store := by
  cases message with
  | signal message =>
      change decryptMessage suite config address message Receiver.accept store random = _
      rw [decryptMessage_eq (sole.begun begun), sole.session_eq, SessionRecord.decrypt_ofState,
        Outcome.keeping_storing]
      rfl
  | preKey message =>
      change decryptPreKeyMessage suite config address message Receiver.accept store random = _
      rw [decryptPreKeyMessage_eq (sole.accept_eq announces random), SessionRecord.decrypt_ofState,
        Outcome.keeping_storing]
      rfl

theorem Sole.putSession (sole : Sole address theirs state store) (final : SessionState) :
    Sole address theirs final (store.putSession address (.ofState final)) where
  session_eq := Store.session_putSession address store _
  identity_eq := sole.identity_eq

/-! ## Joining -/

/-- The party has no session with the address, and whatever identity it has for it is `theirs`. -/
structure Unmet (address : Address) (theirs : PublicKey) (store : Store) : Prop where
  session_eq : store.session address = {}
  trusted : store.trusts address theirs = true

/-- A party that has no session yet joins the one that a first message announces. -/
theorem Unmet.accept_eq {message : PreKeyMessage} {signedPreKey : SignedPreKeyRecord}
    {oneTime : Option KeyPair} {secret : Bytes}
    (unmet : Unmet address message.identityKey store)
    (offers : Offers message signedPreKey oneTime store)
    (found : (responderKeys store message signedPreKey oneTime).secret suite = .ok secret)
    (config : Config) (random : Randomness) :
    acceptPreKeyMessage suite config address (store.session address) message store random =
      ⟨.ok (message.preKeyId, .ofState (joinedState store message
        ((responderKeys store message signedPreKey oneTime).begun suite secret {}))),
        store.putIdentity address message.identityKey, random⟩ := by
  have hasNot : ({} : SessionRecord).hasSession message.version message.baseKey = false := by
    simp [SessionRecord.hasSession, SessionRecord.states]
  rw [unmet.session_eq]
  exact accept_of_join unmet.trusted hasNot (offers.join_eq found {} random)

end Session
end DoubleRatchet
