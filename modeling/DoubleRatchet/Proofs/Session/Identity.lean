import DoubleRatchet.Proofs.Session.Entry

/-!
# Pinned identities

The first identity that is stored for an address stays. It is the identity that all sessions with the
address were begun with, current or archived, because a session is begun only with an identity that is
trusted, and the identity is pinned when the session is stored.
-/

namespace DoubleRatchet

variable {suite : Suite} {config : Config} {address : Address} {store later : Store}
  {random : Randomness} {known other : PublicKey}

/-! ## Untrusted identities -/

namespace Session

variable {bundle : PreKeyBundle} {message : PreKeyMessage} {receiver : Receiver}

theorem processBundle_of_untrusted
    (untrusted : store.trusts address bundle.identityKey = false) :
    processBundle suite config address bundle store random =
      ⟨.error (.refused (.untrustedIdentity address)), store, random⟩ := by
  have refused : acceptBundle suite address bundle store random =
      ⟨.error (.refused (.untrustedIdentity address)), store, random⟩ := by
    unfold acceptBundle
    rw [Step.get_bind, untrusted]
    rfl
  exact Step.bind_of_error refused

theorem accept_of_untrusted (record : SessionRecord)
    (untrusted : store.trusts address message.identityKey = false) :
    acceptPreKeyMessage suite config address record message store random =
      ⟨.error (.refused (.untrustedIdentity address)), store, random⟩ := by
  unfold acceptPreKeyMessage
  rw [Step.get_bind, untrusted]
  rfl

theorem processPreKeyMessage_of_untrusted
    (untrusted : store.trusts address message.identityKey = false) :
    processPreKeyMessage suite config address message store random =
      ⟨.error (.refused (.untrustedIdentity address)), store, random⟩ := by
  unfold processPreKeyMessage
  rw [Step.get_bind]
  exact Step.bind_of_error (accept_of_untrusted _ untrusted)

theorem decryptPreKeyMessage_of_untrusted
    (untrusted : store.trusts address message.identityKey = false) :
    decryptPreKeyMessage suite config address message receiver store random =
      ⟨.error (.refused (.untrustedIdentity address)), store, random⟩ := by
  unfold decryptPreKeyMessage
  rw [Step.get_bind]
  exact Step.bind_of_error (accept_of_untrusted _ untrusted)

end Session

namespace Store

theorem trusts_of_known (isKnown : store.identities.find? address = some known) :
    store.trusts address other = decide (known = other) := by
  rw [trusts, isKnown]

theorem trusts_of_other (isKnown : store.identities.find? address = some known)
    (different : other ≠ known) : store.trusts address other = false := by
  rw [trusts_of_known isKnown]
  exact decide_eq_false different.symm

/-- A party keeps its own identity and every identity that it knows. -/
structure KeepsIdentities (store later : Store) : Prop where
  own : later.identity = store.identity
  known : ∀ address identity, store.identities.find? address = some identity →
    later.identities.find? address = some identity

theorem KeepsIdentities.of_eq (own : later.identity = store.identity)
    (same : later.identities = store.identities) : store.KeepsIdentities later :=
  ⟨own, fun _ _ isKnown => same ▸ isKnown⟩

/-- An identity that is trusted takes no other's place. -/
theorem keepsIdentities_put (trusted : store.trusts address other = true)
    (own : later.identity = store.identity)
    (pinned : later.identities = (store.putIdentity address other).identities) :
    store.KeepsIdentities later := by
  refine ⟨own, fun peer identity isKnown => ?_⟩
  rw [pinned, putIdentity]
  by_cases same : peer = address
  · rw [same] at isKnown ⊢
    rw [trusts_of_known isKnown] at trusted
    rw [of_decide_eq_true trusted]
    exact Table.find?_insert_self ..
  · exact (Table.find?_insert_of_ne same ..).trans isKnown

end Store

theorem Upkeep.keepsIdentities (upkeep : Upkeep) (store : Store) :
    store.KeepsIdentities (upkeep.apply store) := by
  cases upkeep <;> exact .of_eq rfl rfl

theorem Writes.keepsIdentities {operation : Operation}
    (writes : Writes suite config store random operation later) : store.KeepsIdentities later := by
  cases writes with
  | nothing => exact .of_eq rfl rfl
  | maintained upkeep => exact upkeep.keepsIdentities store
  | pinned trusted => exact Store.keepsIdentities_put trusted rfl rfl
  | began trusted => exact Store.keepsIdentities_put trusted rfl rfl
  | joined accepted => exact Store.keepsIdentities_put (Session.accept_eq_ok accepted).1 rfl rfl
  | sent => exact .of_eq rfl rfl
  | read => exact .of_eq rfl rfl
  | @joinedAndRead _ _ _ used _ _ _ _ _ _ accepted =>
      refine Store.keepsIdentities_put (Session.accept_eq_ok accepted).1 ?_ ?_
      · cases used <;> rfl
      · exact Session.identities_withoutUsed used _

/-! ## The two ends of a session -/

/-- The session of a state is between two identities. -/
structure SessionState.Between (ours theirs : PublicKey) (state : SessionState) : Prop where
  begun : state.isInitialized = true
  localIdentity_eq : state.localIdentity = some ours
  remoteIdentity_eq : state.remoteIdentity = some theirs

namespace SessionState.Between

variable {ours theirs : PublicKey} {old new state : SessionState}

theorem evolves (between : old.Between ours theirs) (evolves : Evolves suite config old new) :
    new.Between ours theirs :=
  have same := evolves.sameSession
  ⟨same.begun_eq.trans between.begun, same.localIdentity_eq.trans between.localIdentity_eq,
    same.remoteIdentity_eq.trans between.remoteIdentity_eq⟩

theorem announcing {bundle : PreKeyBundle} {signedPreKey : PublicKey} {base : KeyPair}
    {blank : SessionState} {rest : Randomness}
    (established : (Session.initiatorKeys store bundle signedPreKey base).establish suite config
      blank random = ⟨.ok (), state, rest⟩) (baseKey : PublicKey) :
    (Session.announcing store bundle baseKey state).Between store.identity.publicKey
      bundle.identityKey := by
  obtain ⟨_, _, _, _, rfl, _⟩ := Handshake.Initiator.establish_eq_ok.mp established
  exact ⟨rfl, rfl, rfl⟩

theorem joinedState {message : PreKeyMessage} {signedPreKey : SignedPreKeyRecord}
    {oneTime : Option KeyPair} {blank : SessionState} {rest : Randomness}
    (established : (Session.responderKeys store message signedPreKey oneTime).establish suite blank
      random = ⟨.ok (), state, rest⟩) :
    (Session.joinedState store message state).Between store.identity.publicKey
      message.identityKey := by
  obtain ⟨_, _, rfl, _⟩ := Handshake.Responder.establish_eq_ok.mp established
  exact ⟨rfl, rfl, rfl⟩

end SessionState.Between

namespace Store

/-- All states of a record are of sessions with the identity that is known for the address. -/
def SpeaksWith (store : Store) (address : Address) (record : SessionRecord) : Prop :=
  ∃ theirs, store.identities.find? address = some theirs ∧
    ∀ state ∈ record.states, state.Between store.identity.publicKey theirs

variable {record : SessionRecord}

theorem SpeaksWith.keeps (speaks : store.SpeaksWith address record)
    (keeps : store.KeepsIdentities later) : later.SpeaksWith address record := by
  obtain ⟨theirs, isKnown, between⟩ := speaks
  exact ⟨theirs, keeps.known address theirs isKnown, keeps.own.symm ▸ between⟩

/-- Whoever an address is known as, all states of its record are of sessions with it. -/
theorem each_between (records : store.Records store.SpeaksWith) (trusted : PublicKey)
    (isTrusted : store.trusts address trusted = true) :
    (store.session address).Each (SessionState.Between store.identity.publicKey trusted) := by
  rcases records.blank_or address with blank | ⟨theirs, isKnown, between⟩
  · exact .inl blank
  · rw [trusts_of_known isKnown] at isTrusted
    exact .inr (of_decide_eq_true isTrusted ▸ between)

/-- A session that goes on is with whom it was with. -/
theorem speaksWith_session (records : store.Records store.SpeaksWith) {final : SessionRecord}
    (goesOn : ∀ Holds : SessionState → Prop,
      (∀ old new, Holds old → Evolves suite config old new → Holds new) →
        (store.session address).Each Holds → ∀ state ∈ final.states, Holds state) :
    store.SpeaksWith address final := by
  rcases records.blank_or address with blank | ⟨theirs, isKnown, between⟩
  · exact (goesOn (fun _ => False) (fun _ _ impossible _ => impossible) (.inl blank) final.current
      List.mem_cons_self).elim
  · exact ⟨theirs, isKnown, goesOn _ (fun _ _ => SessionState.Between.evolves) (.inr between)⟩

/-- A record is stored for an address, and nobody else's changes. -/
theorem records_stored {peer : Address} (records : store.Records store.SpeaksWith)
    (keeps : store.KeepsIdentities later)
    (same : later.sessions = (store.putSession peer record).sessions)
    (speaks : later.SpeaksWith peer record) : later.Records later.SpeaksWith :=
  have others : store.Records later.SpeaksWith := fun address record found =>
    (records address record found).keeps keeps
  (others.put speaks).of_sessions same

end Store

/-- Every way in which a store is left keeps its sessions with who is known. -/
theorem Writes.speaksWith {operation : Operation}
    (writes : Writes suite config store random operation later)
    (records : store.Records store.SpeaksWith) : later.Records later.SpeaksWith := by
  have keeps := writes.keepsIdentities
  have begun (ours theirs : PublicKey) (state : SessionState) (between : state.Between ours theirs) :
      state.isInitialized = true := between.begun
  cases writes with
  | nothing => exact records
  | maintained upkeep =>
      exact fun address record found => (records.maintain upkeep address record found).keeps keeps
  | pinned => exact fun address record found => (records address record found).keeps keeps
  | began trusted established =>
      refine Store.records_stored records keeps rfl ⟨_, Table.find?_insert_self .., ?_⟩
      have each := Store.each_between records _ trusted
      exact each.begin (begun _ _) config (.announcing established _)
  | joined accepted =>
      refine Store.records_stored records keeps rfl ⟨_, Table.find?_insert_self .., ?_⟩
      have each := Store.each_between records _ (Session.accept_eq_ok accepted).1
      exact each.accepted (begun _ _) accepted fun _ _ _ _ _ established => .joinedState established
  | sent encrypted =>
      refine Store.records_stored records keeps rfl (.keeps ?_ keeps)
      exact Store.speaksWith_session records fun _ evolves each => each.sent evolves encrypted
  | read decrypted =>
      refine Store.records_stored records keeps rfl (.keeps ?_ keeps)
      exact Store.speaksWith_session records fun _ evolves each => each.decrypted evolves decrypted
  | @joinedAndRead peer message _ used joined record _ _ _ _ accepted decrypted =>
      have each := Store.each_between records _ (Session.accept_eq_ok accepted).1
      have joins := each.accepted (begun _ _) accepted
        fun _ _ _ _ _ established => .joinedState established
      have reads := SessionRecord.Each.decrypted (.inr joins)
        (fun _ _ => SessionState.Between.evolves) decrypted
      have speaks : ((store.putIdentity peer message.identityKey).putSession peer record).SpeaksWith
          peer record := ⟨_, Table.find?_insert_self .., reads⟩
      cases used <;> exact Store.records_stored records keeps rfl speaks

theorem Reachable.speaksWith (reachable : Reachable suite config store) :
    store.Records store.SpeaksWith := by
  induction reachable with
  | start identity registrationId =>
      intro address record found
      cases found
  | step _ operation random ih => exact (operation.writes _ random).speaksWith ih

/-! ## Pinning -/

/-- Any number of operations lead from one store to another. -/
inductive Leads (suite : Suite) (config : Config) (store : Store) : Store → Prop where
  | here : Leads suite config store store
  | step {later : Store} (leads : Leads suite config store later) (operation : Operation)
      (random : Randomness) : Leads suite config store (operation.after suite config later random)

theorem Leads.keepsIdentities (leads : Leads suite config store later) :
    store.KeepsIdentities later := by
  induction leads with
  | here => exact .of_eq rfl rfl
  | @step middle _ operation random ih =>
      have writes : Writes suite config middle random operation _ := operation.writes middle random
      have keeps := writes.keepsIdentities
      exact ⟨keeps.own.trans ih.own,
        fun _ _ isKnown => keeps.known _ _ (ih.known _ _ isKnown)⟩

namespace Session

/-- A party sends only in sessions with identities that it trusts. -/
theorem encrypt_ne_untrusted (records : store.Records store.SpeaksWith) (plaintext : Bytes)
    (peer : Address) :
    (encrypt suite config address plaintext store random).result ≠
      .error (.refused (.untrustedIdentity peer)) := by
  intro failed
  rcases encrypt_eq_error failed with ⟨_, impossible⟩ |
    ⟨begun, unidentified | ⟨ours, theirs, identified, ⟨untrusted, _⟩ | ⟨_, failed⟩⟩⟩
  · cases impossible
  · unfold SessionState.identities at unidentified
    split at unidentified <;> cases unidentified
  · rcases records.blank_or address with blank | ⟨remote, isKnown, between⟩
    · rw [blank] at begun
      cases begun
    · have ends := between _ List.mem_cons_self
      rw [SessionState.identities, ends.localIdentity_eq, ends.remoteIdentity_eq] at identified
      cases identified
      rw [Store.trusts_of_known isKnown] at untrusted
      exact of_decide_eq_false untrusted rfl
  · rcases SessionState.encrypt_eq_error failed with ⟨_, impossible⟩ |
      ⟨_, _, ⟨_, _, _, unsealed⟩ | ⟨_, impossible⟩⟩
    · cases impossible
    · obtain ⟨_, impossible⟩ := Suite.sealText_eq_error unsealed
      cases impossible
    · cases impossible

end Session

/-- An identity that is known stays known, it is at the other end of all sessions with its address,
and no other is let in. -/
theorem identity_stays_pinned (reachable : Reachable suite config store) (address : Address) :
    (∀ known later, store.identities.find? address = some known → Leads suite config store later →
      later.identities.find? address = some known) ∧
    (∀ record, store.sessions.find? address = some record →
      ∃ known, store.identities.find? address = some known ∧ ∀ state ∈ record.states,
        state.remoteIdentity = some known ∧
          state.localIdentity = some store.identity.publicKey) ∧
    (∀ known other random, store.identities.find? address = some known → other ≠ known →
      (∀ bundle : PreKeyBundle, bundle.identityKey = other →
        Session.processBundle suite config address bundle store random =
          ⟨.error (.refused (.untrustedIdentity address)), store, random⟩) ∧
      ∀ message : PreKeyMessage, message.identityKey = other →
        Session.processPreKeyMessage suite config address message store random =
            ⟨.error (.refused (.untrustedIdentity address)), store, random⟩ ∧
          ∀ receiver, Session.decryptPreKeyMessage suite config address message receiver store
            random = ⟨.error (.refused (.untrustedIdentity address)), store, random⟩) ∧
    ∀ plaintext peer random, (Session.encrypt suite config address plaintext store random).result ≠
      .error (.refused (.untrustedIdentity peer)) := by
  have speaks := reachable.speaksWith
  refine ⟨fun known later isKnown leads => leads.keepsIdentities.known _ _ isKnown, ?ends, ?others,
    fun plaintext peer random => Session.encrypt_ne_untrusted speaks plaintext peer⟩
  case ends =>
    intro record found
    obtain ⟨theirs, isKnown, between⟩ := speaks address record found
    exact ⟨theirs, isKnown, fun state member =>
      ⟨(between state member).remoteIdentity_eq, (between state member).localIdentity_eq⟩⟩
  case others =>
    intro known other random isKnown different
    have untrusted := Store.trusts_of_other isKnown different
    constructor
    · rintro bundle rfl
      exact Session.processBundle_of_untrusted untrusted
    · rintro message rfl
      exact ⟨Session.processPreKeyMessage_of_untrusted untrusted,
        fun receiver => Session.decryptPreKeyMessage_of_untrusted untrusted⟩

/-- The newcomer, once it has been called, refuses a bundle of anybody else at the caller's address. -/
theorem called_refuses_others :
    Session.processBundle Suite.additive {} .caller .newcomer .called (.repeated 0) =
      ⟨.error (.refused (.untrustedIdentity .caller)), .called, .repeated 0⟩ :=
  ((identity_stays_pinned reachable_called .caller).2.2.1 (KeyPair.additive 4).publicKey _ _
    (by decide +kernel) (by decide +kernel)).1 _ rfl

end DoubleRatchet
