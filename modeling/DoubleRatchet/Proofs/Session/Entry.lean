import DoubleRatchet.Proofs.Session.Operation
import DoubleRatchet.Proofs.Session.Receive

/-!
# What an operation writes

Every way in which an operation of a party leaves its store, in one place: it fails, and at most an
identity is pinned; or it stores one record, of the peer that it is about. What holds of all states of
all stored records is then a matter of the states alone.
-/

namespace DoubleRatchet

variable {suite : Suite} {config : Config} {address peer : Address} {store : Store}
  {random rest : Randomness}

/-- What becomes of a store. -/
inductive Writes (suite : Suite) (config : Config) (store : Store) (random : Randomness) :
    Operation → Store → Prop where
  | nothing {operation : Operation} : Writes suite config store random operation store
  | maintained (upkeep : Upkeep) :
      Writes suite config store random (.maintain upkeep) (upkeep.apply store)
  /-- A first message that was accepted could not be read. -/
  | pinned {peer : Address} {message : PreKeyMessage} {receiver : Receiver}
      (trusted : store.trusts peer message.identityKey = true) :
      Writes suite config store random (.decrypt peer (.preKey message) receiver)
        (store.putIdentity peer message.identityKey)
  | began {peer : Address} {bundle : PreKeyBundle} {signedPreKey : PublicKey} {state : SessionState}
      {rest : Randomness} (trusted : store.trusts peer bundle.identityKey = true)
      (established :
        (Session.initiatorKeys store bundle signedPreKey (KeyPair.generate suite random).1).establish
          suite config (Session.makeRoom config (store.session peer)).current
          (KeyPair.generate suite random).2 = ⟨.ok (), state, rest⟩) :
      Writes suite config store random (.processBundle peer bundle)
        ((store.putIdentity peer bundle.identityKey).putSession peer
          ((Session.makeRoom config (store.session peer)).setCurrent
            (Session.announcing store bundle (KeyPair.generate suite random).1.publicKey state)))
  | joined {peer : Address} {message : PreKeyMessage} {used : Option UInt32} {record : SessionRecord}
      {after : Store} {rest : Randomness}
      (accepted : Session.acceptPreKeyMessage suite config peer (store.session peer) message store
        random = ⟨.ok (used, record), after, rest⟩) :
      Writes suite config store random (.processPreKeyMessage peer message)
        ((store.putIdentity peer message.identityKey).putSession peer record)
  | sent {peer : Address} {ours theirs : PublicKey} {plaintext : Bytes} {message : CiphertextMessage}
      {state : SessionState} {rest : Randomness}
      (encrypted : SessionState.encrypt suite config ours theirs plaintext
        (store.session peer).current random = ⟨.ok message, state, rest⟩) :
      Writes suite config store random (.encrypt peer plaintext)
        (store.putSession peer ((store.session peer).setCurrent state))
  | read {peer : Address} {message : SignalMessage} {receiver : Receiver} {plaintext : Bytes}
      {record : SessionRecord} {rest : Randomness}
      (decrypted : SessionRecord.decrypt suite config message (store.session peer) random =
        ⟨.ok plaintext, record, rest⟩) :
      Writes suite config store random (.decrypt peer (.signal message) receiver)
        (store.putSession peer record)
  | joinedAndRead {peer : Address} {message : PreKeyMessage} {receiver : Receiver}
      {used : Option UInt32} {joined record : SessionRecord} {plaintext : Bytes} {after : Store}
      {drawn rest : Randomness}
      (accepted : Session.acceptPreKeyMessage suite config peer (store.session peer) message store
        random = ⟨.ok (used, joined), after, drawn⟩)
      (decrypted : SessionRecord.decrypt suite config message.message joined drawn =
        ⟨.ok plaintext, record, rest⟩) :
      Writes suite config store random (.decrypt peer (.preKey message) receiver)
        (Session.withoutUsed used
          ((store.putIdentity peer message.identityKey).putSession peer record))

namespace Operation

theorem writes_processBundle (peer : Address) (bundle : PreKeyBundle) :
    Writes suite config store random (.processBundle peer bundle)
      ((processBundle peer bundle).after suite config store random) := by
  change Writes suite config store random _
    (Session.processBundle suite config peer bundle store random).state
  cases outcome : (Session.processBundle suite config peer bundle store random).result with
  | error failure =>
      rw [Session.atomic_processBundle store random failure outcome]
      exact .nothing
  | ok _ =>
      obtain ⟨_, state, trusted, _, _, established, stored⟩ :=
        Session.processBundle_eq_ok.mp (Outcome.eq_of_result outcome)
      rw [stored]
      exact .began trusted established

theorem writes_processPreKeyMessage (peer : Address) (message : PreKeyMessage) :
    Writes suite config store random (.processPreKeyMessage peer message)
      ((processPreKeyMessage peer message).after suite config store random) := by
  change Writes suite config store random _
    (Session.processPreKeyMessage suite config peer message store random).state
  cases outcome : (Session.processPreKeyMessage suite config peer message store random).result with
  | error failure =>
      rw [Session.atomic_processPreKeyMessage store random failure outcome]
      exact .nothing
  | ok _ =>
      obtain ⟨_, accepted, stored⟩ :=
        Session.processPreKeyMessage_eq_ok (Outcome.eq_of_result outcome)
      rw [stored]
      exact .joined accepted

theorem writes_encrypt (peer : Address) (plaintext : Bytes) :
    Writes suite config store random (.encrypt peer plaintext)
      ((encrypt peer plaintext).after suite config store random) := by
  change Writes suite config store random _
    (Session.encrypt suite config peer plaintext store random).state
  cases outcome : (Session.encrypt suite config peer plaintext store random).result with
  | error failure =>
      rw [Session.atomic_encrypt store random failure outcome]
      exact .nothing
  | ok _ =>
      obtain ⟨_, _, state, _, _, _, encrypted, stored⟩ :=
        Session.encrypt_eq_ok.mp (Outcome.eq_of_result outcome)
      rw [stored]
      exact .sent encrypted

theorem writes_decrypt (peer : Address) (message : CiphertextMessage) (receiver : Receiver) :
    Writes suite config store random (.decrypt peer message receiver)
      ((decrypt peer message receiver).after suite config store random) := by
  cases message with
  | signal message =>
      change Writes suite config store random _
        (Session.decryptMessage suite config peer message receiver store random).state
      cases outcome : (Session.decryptMessage suite config peer message receiver store random).result
        with
      | error failure =>
          rw [Session.atomic_decryptMessage store random failure outcome]
          exact .nothing
      | ok _ =>
          obtain ⟨_, _, _, decrypted, stored⟩ :=
            Session.decryptMessage_eq_ok (Outcome.eq_of_result outcome)
          rw [stored]
          exact .read decrypted
  | preKey message =>
      change Writes suite config store random _
        (Session.decryptPreKeyMessage suite config peer message receiver store random).state
      cases outcome :
        (Session.decryptPreKeyMessage suite config peer message receiver store random).result with
      | error failure =>
          rcases Session.decryptPreKeyMessage_eq_error (Outcome.eq_of_result outcome) with
            ⟨_, unchanged⟩ | ⟨_, _, _, accepted⟩
          · rw [unchanged]
            exact .nothing
          · obtain ⟨trusted, pinned, _⟩ := Session.accept_eq_ok accepted
            rw [pinned]
            exact .pinned trusted
      | ok _ =>
          obtain ⟨_, _, _, _, _, accepted, decrypted, _, stored⟩ :=
            Session.decryptPreKeyMessage_eq_ok (Outcome.eq_of_result outcome)
          obtain ⟨_, rfl, _⟩ := Session.accept_eq_ok accepted
          rw [stored]
          exact .joinedAndRead accepted decrypted

theorem writes (operation : Operation) (store : Store) (random : Randomness) :
    Writes suite config store random operation (operation.after suite config store random) := by
  cases operation with
  | processBundle peer bundle => exact writes_processBundle peer bundle
  | processPreKeyMessage peer message => exact writes_processPreKeyMessage peer message
  | encrypt peer plaintext => exact writes_encrypt peer plaintext
  | decrypt peer message receiver => exact writes_decrypt peer message receiver
  | maintain upkeep => exact .maintained upkeep

end Operation

/-! ## What one message leaves of a state -/

/-- What was settled when the session of a state was begun is as it was. -/
structure SessionState.SameSession (old new : SessionState) : Prop where
  version_eq : new.version = old.version
  localIdentity_eq : new.localIdentity = old.localIdentity
  remoteIdentity_eq : new.remoteIdentity = old.remoteIdentity
  baseKey_eq : new.initiatorBaseKey = old.initiatorBaseKey
  begun_eq : new.isInitialized = old.isInitialized

theorem Evolves.sameSession {old new : SessionState} (evolves : Evolves suite config old new) :
    old.SameSession new := by
  cases evolves with
  | same => exact ⟨rfl, rfl, rfl, rfl, rfl⟩
  | sent encrypted =>
      obtain ⟨_, _, _, _, _, _, rfl, _⟩ := SessionState.encrypt_eq_ok.mp encrypted
      exact ⟨rfl, rfl, rfl, rfl, rfl⟩
  | read decrypted =>
      obtain ⟨ready, isReady, decryption, rfl⟩ := SessionState.decrypt_eq_ok decrypted
      cases isReady with
      | known => exact ⟨rfl, rfl, rfl, rfl, rfl⟩
      | turned missing turn =>
          refine ⟨rfl, rfl, rfl, rfl, ?_⟩
          unfold SessionState.isInitialized
          rw [turn.hasRoot]
          rfl

/-! ## What holds of all states of a record -/

namespace SessionRecord

variable {Holds : SessionState → Prop} {record joined final : SessionRecord} {state : SessionState}
  {message : SignalMessage} {plaintext : Bytes}

/-- Nothing was begun in the record, or all its states are of a kind. -/
def Each (Holds : SessionState → Prop) (record : SessionRecord) : Prop :=
  record = {} ∨ ∀ state ∈ record.states, Holds state

theorem Each.eq_blank_of_fresh (each : record.Each Holds)
    (begun : ∀ state, Holds state → state.isInitialized = true) (fresh : record.isFresh = true) :
    record = {} := by
  rcases each with blank | holds
  · exact blank
  · rw [isFresh, begun record.current (holds _ List.mem_cons_self)] at fresh
    cases fresh

theorem Each.current_makeRoom (each : record.Each Holds)
    (begun : ∀ state, Holds state → state.isInitialized = true) (config : Config) :
    (Session.makeRoom config record).current = {} :=
  Session.current_makeRoom_of_blank config fun fresh => by rw [each.eq_blank_of_fresh begun fresh]

/-- A session is begun beside the others. -/
theorem Each.begin (each : record.Each Holds)
    (begun : ∀ state, Holds state → state.isInitialized = true) (config : Config)
    (holds : Holds state) :
    ∀ other ∈ ((Session.makeRoom config record).setCurrent state).states, Holds other := by
  intro other member
  have cut := (Session.states_makeRoom_cut config record state).subset member
  rcases List.mem_cons.mp cut with rfl | older
  · exact holds
  · split at older
    · rename_i fresh
      rw [each.eq_blank_of_fresh begun fresh] at older
      cases older
    · rename_i notFresh
      rcases each with rfl | each
      · exact absurd rfl notFresh
      · exact each other older

theorem Each.sent (each : record.Each Holds)
    (evolves : ∀ old new, Holds old → Evolves suite config old new → Holds new)
    {ours theirs : PublicKey} {message : CiphertextMessage}
    (encrypted : SessionState.encrypt suite config ours theirs plaintext record.current random =
      ⟨.ok message, state, rest⟩) :
    ∀ other ∈ (record.setCurrent state).states, Holds other := by
  rcases each with rfl | holds
  · obtain ⟨_, _, hasChain, _⟩ := SessionState.encrypt_eq_ok.mp encrypted
    cases hasChain
  · intro other member
    rcases List.mem_cons.mp member with rfl | older
    · exact evolves _ _ (holds _ List.mem_cons_self) (.sent encrypted)
    · exact holds other (List.mem_cons_of_mem _ older)

theorem Each.decrypted (each : record.Each Holds)
    (evolves : ∀ old new, Holds old → Evolves suite config old new → Holds new)
    (decrypted : decrypt suite config message record random = ⟨.ok plaintext, final, rest⟩) :
    ∀ other ∈ final.states, Holds other := by
  obtain ⟨_, answer, _, answers, _, rfl⟩ := decrypt_eq_ok decrypted
  obtain ⟨_, succeeded⟩ := answers.succeeded
  have isState := List.mem_of_getElem? answers.found
  rcases each with rfl | holds
  · rw [List.mem_singleton.mp isState] at succeeded
    obtain ⟨_, _, decryption, _⟩ := SessionState.decrypt_eq_ok succeeded
    cases decryption.sends
  · intro other member
    rcases mem_answered member with rfl | older
    · exact evolves _ _ (holds _ isState) (.read succeeded)
    · exact holds other older

/-- A first message is accepted by a record that has its session, or with a new session. -/
theorem Each.accepted {message : PreKeyMessage} {used : Option UInt32} {after : Store}
    (each : record.Each Holds) (begun : ∀ state, Holds state → state.isInitialized = true)
    (accepted : Session.acceptPreKeyMessage suite config address record message store random =
      ⟨.ok (used, joined), after, rest⟩)
    (joins : ∀ signedPreKey oneTime drawn state, record.hasSession message.version message.baseKey =
      false → (Session.responderKeys store message signedPreKey oneTime).establish suite {} drawn =
        ⟨.ok (), state, rest⟩ → Holds (Session.joinedState store message state)) :
    ∀ other ∈ joined.states, Holds other := by
  obtain ⟨_, _, ⟨known, _, rfl, _⟩ | ⟨unknown, joining⟩⟩ := Session.accept_eq_ok accepted
  · rcases each with rfl | holds
    · obtain ⟨state, member, isOwn⟩ := List.any_eq_true.mp known
      rw [List.mem_singleton.mp member] at isOwn
      cases (Bool.and_eq_true_iff.mp isOwn).2
    · exact holds
  · obtain ⟨_, signedPreKey, oneTime, drawn, state, _, _, established, rfl⟩ :=
      Session.join_eq_ok joining
    rw [each.current_makeRoom begun] at established
    exact each.begin begun config (joins signedPreKey oneTime drawn state unknown established)

end SessionRecord

/-! ## What holds of all stored records -/

namespace Store

/-- What every stored record of a party is like. -/
def Records (Holds : Address → SessionRecord → Prop) (store : Store) : Prop :=
  ∀ address record, store.sessions.find? address = some record → Holds address record

variable {Holds : Address → SessionRecord → Prop} {record : SessionRecord}

/-- A record that is not stored is blank. -/
theorem Records.blank_or (records : store.Records Holds) (address : Address) :
    store.session address = {} ∨ Holds address (store.session address) := by
  unfold session
  cases found : store.sessions.find? address with
  | none => exact .inl rfl
  | some record => exact .inr (records address record found)

theorem Records.put (records : store.Records Holds) (holds : Holds peer record) :
    (store.putSession peer record).Records Holds := by
  intro address stored found
  by_cases same : address = peer
  · rw [same, putSession, Table.find?_insert_self] at found
    cases found
    exact same ▸ holds
  · rw [putSession, Table.find?_insert_of_ne same] at found
    exact records address stored found

theorem Records.of_sessions {after : Store} (records : store.Records Holds)
    (same : after.sessions = store.sessions) : after.Records Holds := by
  intro address record found
  rw [same] at found
  exact records address record found

theorem Records.maintain (records : store.Records Holds) (upkeep : Upkeep) :
    (upkeep.apply store).Records Holds := by
  intro address record found
  cases upkeep with
  | putPreKey | removePreKey | putSignedPreKey | removeSignedPreKey =>
      exact records address record found
  | clearSessions => cases found
  | deleteSession other =>
      have kept := (Table.find?_keep (· ≠ other) address store.sessions).symm.trans found
      split at kept
      · exact records address record kept
      · cases kept
  | deleteSessions name =>
      have kept := (Table.find?_keep (fun other : Address => other.name ≠ name) address
        store.sessions).symm.trans found
      split at kept
      · exact records address record kept
      · cases kept

end Store

end DoubleRatchet
