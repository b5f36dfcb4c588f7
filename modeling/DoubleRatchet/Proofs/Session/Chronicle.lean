import DoubleRatchet.Proofs.Session.Recency
import DoubleRatchet.Proofs.Session.Replay
import DoubleRatchet.Proofs.Session.WellFormed

/-!
# Chronicles of an address

What every operation of a party does to the sessions of one address, said without its record: one
session may begin, one may be used, and no other one changes. A party that keeps such a chronicle can
tell the record of the address at any time.
-/

namespace DoubleRatchet

variable {suite : Suite} {config : Config} {address : Address} {store : Store}
  {random rest drawn : Randomness} {operation : Operation}

namespace Operation

/-- Whether an operation is about an address. -/
def concerns (address : Address) : Operation → Bool
  | processBundle peer _ => peer = address
  | processPreKeyMessage peer _ => peer = address
  | encrypt peer _ => peer = address
  | decrypt peer _ _ => peer = address
  | maintain (.deleteSession peer) => peer = address
  | maintain (.deleteSessions name) => address.name = name
  | maintain .clearSessions => true
  | maintain _ => false

/-- Whether an operation succeeds. -/
def succeeds (suite : Suite) (config : Config) (store : Store) (random : Randomness) :
    Operation → Bool
  | processBundle peer bundle =>
      (Session.processBundle suite config peer bundle store random).result.isOk
  | processPreKeyMessage peer message =>
      (Session.processPreKeyMessage suite config peer message store random).result.isOk
  | encrypt peer plaintext =>
      (Session.encrypt suite config peer plaintext store random).result.isOk
  | decrypt peer message receiver =>
      (Session.decrypt suite config peer message receiver store random).result.isOk
  | maintain _ => true

theorem session_of_maintained (upkeep : Upkeep) :
    (upkeep.apply store).session address =
      if (maintain upkeep).concerns address then {} else store.session address := by
  cases upkeep with
  | putPreKey | removePreKey | putSignedPreKey | removeSignedPreKey => rfl
  | clearSessions => rfl
  | deleteSession peer =>
      change (((store.sessions.keep (· ≠ peer)).find? address).getD {}) = _
      rw [Table.find?_keep]
      by_cases same : peer = address
      · simp [concerns, same]
      · simp [concerns, same, Ne.symm same, Store.session]
  | deleteSessions name =>
      change (((store.sessions.keep fun other => other.name ≠ name).find? address).getD {}) = _
      rw [Table.find?_keep]
      by_cases same : address.name = name
      · simp [concerns, same]
      · simp [concerns, same, Store.session]

/-- An operation about another address leaves the record of an address alone. -/
theorem session_of_elsewhere (elsewhere : operation.concerns address = false) :
    (operation.after suite config store random).session address = store.session address := by
  have other {peer : Address} (isOther : decide (peer = address) = false) : address ≠ peer :=
    fun same => of_decide_eq_false isOther same.symm
  have writes : Writes suite config store random operation _ := operation.writes store random
  generalize operation.after suite config store random = after at writes ⊢
  cases writes with
  | nothing => rfl
  | maintained upkeep => rw [session_of_maintained, elsewhere, if_neg Bool.false_ne_true]
  | pinned => rfl
  | began => exact Store.session_putSession_of_ne _ _ (other elsewhere) _
  | joined => exact Store.session_putSession_of_ne _ _ (other elsewhere) _
  | sent => exact Store.session_putSession_of_ne _ _ (other elsewhere) _
  | read => exact Store.session_putSession_of_ne _ _ (other elsewhere) _
  | joinedAndRead =>
      rw [Session.session_withoutUsed]
      exact Store.session_putSession_of_ne _ _ (other elsewhere) _

/-- A failed operation leaves the record of every address alone. -/
theorem session_of_failed (failed : operation.succeeds suite config store random = false) :
    (operation.after suite config store random).session address = store.session address := by
  cases operation with
  | processBundle peer bundle =>
      obtain ⟨failure, outcome⟩ := Outcome.eq_error_of_isOk failed
      exact congrArg (Store.session address)
        (Session.atomic_processBundle store random failure (congrArg Outcome.result outcome))
  | processPreKeyMessage peer message =>
      obtain ⟨failure, outcome⟩ := Outcome.eq_error_of_isOk failed
      exact congrArg (Store.session address)
        (Session.atomic_processPreKeyMessage store random failure (congrArg Outcome.result outcome))
  | encrypt peer plaintext =>
      obtain ⟨failure, outcome⟩ := Outcome.eq_error_of_isOk failed
      exact congrArg (Store.session address)
        (Session.atomic_encrypt store random failure (congrArg Outcome.result outcome))
  | decrypt peer message receiver =>
      obtain ⟨failure, outcome⟩ := Outcome.eq_error_of_isOk failed
      cases message with
      | signal message =>
          exact congrArg (Store.session address)
            (Session.atomic_decryptMessage store random failure (congrArg Outcome.result outcome))
      | preKey message =>
          change (Session.decryptPreKeyMessage suite config peer message receiver store
            random).state.session address = _
          rcases Session.decryptPreKeyMessage_eq_error outcome with
            ⟨_, unchanged⟩ | ⟨_, _, _, accepted⟩
          · exact congrArg (Store.session address) unchanged
          · obtain ⟨_, pinned, _⟩ := Session.accept_eq_ok accepted
            exact (congrArg (Store.session address) pinned :)
  | maintain upkeep => cases failed

end Operation

namespace Sessions

/-- The session whose attempt settles what becomes of a message, and its state after that. -/
def Reads (suite : Suite) (config : Config) (sessions : Sessions) (message : SignalMessage)
    (random : Randomness) (session : Nat) (state : SessionState) : Prop :=
  ∃ position attempt, (sessions.kept config)[position]? = some session ∧ attempt.state = state ∧
    SessionRecord.Settles (SessionRecord.attempts suite config message
      ((sessions.kept config).map sessions.state) random) position attempt

/-- What an operation does to the sessions of an address. -/
inductive Causes (suite : Suite) (config : Config) (address : Address) (store : Store)
    (random : Randomness) (sessions : Sessions) : Operation → List Event → Prop where
  | elsewhere {operation : Operation} (elsewhere : operation.concerns address = false) :
      Causes suite config address store random sessions operation []
  | failed {operation : Operation}
      (failed : operation.succeeds suite config store random = false) :
      Causes suite config address store random sessions operation []
  | deleted {upkeep : Upkeep} (concerned : (Operation.maintain upkeep).concerns address = true) :
      Causes suite config address store random sessions (.maintain upkeep) [.deleted]
  | began {bundle : PreKeyBundle} {signedPreKey : PublicKey} {state : SessionState}
      {rest : Randomness}
      (succeeded : (Operation.processBundle address bundle).succeeds suite config store random = true)
      (offered : bundle.signedPreKey = some signedPreKey)
      (established :
        (Session.initiatorKeys store bundle signedPreKey (KeyPair.generate suite random).1).establish
          suite config {} (KeyPair.generate suite random).2 = ⟨.ok (), state, rest⟩) :
      Causes suite config address store random sessions (.processBundle address bundle)
        [.began (Session.announcing store bundle (KeyPair.generate suite random).1.publicKey state)]
  | recognised {message : PreKeyMessage}
      (succeeded : (Operation.processPreKeyMessage address message).succeeds suite config store
        random = true)
      (known : (sessions.record config).hasSession message.version message.baseKey = true) :
      Causes suite config address store random sessions (.processPreKeyMessage address message) []
  | joined {message : PreKeyMessage} {used : Option UInt32} {state : SessionState}
      {drawn : Randomness}
      (succeeded : (Operation.processPreKeyMessage address message).succeeds suite config store
        random = true)
      (unknown : (sessions.record config).hasSession message.version message.baseKey = false)
      (joining : Session.join suite config {} message store random =
        ⟨.ok (used, .ofState state), store, drawn⟩) :
      Causes suite config address store random sessions (.processPreKeyMessage address message)
        [.began state]
  | sent {plaintext : Bytes} {session : Nat} {ours theirs : PublicKey} {message : CiphertextMessage}
      {state : SessionState} {rest : Randomness}
      (succeeded : (Operation.encrypt address plaintext).succeeds suite config store random = true)
      (leads : sessions.recent.head? = some session)
      (identified : (sessions.state session).identities = .ok (ours, theirs))
      (encrypted : SessionState.encrypt suite config ours theirs plaintext (sessions.state session)
        random = ⟨.ok message, state, rest⟩) :
      Causes suite config address store random sessions (.encrypt address plaintext)
        [.used session state]
  | read {message : SignalMessage} {receiver : Receiver} {session : Nat} {state : SessionState}
      (succeeded : (Operation.decrypt address (.signal message) receiver).succeeds suite config store
        random = true)
      (reads : sessions.Reads suite config message random session state) :
      Causes suite config address store random sessions (.decrypt address (.signal message) receiver)
        [.used session state]
  | readKnown {message : PreKeyMessage} {receiver : Receiver} {session : Nat} {state : SessionState}
      (succeeded : (Operation.decrypt address (.preKey message) receiver).succeeds suite config store
        random = true)
      (known : (sessions.record config).hasSession message.version message.baseKey = true)
      (reads : sessions.Reads suite config message.message random session state) :
      Causes suite config address store random sessions (.decrypt address (.preKey message) receiver)
        [.used session state]
  | joinedAndRead {message : PreKeyMessage} {receiver : Receiver} {used : Option UInt32}
      {joined state : SessionState} {session : Nat} {drawn : Randomness}
      (succeeded : (Operation.decrypt address (.preKey message) receiver).succeeds suite config store
        random = true)
      (unknown : (sessions.record config).hasSession message.version message.baseKey = false)
      (joining : Session.join suite config {} message store random =
        ⟨.ok (used, .ofState joined), store, drawn⟩)
      (reads : (sessions.after (.began joined)).Reads suite config message.message drawn session
        state) :
      Causes suite config address store random sessions (.decrypt address (.preKey message) receiver)
        [.began joined, .used session state]

/-- The sessions after several events, the first one first. -/
def afterAll (sessions : Sessions) (events : List Event) : Sessions :=
  events.foldl Sessions.after sessions

/-- The sessions that the record of an address is made of. -/
structure Tells (config : Config) (address : Address) (store : Store) (sessions : Sessions) :
    Prop where
  sound : sessions.Sound
  recorded : store.session address = sessions.record config

variable {sessions : Sessions} {state : SessionState} {session : Nat} {message : SignalMessage}
  {plaintext : Bytes} {final : SessionRecord}

/-! ## Beginning -/

/-- The next session begins on a blank state. -/
theorem Sound.current_makeRoom (sound : sessions.Sound) :
    (Session.makeRoom config (sessions.record config)).current = {} := by
  apply Session.current_makeRoom_of_blank
  intro fresh
  unfold record
  rw [sound.fresh_iff.mp fresh]

/-- What a bundle begins does not depend on the sessions that there are. -/
theorem Tells.processBundle {bundle : PreKeyBundle} (tells : Tells config address store sessions)
    (succeeded : (Operation.processBundle address bundle).succeeds suite config store random = true) :
    ∃ signedPreKey state rest, bundle.signedPreKey = some signedPreKey ∧
      (Session.initiatorKeys store bundle signedPreKey (KeyPair.generate suite random).1).establish
        suite config {} (KeyPair.generate suite random).2 = ⟨.ok (), state, rest⟩ ∧
      Tells config address ((Operation.processBundle address bundle).after suite config store random)
        (sessions.after (.began (Session.announcing store bundle
          (KeyPair.generate suite random).1.publicKey state))) := by
  obtain ⟨_, outcome⟩ := Outcome.eq_ok_of_isOk succeeded
  obtain ⟨signedPreKey, state, _, offered, _, established, stored⟩ :=
    Session.processBundle_eq_ok.mp outcome
  rw [tells.recorded, tells.sound.current_makeRoom] at established
  obtain ⟨_, _, _, _, begun, _⟩ := Handshake.Initiator.establish_eq_ok.mp established
  have initialized : (Session.announcing store bundle (KeyPair.generate suite random).1.publicKey
      state).isInitialized = true := by
    rw [begun]
    rfl
  refine ⟨signedPreKey, state, _, offered, established, tells.sound.began initialized, ?_⟩
  change (Session.processBundle suite config address bundle store random).state.session address = _
  rw [stored, Store.session_putSession, tells.recorded]
  exact record_began tells.sound _

/-- What a first message lets a party join does not depend on the sessions that there are. -/
theorem Sound.join {message : PreKeyMessage} {used : Option UInt32} {joined : SessionRecord}
    (sound : sessions.Sound)
    (joining : Session.join suite config (sessions.record config) message store random =
      ⟨.ok (used, joined), store, drawn⟩) :
    ∃ state, Session.join suite config {} message store random =
        ⟨.ok (used, .ofState state), store, drawn⟩ ∧
      (sessions.after (.began state)).Sound ∧
      joined = (sessions.after (.began state)).record config := by
  obtain ⟨_, signedPreKey, oneTime, middle, state, signed, pair, established, rfl⟩ :=
    Session.join_eq_ok joining
  rw [sound.current_makeRoom] at established
  obtain ⟨_, _, begun, _⟩ := Handshake.Responder.establish_eq_ok.mp established
  have initialized : (Session.joinedState store message state).isInitialized = true := by
    rw [begun]
    rfl
  refine ⟨Session.joinedState store message state, ?_, sound.began initialized, record_began sound _⟩
  unfold Session.join
  rw [Step.get_bind, signed]
  dsimp only
  rw [Step.bind_of_ok pair]
  exact Step.bind_of_ok (Step.apart_eq_ok.mpr ⟨rfl, established⟩)

/-! ## Sending and reading -/

theorem kept_of_leads (leads : sessions.recent.head? = some session) :
    (sessions.kept config)[0]? = some session := by
  unfold kept
  rw [List.getElem?_take_of_lt (Nat.succ_pos _), ← List.head?_eq_getElem?]
  exact leads

theorem nonempty_of_kept {position : Nat} (isKept : (sessions.kept config)[position]? = some session) :
    sessions.recent ≠ [] := by
  intro none
  unfold kept at isKept
  rw [none] at isKept
  cases isKept

/-- A session that sends or reads stays begun. -/
theorem Sound.evolved {position : Nat} (sound : sessions.Sound)
    (isKept : (sessions.kept config)[position]? = some session)
    (evolves : Evolves suite config (sessions.state session) state) :
    (sessions.after (.used session state)).Sound := by
  have member := mem_of_kept isKept
  apply sound.used member
  rw [evolves.sameSession.begun_eq]
  exact sound.begun session member

/-- The record after a message was read is known from the session that read it. -/
theorem Reads.decrypted (reads : sessions.Reads suite config message random session state)
    (sound : sessions.Sound)
    (decrypted : SessionRecord.decrypt suite config message (sessions.record config) random =
      ⟨.ok plaintext, final, rest⟩) :
    (sessions.after (.used session state)).Sound ∧
      final = (sessions.after (.used session state)).record config := by
  obtain ⟨position, attempt, isKept, rfl, settling⟩ := reads
  have states : (sessions.record config).states = _ := states_record (nonempty_of_kept isKept)
  have onRecord := states ▸ settling
  obtain ⟨answer, stored⟩ := SessionRecord.decrypt_of_settles onRecord
  rw [decrypted] at answer stored
  dsimp only at answer stored
  rw [← answer] at stored
  obtain ⟨old, drawn, isState, attempted⟩ := SessionRecord.getElem?_attempts settling.tried
  rw [List.getElem?_map, isKept] at isState
  cases isState
  have evolves : Evolves suite config (sessions.state session) attempt.state :=
    .read (attempted.trans (Outcome.eq_of_result answer.symm))
  exact ⟨sound.evolved isKept evolves, stored.trans (record_used isKept attempt.state plaintext)⟩

/-- A message that is read is read by a session. -/
theorem exists_reads (nonempty : sessions.recent ≠ [])
    (decrypted : SessionRecord.decrypt suite config message (sessions.record config) random =
      ⟨.ok plaintext, final, rest⟩) :
    ∃ session state, sessions.Reads suite config message random session state := by
  have states : (sessions.record config).states = _ := states_record nonempty
  rcases SessionRecord.exists_settles (SessionRecord.attempts suite config message
    (sessions.record config).states random) with ⟨position, attempt, settling⟩ | unsettled
  · rw [states] at settling
    obtain ⟨old, _, isState, _⟩ := SessionRecord.getElem?_attempts settling.tried
    rw [List.getElem?_map, Option.map_eq_some_iff] at isState
    obtain ⟨session, isKept, _⟩ := isState
    exact ⟨session, attempt.state, position, attempt, isKept, rfl, settling⟩
  · have refused := (SessionRecord.decrypt_of_unsettled unsettled).1
    rw [decrypted] at refused
    cases refused

/-- A message is read by one of the sessions, which is then the current one. -/
structure ReadBy (suite : Suite) (config : Config) (address : Address) (sessions : Sessions)
    (message : SignalMessage) (random : Randomness) (final : Store) : Prop where
  reader : ∃ session state, sessions.Reads suite config message random session state
  told : ∀ {session state}, sessions.Reads suite config message random session state →
    Tells config address final (sessions.after (.used session state))

theorem readBy_of_decrypt {after : Store} (sound : sessions.Sound) (nonempty : sessions.recent ≠ [])
    (decrypted : SessionRecord.decrypt suite config message (sessions.record config) random =
      ⟨.ok plaintext, final, rest⟩) (stored : after.session address = final) :
    ReadBy suite config address sessions message random after where
  reader := exists_reads nonempty decrypted
  told := by
    intro session state reads
    obtain ⟨still, final_eq⟩ := reads.decrypted sound decrypted
    exact ⟨still, stored.trans final_eq⟩

theorem nonempty_of_hasSession {version : UInt8} {baseKey : PublicKey}
    (known : (sessions.record config).hasSession version baseKey = true) : sessions.recent ≠ [] := by
  intro none
  unfold record at known
  rw [none] at known
  obtain ⟨state, member, isOwn⟩ := List.any_eq_true.mp known
  rw [List.mem_singleton.mp member] at isOwn
  cases (Bool.and_eq_true_iff.mp isOwn).2

/-- A text that is sent is sent in the session that was current last. -/
theorem Tells.encrypt (tells : Tells config address store sessions)
    (succeeded : (Operation.encrypt address plaintext).succeeds suite config store random = true) :
    ∃ session ours theirs message state rest, sessions.recent.head? = some session ∧
      (sessions.state session).identities = .ok (ours, theirs) ∧
      SessionState.encrypt suite config ours theirs plaintext (sessions.state session) random =
        ⟨.ok message, state, rest⟩ ∧
      Tells config address ((Operation.encrypt address plaintext).after suite config store random)
        (sessions.after (.used session state)) := by
  obtain ⟨message, outcome⟩ := Outcome.eq_ok_of_isOk succeeded
  obtain ⟨ours, theirs, state, begun, identified, _, encrypted, stored⟩ :=
    Session.encrypt_eq_ok.mp outcome
  rw [tells.recorded] at begun identified encrypted stored
  cases recents : sessions.recent with
  | nil =>
      rw [tells.sound.fresh_iff.mpr recents] at begun
      cases begun
  | cons session others =>
      have leads : sessions.recent.head? = some session := by
        rw [recents]
        rfl
      have isKept : (sessions.kept config)[0]? = some session := kept_of_leads leads
      have current : (sessions.record config).current = sessions.state session := by
        unfold record
        rw [recents]
      rw [current] at identified encrypted
      refine ⟨session, ours, theirs, message, state, _, rfl, identified, encrypted,
        tells.sound.evolved isKept (.sent encrypted), ?_⟩
      change (Session.encrypt suite config address plaintext store random).state.session address = _
      rw [stored, Store.session_putSession]
      exact record_used isKept state plaintext

theorem Tells.decrypt {receiver : Receiver} (tells : Tells config address store sessions)
    (succeeded : (Operation.decrypt address (.signal message) receiver).succeeds suite config store
      random = true) :
    ReadBy suite config address sessions message random
      ((Operation.decrypt address (.signal message) receiver).after suite config store random) := by
  obtain ⟨plaintext, outcome⟩ := Outcome.eq_ok_of_isOk succeeded
  obtain ⟨begun, _, final, decrypted, stored⟩ := Session.decryptMessage_eq_ok outcome
  rw [tells.recorded] at begun decrypted
  have nonempty : sessions.recent ≠ [] := by
    intro none
    rw [tells.sound.fresh_iff.mpr none] at begun
    cases begun
  apply readBy_of_decrypt tells.sound nonempty decrypted
  exact (congrArg (Store.session address) stored).trans (Store.session_putSession address store final)

/-! ## First messages -/

theorem Tells.processPreKeyMessage {message : PreKeyMessage}
    (tells : Tells config address store sessions)
    (succeeded : (Operation.processPreKeyMessage address message).succeeds suite config store random =
      true) :
    ((sessions.record config).hasSession message.version message.baseKey = true ∧
        Tells config address
          ((Operation.processPreKeyMessage address message).after suite config store random)
          sessions) ∨
      (sessions.record config).hasSession message.version message.baseKey = false ∧
        ∃ used state drawn, Session.join suite config {} message store random =
          ⟨.ok (used, .ofState state), store, drawn⟩ ∧
          Tells config address
            ((Operation.processPreKeyMessage address message).after suite config store random)
            (sessions.after (.began state)) := by
  obtain ⟨used, outcome⟩ := Outcome.eq_ok_of_isOk succeeded
  obtain ⟨joined, accepted, stored⟩ := Session.processPreKeyMessage_eq_ok outcome
  have storedRecord : ((Operation.processPreKeyMessage address message).after suite config store
      random).session address = joined := by
    change (Session.processPreKeyMessage suite config address message store random).state.session
      address = joined
    rw [stored, Store.session_putSession]
  rw [tells.recorded] at accepted
  obtain ⟨_, _, ⟨known, _, same, _⟩ | ⟨unknown, joining⟩⟩ := Session.accept_eq_ok accepted
  · exact .inl ⟨known, tells.sound, storedRecord.trans same⟩
  · obtain ⟨state, joins, sound, joined_eq⟩ := tells.sound.join joining
    exact .inr ⟨unknown, used, state, _, joins, sound, storedRecord.trans joined_eq⟩

theorem Tells.decryptPreKeyMessage {message : PreKeyMessage} {receiver : Receiver}
    (tells : Tells config address store sessions)
    (succeeded : (Operation.decrypt address (.preKey message) receiver).succeeds suite config store
      random = true) :
    ((sessions.record config).hasSession message.version message.baseKey = true ∧
        ReadBy suite config address sessions message.message random
          ((Operation.decrypt address (.preKey message) receiver).after suite config store random)) ∨
      (sessions.record config).hasSession message.version message.baseKey = false ∧
        ∃ used joined drawn, Session.join suite config {} message store random =
          ⟨.ok (used, .ofState joined), store, drawn⟩ ∧
          ReadBy suite config address (sessions.after (.began joined)) message.message drawn
            ((Operation.decrypt address (.preKey message) receiver).after suite config store
              random) := by
  obtain ⟨plaintext, outcome⟩ := Outcome.eq_ok_of_isOk succeeded
  obtain ⟨used, joined, pinned, drawn, final, accepted, decrypted, _, stored⟩ :=
    Session.decryptPreKeyMessage_eq_ok outcome
  have storedRecord : ((Operation.decrypt address (.preKey message) receiver).after suite config store
      random).session address = final := by
    change (Session.decrypt suite config address (.preKey message) receiver store
      random).state.session address = final
    rw [stored, Session.session_withoutUsed, Store.session_putSession]
  rw [tells.recorded] at accepted
  obtain ⟨_, _, ⟨known, _, rfl, rfl⟩ | ⟨unknown, joining⟩⟩ := Session.accept_eq_ok accepted
  · have nonempty := nonempty_of_hasSession known
    exact .inl ⟨known, readBy_of_decrypt tells.sound nonempty decrypted storedRecord⟩
  · obtain ⟨state, joins, sound, rfl⟩ := tells.sound.join joining
    have nonempty : (sessions.after (.began state)).recent ≠ [] := List.cons_ne_nil _ _
    exact .inr ⟨unknown, used, state, drawn, joins,
      readBy_of_decrypt sound nonempty decrypted storedRecord⟩

/-! ## Any operation -/

variable {events : List Event}

/-- One operation: the record is that of the sessions after what it does to them. -/
theorem Causes.tells (causes : Causes suite config address store random sessions operation events)
    (tells : Tells config address store sessions) :
    Tells config address (operation.after suite config store random) (sessions.afterAll events) := by
  cases causes with
  | elsewhere elsewhere =>
      exact ⟨tells.sound, (Operation.session_of_elsewhere elsewhere).trans tells.recorded⟩
  | failed failed => exact ⟨tells.sound, (Operation.session_of_failed failed).trans tells.recorded⟩
  | deleted concerned =>
      refine ⟨sound_none, (Operation.session_of_maintained _).trans ?_⟩
      rw [concerned]
      rfl
  | began succeeded offered established =>
      obtain ⟨_, _, _, sameKey, sameState, after⟩ := tells.processBundle succeeded
      rw [offered] at sameKey
      cases sameKey
      rw [established] at sameState
      cases sameState
      exact after
  | recognised succeeded known =>
      rcases tells.processPreKeyMessage succeeded with ⟨_, after⟩ | ⟨unknown, _⟩
      · exact after
      · rw [known] at unknown
        cases unknown
  | joined succeeded unknown joining =>
      rcases tells.processPreKeyMessage succeeded with ⟨known, _⟩ | ⟨_, _, _, _, same, after⟩
      · rw [unknown] at known
        cases known
      · rw [joining] at same
        cases same
        exact after
  | sent succeeded leads identified encrypted =>
      obtain ⟨_, _, _, _, _, _, sameSession, sameKeys, sameState, after⟩ := tells.encrypt succeeded
      rw [leads] at sameSession
      cases sameSession
      rw [identified] at sameKeys
      cases sameKeys
      rw [encrypted] at sameState
      cases sameState
      exact after
  | read succeeded reads => exact (tells.decrypt succeeded).told reads
  | readKnown succeeded known reads =>
      rcases tells.decryptPreKeyMessage succeeded with ⟨_, readBy⟩ | ⟨unknown, _⟩
      · exact readBy.told reads
      · rw [known] at unknown
        cases unknown
  | joinedAndRead succeeded unknown joining reads =>
      rcases tells.decryptPreKeyMessage succeeded with ⟨known, _⟩ | ⟨_, _, _, _, same, readBy⟩
      · rw [unknown] at known
        cases known
      · rw [joining] at same
        cases same
        exact readBy.told reads

/-- What an operation does can always be told. -/
theorem exists_causes (tells : Tells config address store sessions) (operation : Operation)
    (random : Randomness) :
    ∃ events, Causes suite config address store random sessions operation events := by
  cases concerned : operation.concerns address with
  | false => exact ⟨_, .elsewhere concerned⟩
  | true =>
  cases succeeded : operation.succeeds suite config store random with
  | false => exact ⟨_, .failed succeeded⟩
  | true =>
  cases operation with
  | processBundle peer bundle =>
      obtain rfl := of_decide_eq_true concerned
      obtain ⟨_, _, _, offered, established, _⟩ := tells.processBundle succeeded
      exact ⟨_, .began succeeded offered established⟩
  | processPreKeyMessage peer message =>
      obtain rfl := of_decide_eq_true concerned
      rcases tells.processPreKeyMessage succeeded with ⟨known, _⟩ | ⟨unknown, _, _, _, joining, _⟩
      · exact ⟨_, .recognised succeeded known⟩
      · exact ⟨_, .joined succeeded unknown joining⟩
  | encrypt peer plaintext =>
      obtain rfl := of_decide_eq_true concerned
      obtain ⟨_, _, _, _, _, _, leads, identified, encrypted, _⟩ := tells.encrypt succeeded
      exact ⟨_, .sent succeeded leads identified encrypted⟩
  | decrypt peer message receiver =>
      obtain rfl := of_decide_eq_true concerned
      cases message with
      | signal message =>
          obtain ⟨_, _, reads⟩ := (tells.decrypt succeeded).reader
          exact ⟨_, .read succeeded reads⟩
      | preKey message =>
          rcases tells.decryptPreKeyMessage succeeded with
            ⟨known, ⟨_, _, reads⟩, _⟩ | ⟨unknown, _, _, _, joining, ⟨_, _, reads⟩, _⟩
          · exact ⟨_, .readKnown succeeded known reads⟩
          · exact ⟨_, .joinedAndRead succeeded unknown joining reads⟩
  | maintain upkeep => exact ⟨_, .deleted concerned⟩

/-- The sessions of an address in a run of a party that starts with an empty store. -/
inductive Chronicle (suite : Suite) (config : Config) (address : Address) :
    Store → Sessions → Prop where
  | start (identity : KeyPair) (registrationId : UInt32) :
      Chronicle suite config address { identity, registrationId } {}
  | step {store : Store} {sessions : Sessions} {operation : Operation} {random : Randomness}
      {events : List Event} (chronicle : Chronicle suite config address store sessions)
      (causes : Causes suite config address store random sessions operation events) :
      Chronicle suite config address (operation.after suite config store random)
        (sessions.afterAll events)

theorem Chronicle.tells (chronicle : Chronicle suite config address store sessions) :
    Tells config address store sessions := by
  induction chronicle with
  | start identity registrationId => exact ⟨sound_none, rfl⟩
  | step _ causes ih => exact causes.tells ih

/-- Every run has a chronicle. -/
theorem exists_chronicle (reachable : Reachable suite config store) (address : Address) :
    ∃ sessions, Chronicle suite config address store sessions := by
  induction reachable with
  | start identity registrationId => exact ⟨{}, .start identity registrationId⟩
  | step _ operation random ih =>
      obtain ⟨sessions, chronicle⟩ := ih
      obtain ⟨events, causes⟩ := exists_causes chronicle.tells operation random
      exact ⟨_, chronicle.step causes⟩

/-- No event changes a session that it does not begin, use or delete. -/
theorem state_afterAll_of_unused (older : session < sessions.count)
    (unused : ∀ state, .used session state ∉ events) (kept : .deleted ∉ events) :
    (sessions.afterAll events).state session = sessions.state session := by
  induction events generalizing sessions with
  | nil => rfl
  | cons event later ih =>
      have laterUnused (state : SessionState) : .used session state ∉ later :=
        mt (List.mem_cons_of_mem event) (unused state)
      have laterKept : .deleted ∉ later := mt (List.mem_cons_of_mem event) kept
      change ((sessions.after event).afterAll later).state session = sessions.state session
      cases event with
      | began state =>
          rw [ih (Nat.lt_succ_of_lt older) laterUnused laterKept]
          exact Function.update_of_ne (Nat.ne_of_lt older) state sessions.state
      | used other state =>
          have olderStill : session < (sessions.after (.used other state)).count := older
          rw [ih olderStill laterUnused laterKept]
          apply Function.update_of_ne
          rintro rfl
          exact unused state List.mem_cons_self
      | deleted => exact absurd List.mem_cons_self kept

end Sessions

/-- The archive of an address is always the list of its other sessions by how recently each was the
current one, cut to its length; an operation changes no session but the one that it begins and the one
that sends or reads; and a message is read by the first state that can read it. -/
theorem archive_is_ordered_by_recency {sessions : Sessions}
    (chronicle : Sessions.Chronicle suite config address store sessions) :
    (store.session address = sessions.record config ∧ sessions.recent.Nodup ∧
      (∀ session, session ∈ sessions.recent ↔ session < sessions.count) ∧
      sessions.recent.Pairwise fun newer older =>
        sessions.history.idxOf newer < sessions.history.idxOf older) ∧
    (∀ operation random,
      (∃ events, Sessions.Causes suite config address store random sessions operation events) ∧
      ∀ events, Sessions.Causes suite config address store random sessions operation events →
        (operation.after suite config store random).session address =
            (sessions.afterAll events).record config ∧
          ∀ session < sessions.count, (∀ state, .used session state ∉ events) → .deleted ∉ events →
            (sessions.afterAll events).state session = sessions.state session) ∧
    ∀ message record random, SessionRecord.Selects suite config message record random
      (SessionRecord.decrypt suite config message record random).result
      (SessionRecord.decrypt suite config message record random).state := by
  have tells := chronicle.tells
  refine ⟨⟨tells.recorded, Sessions.nodup_lastTimes _, ?_, Sessions.lastTimes_sorted _⟩, ?_, ?_⟩
  · intro session
    exact Sessions.mem_lastTimes.trans (tells.sound.numbered session)
  · intro operation random
    refine ⟨Sessions.exists_causes tells operation random, ?_⟩
    intro events causes
    refine ⟨(causes.tells tells).recorded, ?_⟩
    intro session older unused kept
    exact Sessions.state_afterAll_of_unused older unused kept
  · intro message record random
    exact SessionRecord.selects_of_decrypt record random

/-! ## A session that comes back -/

/-- The newcomer after it has called back. -/
def Store.calledBack : Store :=
  Operation.callBack.after Suite.additive {} .called (.repeated 24)

/-- The newcomer after it has then read the second call, in the session of the first one. -/
def Store.recalled : Store :=
  (Operation.decrypt .caller (.signal CiphertextMessage.secondCall.inner) Receiver.accept).after
    Suite.additive {} .calledBack (.repeated 32)

namespace Sessions

theorem chronicle_newcomer : Chronicle Suite.additive {} .caller .newcomer {} :=
  ((Chronicle.start (KeyPair.additive 1) 1).step
    (.elsewhere rfl : Causes _ _ _ _ (.repeated 0) _ (.maintain (.putPreKey 6 _)) [])).step
      (.elsewhere rfl : Causes _ _ _ _ (.repeated 0) _ (.maintain (.putSignedPreKey 7 _)) [])

/-- The first call begins a session, which reads it. -/
theorem chronicle_called : ∃ sessions, Chronicle Suite.additive {} .caller .called sessions ∧
    sessions.count = 1 ∧ sessions.history = [0, 0] := by
  have called_eq : Store.called = (Operation.decrypt .caller (.preKey .firstCall)
      Receiver.accept).after Suite.additive {} .newcomer (.repeated 16) := by
    rw [← firstCall_eq]
    rfl
  have succeeded : (Operation.decrypt .caller (.preKey .firstCall) Receiver.accept).succeeds
      Suite.additive {} .newcomer (.repeated 16) = true := by decide +kernel
  rcases chronicle_newcomer.tells.decryptPreKeyMessage succeeded with
    ⟨known, _⟩ | ⟨unknown, _, joined, drawn, joining, ⟨session, state, reads⟩, _⟩
  · exact absurd known (by decide +kernel)
  · have causes := Causes.joinedAndRead succeeded unknown joining reads
    obtain ⟨position, _, isKept, _⟩ := reads
    obtain rfl := List.mem_singleton.mp (List.mem_of_getElem? isKept)
    rw [called_eq]
    exact ⟨_, chronicle_newcomer.step causes, rfl, rfl⟩

/-- Calling back begins another one. -/
theorem chronicle_calledBack : ∃ sessions,
    Chronicle Suite.additive {} .caller .calledBack sessions ∧ sessions.history = [1, 0, 0] := by
  obtain ⟨sessions, chronicle, count, history⟩ := chronicle_called
  have succeeded : Operation.callBack.succeeds Suite.additive {} .called (.repeated 24) = true := by
    decide +kernel
  obtain ⟨_, _, _, offered, established, _⟩ := chronicle.tells.processBundle succeeded
  refine ⟨_, chronicle.step (.began succeeded offered established), ?_⟩
  change sessions.count :: sessions.history = [1, 0, 0]
  rw [count, history]

/-- The second call is read by the first session, from the archive. -/
theorem chronicle_recalled : ∃ sessions,
    Chronicle Suite.additive {} .caller .recalled sessions ∧ sessions.history = [0, 1, 0, 0] := by
  obtain ⟨sessions, chronicle, history⟩ := chronicle_calledBack
  have tells := chronicle.tells
  have succeeded : (Operation.decrypt .caller (.signal CiphertextMessage.secondCall.inner)
      Receiver.accept).succeeds Suite.additive {} .calledBack (.repeated 32) = true := by
    decide +kernel
  obtain ⟨session, state, reads⟩ := (tells.decrypt succeeded).reader
  refine ⟨_, chronicle.step (.read succeeded reads), ?_⟩
  have kept_eq : sessions.kept {} = [1, 0] := by
    unfold kept recent
    rw [history]
    rfl
  have states_eq : (sessions.kept {}).map sessions.state = (Store.calledBack.session .caller).states := by
    rw [tells.recorded, states_record]
    unfold recent
    rw [history]
    exact List.cons_ne_nil _ _
  have passed : ((SessionRecord.attempts Suite.additive {} CiphertextMessage.secondCall.inner
      (Store.calledBack.session .caller).states (.repeated 32))[0]?.map SessionRecord.settles) =
        some false := by decide +kernel
  obtain ⟨position, attempt, isKept, _, settling⟩ := reads
  rw [states_eq] at settling
  rw [kept_eq] at isKept
  change session :: sessions.history = [0, 1, 0, 0]
  rw [history]
  rcases position with _ | _ | position
  · rw [settling.tried] at passed
    cases settling.settled.symm.trans (Option.some.inj passed)
  · cases isKept
    rfl
  · cases isKept

end Sessions

theorem recalled_session_leads : ∃ sessions,
    Sessions.Chronicle Suite.additive {} .caller .recalled sessions ∧
      sessions.history = [0, 1, 0, 0] ∧
      (Store.recalled.session .caller).states = [sessions.state 0, sessions.state 1] := by
  obtain ⟨sessions, chronicle, history⟩ := Sessions.chronicle_recalled
  obtain ⟨⟨recorded, _⟩, _⟩ := archive_is_ordered_by_recency chronicle
  refine ⟨sessions, chronicle, history, ?_⟩
  rw [recorded]
  unfold Sessions.record Sessions.recent
  rw [history]
  rfl

end DoubleRatchet
