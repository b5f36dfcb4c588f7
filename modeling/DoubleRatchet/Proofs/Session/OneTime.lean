import DoubleRatchet.Proofs.Session.Chronicle
import DoubleRatchet.Proofs.Session.Opener

/-!
# One-time prekeys are used once

A one-time prekey is in the store until a session that was begun with it is stored, and no longer.
Everything else leaves it there: failures of all kinds, first messages of sessions that are known
already, and first messages that name no prekey. A party that leaves its prekeys to the first messages,
and puts only new pairs in free places, therefore never stores two sessions that were begun with the
same one.
-/

namespace DoubleRatchet

variable {suite : Suite} {config : Config} {store : Store} {random rest : Randomness}
  {operation : Operation} {id : UInt32} {record : PreKeyRecord} {pair : KeyPair}

/-! ## What a record keeps of its states -/

namespace SessionRecord

variable {record final : SessionRecord} {message : SignalMessage} {plaintext : Bytes}
  {old : SessionState}

/-- A state is still there when a message was read: it read the message, or it is in the archive. -/
theorem exists_evolved (short : record.archived.length ≤ config.maxArchivedStates)
    (member : old ∈ record.states)
    (decrypted : decrypt suite config message record random = ⟨.ok plaintext, final, rest⟩) :
    ∃ state ∈ final.states, Evolves suite config old state := by
  obtain ⟨state, answer, _, answers, _, rfl⟩ := decrypt_eq_ok decrypted
  obtain ⟨_, succeeded⟩ := answers.succeeded
  obtain ⟨position, found⟩ := List.mem_iff_getElem?.mp member
  rw [answered_eq short]
  by_cases own : position = answer.index
  · rw [own, answers.found] at found
    cases found
    exact ⟨answer.state, List.mem_cons_self, .read succeeded⟩
  · have others : (record.states.eraseIdx answer.index).length ≤ config.maxArchivedStates := by
      rw [List.length_eraseIdx_of_lt (List.getElem?_eq_some_iff.mp answers.found).1]
      exact short
    refine ⟨old, List.mem_cons_of_mem _ ?_, .same old⟩
    rw [List.take_of_length_le others]
    exact List.mem_eraseIdx_iff_getElem?.mpr ⟨position, own, found⟩

end SessionRecord

namespace Session

/-! ## The prekey that a first message names -/

theorem oneTimePair_of_stored (stored : store.preKeys.find? id = some record) :
    oneTimePair suite (some id) store random =
      ⟨.ok (some record.keyPair, some id), store, random⟩ := by
  unfold oneTimePair
  dsimp only
  rw [Step.get_bind, stored]
  rfl

/-- A number comes back only with the stored pair. -/
theorem stored_of_oneTimePair {preKeyId : Option UInt32} {oneTime : Option KeyPair} {after : Store}
    (found : oneTimePair suite preKeyId store random = ⟨.ok (oneTime, some id), after, rest⟩) :
    preKeyId = some id ∧
      ∃ record, store.preKeys.find? id = some record ∧ oneTime = some record.keyPair := by
  unfold oneTimePair at found
  cases preKeyId with
  | none => cases found
  | some named =>
      dsimp only at found
      rw [Step.get_bind] at found
      cases stored : store.preKeys.find? named with
      | none =>
          rw [stored] at found
          cases found
      | some record =>
          rw [stored] at found
          cases found
          exact ⟨rfl, record, stored, rfl⟩

theorem length_archived_makeRoom {record : SessionRecord} {state : SessionState}
    (short : record.archived.length ≤ config.maxArchivedStates) :
    ((makeRoom config record).setCurrent state).archived.length ≤ config.maxArchivedStates := by
  unfold makeRoom
  split
  · exact short
  · exact List.length_take_le _ _

end Session

theorem Sessions.length_archived_record (config : Config) (sessions : Sessions) :
    (sessions.record config).archived.length ≤ config.maxArchivedStates := by
  unfold record
  split
  · exact Nat.zero_le _
  · rw [List.length_map]
    exact List.length_take_le _ _

theorem Reachable.length_archived_le (reachable : Reachable suite config store) (address : Address) :
    (store.session address).archived.length ≤ config.maxArchivedStates := by
  obtain ⟨sessions, chronicle⟩ := Sessions.exists_chronicle reachable address
  rw [chronicle.tells.recorded]
  exact sessions.length_archived_record config

/-! ## Sessions that are begun with a stored prekey -/

/-- A first message was read, and with that a session was stored that was begun with a prekey: the
message names it, the store has it, the session is not one that the record had, and one of the states
that are stored comes from the handshake with it. -/
inductive Commits (suite : Suite) (config : Config) (store : Store) (random : Randomness) :
    Operation → UInt32 → PreKeyRecord → Prop where
  | joined {peer : Address} {message : PreKeyMessage} {receiver : Receiver} {id : UInt32}
      {record : PreKeyRecord} {signedPreKey : SignedPreKeyRecord} {begun state : SessionState}
      {drawn rest : Randomness}
      (named : message.preKeyId = some id) (stored : store.preKeys.find? id = some record)
      (succeeded : (Operation.decrypt peer (.preKey message) receiver).succeeds suite config store
        random = true)
      (unknown : (store.session peer).hasSession message.version message.baseKey = false)
      (signed : store.signedPreKeys.find? message.signedPreKeyId = some signedPreKey)
      (established :
        (Session.responderKeys store message signedPreKey (some record.keyPair)).establish suite {}
          drawn = ⟨.ok (), begun, rest⟩)
      (evolves : Evolves suite config (Session.joinedState store message begun) state)
      (kept : state ∈ (((Operation.decrypt peer (.preKey message) receiver).after suite config store
        random).session peer).states) :
      Commits suite config store random (.decrypt peer (.preKey message) receiver) id record

theorem Commits.stored (commits : Commits suite config store random operation id record) :
    store.preKeys.find? id = some record := by
  cases commits
  assumption

theorem Commits.succeeds (commits : Commits suite config store random operation id record) :
    operation.succeeds suite config store random = true := by
  cases commits
  assumption

theorem Commits.announces {peer : Address} {message : PreKeyMessage} {receiver : Receiver}
    (commits : Commits suite config store random (.decrypt peer (.preKey message) receiver) id record) :
    message.preKeyId = some id ∧
      (store.session peer).hasSession message.version message.baseKey = false := by
  cases commits with
  | joined named _ _ unknown => exact ⟨named, unknown⟩

/-- A prekey is gone once a session that was begun with it is stored. -/
theorem Commits.preKeys_eq (commits : Commits suite config store random operation id record) :
    (operation.after suite config store random).preKeys = store.preKeys.erase id := by
  cases commits with
  | @joined peer message receiver _ _ _ _ _ _ _ named stored succeeded unknown =>
      obtain ⟨plaintext, outcome⟩ := Outcome.eq_ok_of_isOk succeeded
      obtain ⟨used, joined, pinned, _, _, accepted, _, _, stores⟩ :=
        Session.decryptPreKeyMessage_eq_ok outcome
      obtain ⟨_, rfl, ⟨known, _⟩ | ⟨_, joining⟩⟩ := Session.accept_eq_ok accepted
      · rw [unknown] at known
        cases known
      · obtain ⟨_, _, _, _, _, _, paired, _⟩ := Session.join_eq_ok joining
        rw [named, Session.oneTimePair_of_stored stored] at paired
        cases paired
        exact congrArg Store.preKeys stores

/-- A prekey that a first message used up was used for a session that is now stored. -/
theorem commits_of_accept {peer : Address} {message : PreKeyMessage} {receiver : Receiver}
    {joined final : SessionRecord} {pinned : Store} {drawn : Randomness} {plaintext : Bytes}
    (reachable : Reachable suite config store)
    (accepted : Session.acceptPreKeyMessage suite config peer (store.session peer) message store
      random = ⟨.ok (some id, joined), pinned, drawn⟩)
    (decrypted : SessionRecord.decrypt suite config message.message joined drawn =
      ⟨.ok plaintext, final, rest⟩)
    (succeeded : (Operation.decrypt peer (.preKey message) receiver).succeeds suite config store random =
      true)
    (stores : ((Operation.decrypt peer (.preKey message) receiver).after suite config store
      random).session peer = final) :
    ∃ record, Commits suite config store random (.decrypt peer (.preKey message) receiver) id
      record := by
  obtain ⟨sessions, chronicle⟩ := Sessions.exists_chronicle reachable peer
  have recorded := chronicle.tells.recorded
  obtain ⟨_, _, ⟨_, impossible, _⟩ | ⟨unknown, joining⟩⟩ := Session.accept_eq_ok accepted
  · cases impossible
  obtain ⟨_, signedPreKey, oneTime, _, begun, signed, paired, established, rfl⟩ :=
    Session.join_eq_ok joining
  obtain ⟨named, record, stored, rfl⟩ := Session.stored_of_oneTimePair paired
  have short := reachable.length_archived_le peer
  obtain ⟨state, kept, evolves⟩ := SessionRecord.exists_evolved
    (Session.length_archived_makeRoom short) List.mem_cons_self decrypted
  rw [recorded, chronicle.tells.sound.current_makeRoom] at established
  exact ⟨record, .joined named stored succeeded unknown signed established evolves (stores ▸ kept)⟩

/-! ## What an operation does to the prekeys -/

/-- What becomes of the one-time prekeys of a party that removes none itself. -/
inductive Turnover (suite : Suite) (config : Config) (store : Store) (random : Randomness)
    (operation : Operation) (later : Store) : Prop where
  | kept (same : later.preKeys = store.preKeys)
  | offered {id : UInt32} {record : PreKeyRecord}
      (puts : operation = .maintain (.putPreKey id record))
      (inserted : later.preKeys = store.preKeys.insert id record)
  | used {id : UInt32} {record : PreKeyRecord}
      (commits : Commits suite config store random operation id record)

/-- Sessions are joined by reading their first messages, and no prekey is removed otherwise. -/
def Operation.LeavesPreKeys : Operation → Prop
  | processPreKeyMessage _ _ => False
  | maintain (.removePreKey _) => False
  | _ => True

theorem turnover_decrypt (reachable : Reachable suite config store) (peer : Address)
    (message : CiphertextMessage) (receiver : Receiver) (random : Randomness) :
    Turnover suite config store random (.decrypt peer message receiver)
      ((Operation.decrypt peer message receiver).after suite config store random) := by
  cases succeeded : (Operation.decrypt peer message receiver).succeeds suite config store random with
  | false =>
      obtain ⟨_, outcome⟩ := Outcome.eq_error_of_isOk succeeded
      rcases Session.unread_of_decrypt outcome with unchanged | ⟨_, pinned⟩
      · exact .kept (congrArg Store.preKeys unchanged)
      · exact .kept (congrArg Store.preKeys pinned :)
  | true =>
      obtain ⟨_, outcome⟩ := Outcome.eq_ok_of_isOk succeeded
      cases message with
      | signal message =>
          obtain ⟨_, _, _, _, stores⟩ := Session.decryptMessage_eq_ok outcome
          exact .kept (congrArg Store.preKeys stores :)
      | preKey message =>
          obtain ⟨used, _, _, _, final, accepted, decrypted, _, stores⟩ :=
            Session.decryptPreKeyMessage_eq_ok outcome
          obtain ⟨_, rfl, _⟩ := Session.accept_eq_ok accepted
          cases used with
          | none => exact .kept (congrArg Store.preKeys stores :)
          | some id =>
              have storedFinal := congrArg (Store.session peer) stores
              rw [Session.session_withoutUsed, Store.session_putSession] at storedFinal
              obtain ⟨_, commits⟩ :=
                commits_of_accept reachable accepted decrypted succeeded storedFinal
              exact .used commits

/-- An operation keeps the prekeys, adds one, or stores a session that was begun with one. -/
theorem turnover (reachable : Reachable suite config store) (leaves : operation.LeavesPreKeys)
    (random : Randomness) :
    Turnover suite config store random operation (operation.after suite config store random) := by
  cases operation with
  | processPreKeyMessage => exact leaves.elim
  | maintain upkeep =>
      cases upkeep with
      | removePreKey => exact leaves.elim
      | putPreKey id record => exact .offered rfl rfl
      | putSignedPreKey | removeSignedPreKey | deleteSession | deleteSessions | clearSessions =>
          exact .kept rfl
  | processBundle peer bundle =>
      have writes : Writes suite config store random (.processBundle peer bundle) _ :=
        Operation.writes_processBundle peer bundle
      generalize (Operation.processBundle peer bundle).after suite config store random = later
        at writes ⊢
      cases writes <;> exact .kept rfl
  | encrypt peer plaintext =>
      have writes : Writes suite config store random (.encrypt peer plaintext) _ :=
        Operation.writes_encrypt peer plaintext
      generalize (Operation.encrypt peer plaintext).after suite config store random = later
        at writes ⊢
      cases writes <;> exact .kept rfl
  | decrypt peer message receiver => exact turnover_decrypt reachable peer message receiver random

/-- A prekey that was in the store is gone just if a session that was begun with it is stored now. -/
theorem find?_after_eq_none_iff (reachable : Reachable suite config store)
    (leaves : operation.LeavesPreKeys)
    (free : ∀ id record, operation = .maintain (.putPreKey id record) → store.preKeys.find? id = none)
    (stored : store.preKeys.find? id = some record) :
    let after := operation.after suite config store random
    (after.preKeys.find? id = none ↔ Commits suite config store random operation id record) ∧
      (after.preKeys.find? id = none ∨ after.preKeys.find? id = some record) := by
  intro after
  have gone (commits : Commits suite config store random operation id record) :
      after.preKeys.find? id = none := by
    rw [commits.preKeys_eq, Table.find?_erase, if_pos rfl]
  have settled : after.preKeys.find? id = some record ∨
      Commits suite config store random operation id record := by
    cases turnover reachable leaves random with
    | kept same => exact .inl (same ▸ stored)
    | @offered own other puts inserted =>
        have different : id ≠ own := by
          rintro rfl
          rw [free _ _ puts] at stored
          cases stored
        left
        rw [inserted, Table.find?_insert_of_ne different, stored]
    | @used own other commits =>
        by_cases same : id = own
        · subst same
          rw [commits.stored] at stored
          cases stored
          exact .inr commits
        · left
          rw [commits.preKeys_eq, Table.find?_erase, if_neg same, stored]
  rcases settled with still | commits
  · refine ⟨⟨fun isGone => ?_, gone⟩, .inr still⟩
    rw [isGone] at still
    cases still
  · exact ⟨⟨fun _ => commits, gone⟩, .inl (gone commits)⟩

/-! ## Sessions that are known already -/

/-- A state that knows the base key of its session has the version that all sessions have. -/
def SessionState.Versioned (state : SessionState) : Prop :=
  state.initiatorBaseKey ≠ none → state.version = Envelope.currentVersion

theorem Reachable.versioned (reachable : Reachable suite config store) (peer : Address) :
    ∀ state ∈ (store.session peer).states, state.Versioned := by
  refine reachable.forall_states ?_ ?_ ?_ peer
  · intro known
    exact absurd rfl known
  · intro old new _ _ begins known
    cases begins with
    | initiated established =>
        obtain ⟨_, _, _, _, rfl, _⟩ := Handshake.Initiator.establish_eq_ok.mp established
        rfl
    | joined established =>
        obtain ⟨_, _, rfl, _⟩ := Handshake.Responder.establish_eq_ok.mp established
        rfl
  · intro old new holds evolves known
    rw [evolves.sameSession.baseKey_eq] at known
    rw [evolves.sameSession.version_eq]
    exact holds known

/-- A first message as it comes from the wire, of a session that the record of its sender has. -/
structure Store.Knows (config : Config) (peer : Address) (message : PreKeyMessage) (store : Store) :
    Prop where
  parsed : ∃ data, PreKeyMessage.parse config data = .ok message
  known : ∃ state ∈ (store.session peer).states, state.initiatorBaseKey = some message.baseKey

theorem Store.Knows.hasSession {peer : Address} {message : PreKeyMessage}
    (knows : store.Knows config peer message) (reachable : Reachable suite config store) :
    (store.session peer).hasSession message.version message.baseKey = true := by
  obtain ⟨_, parsed⟩ := knows.parsed
  obtain ⟨state, member, isKey⟩ := knows.known
  have current : state.version = Envelope.currentVersion :=
    reachable.versioned peer state member (by simp [isKey])
  refine List.any_eq_true.mpr ⟨state, member, ?_⟩
  rw [PreKeyMessage.version_of_parse parsed, current, isKey]
  simp

/-! ## Runs -/

/-- A store, and the pairs of all one-time prekeys that were ever put in it. -/
structure Shelf where
  store : Store
  offered : List KeyPair := []

namespace Shelf

variable {shelf later first : Shelf}

/-- The pair that an operation puts in the store. -/
def pairOf : Operation → Option KeyPair
  | .maintain (.putPreKey _ record) => some record.keyPair
  | _ => none

def after (suite : Suite) (config : Config) (operation : Operation) (random : Randomness)
    (shelf : Shelf) : Shelf :=
  { store := operation.after suite config shelf.store random
    offered := shelf.offered ++ (pairOf operation).toList }

/-- A party removes no one-time prekey itself. It adds one under a free id, with a pair that it never
offered before. -/
structure Allows (shelf : Shelf) (operation : Operation) : Prop where
  leaves : operation.LeavesPreKeys
  free : ∀ id record, operation = .maintain (.putPreKey id record) →
    shelf.store.preKeys.find? id = none
  new : ∀ id record, operation = .maintain (.putPreKey id record) →
    record.keyPair ∉ shelf.offered

/-- What a shelf can become. -/
inductive Run (suite : Suite) (config : Config) (first : Shelf) : Shelf → Prop where
  | here : Run suite config first first
  | step {shelf : Shelf} (run : Run suite config first shelf) (operation : Operation)
      (random : Randomness) (allowed : shelf.Allows operation) :
      Run suite config first (shelf.after suite config operation random)

/-- Every prekey of the store was offered, and no pair is there twice. -/
structure Stocked (suite : Suite) (config : Config) (shelf : Shelf) : Prop where
  reachable : Reachable suite config shelf.store
  offered : ∀ id record, shelf.store.preKeys.find? id = some record →
    record.keyPair ∈ shelf.offered
  distinct : ∀ id record other otherRecord, shelf.store.preKeys.find? id = some record →
    shelf.store.preKeys.find? other = some otherRecord → record.keyPair = otherRecord.keyPair →
      id = other

/-- A pair that was offered once and is not in the store. -/
structure Gone (pair : KeyPair) (shelf : Shelf) : Prop where
  offered : pair ∈ shelf.offered
  absent : ∀ id record, shelf.store.preKeys.find? id = some record → record.keyPair ≠ pair

/-- What is in the store was there before, or it has just been put in. -/
theorem stored_after (reachable : Reachable suite config shelf.store) (allowed : shelf.Allows operation)
    (stored : (shelf.after suite config operation random).store.preKeys.find? id = some record) :
    shelf.store.preKeys.find? id = some record ∨ operation = .maintain (.putPreKey id record) := by
  change (operation.after suite config shelf.store random).preKeys.find? id = some record at stored
  cases turnover reachable allowed.leaves random with
  | kept same => exact .inl (same ▸ stored)
  | @offered own other puts inserted =>
      rw [inserted] at stored
      by_cases same : id = own
      · subst same
        rw [Table.find?_insert_self] at stored
        cases stored
        exact .inr puts
      · rw [Table.find?_insert_of_ne same] at stored
        exact .inl stored
  | used commits =>
      rw [commits.preKeys_eq, Table.find?_erase] at stored
      split at stored
      · cases stored
      · exact .inl stored

theorem mem_offered_after (put : operation = .maintain (.putPreKey id record)) :
    record.keyPair ∈ (shelf.after suite config operation random).offered := by
  subst put
  exact List.mem_append_right _ List.mem_cons_self

theorem Stocked.after (stocked : shelf.Stocked suite config) (allowed : shelf.Allows operation)
    (random : Randomness) : (shelf.after suite config operation random).Stocked suite config where
  reachable := stocked.reachable.step operation random
  offered id record stored := by
    rcases stored_after stocked.reachable allowed stored with before | put
    · exact List.mem_append_left _ (stocked.offered id record before)
    · exact mem_offered_after put
  distinct id record other otherRecord stored otherStored same := by
    rcases stored_after stocked.reachable allowed stored with before | put
    · rcases stored_after stocked.reachable allowed otherStored with otherBefore | otherPut
      · exact stocked.distinct id record other otherRecord before otherBefore same
      · exact absurd (same ▸ stocked.offered id record before) (allowed.new other otherRecord otherPut)
    · rcases stored_after stocked.reachable allowed otherStored with otherBefore | otherPut
      · exact absurd (same ▸ stocked.offered other otherRecord otherBefore) (allowed.new id record put)
      · rw [put] at otherPut
        cases otherPut
        rfl

theorem Run.stocked (run : Run suite config first shelf) (stocked : first.Stocked suite config) :
    shelf.Stocked suite config := by
  induction run with
  | here => exact stocked
  | step _ operation random allowed ih => exact ih.after allowed random

theorem stocked_blank (identity : KeyPair) (registrationId : UInt32) :
    Stocked suite config { store := { identity, registrationId } } where
  reachable := .start identity registrationId
  offered _ _ stored := by cases stored
  distinct _ _ _ _ stored := by cases stored

/-- A pair that is gone does not come back. -/
theorem Gone.after (gone : shelf.Gone pair) (stocked : shelf.Stocked suite config)
    (allowed : shelf.Allows operation) (random : Randomness) :
    (shelf.after suite config operation random).Gone pair where
  offered := List.mem_append_left _ gone.offered
  absent id record stored := by
    rcases stored_after stocked.reachable allowed stored with before | put
    · exact gone.absent id record before
    · rintro rfl
      exact allowed.new id record put gone.offered

theorem Run.gone (run : Run suite config first shelf) (stocked : first.Stocked suite config)
    (gone : first.Gone pair) : shelf.Gone pair := by
  induction run with
  | here => exact gone
  | step run operation random allowed ih => exact ih.after (run.stocked stocked) allowed random

/-- The prekey with which a stored session was begun is gone. -/
theorem gone_of_commits (stocked : shelf.Stocked suite config)
    (allowed : shelf.Allows operation)
    (commits : Commits suite config shelf.store random operation id record) :
    (shelf.after suite config operation random).Gone record.keyPair where
  offered := List.mem_append_left _ (stocked.offered id record commits.stored)
  absent other otherRecord stored := by
    intro same
    have before : shelf.store.preKeys.find? other = some otherRecord := by
      rcases stored_after stocked.reachable allowed stored with before | put
      · exact before
      · exact absurd (same ▸ stocked.offered id record commits.stored)
          (allowed.new other otherRecord put)
    have isOwn := stocked.distinct other otherRecord id record before commits.stored same
    change (operation.after suite config shelf.store random).preKeys.find? other = _ at stored
    rw [commits.preKeys_eq, isOwn, Table.find?_erase, if_pos rfl] at stored
    cases stored

/-! ## The main statement -/

/-- A one-time prekey leaves the store exactly when a session that was begun with it is stored. A call
that fails, a first message of a session that is known, and one that names no prekey remove none. And no
two sessions that are ever stored, with whomever, were begun with the same prekey. -/
theorem prekey_begins_one_session {identity : KeyPair} {registrationId : UInt32}
    (run : Run suite config { store := { identity, registrationId } } shelf)
    (allowed : shelf.Allows operation) (random : Randomness) :
    let store := shelf.store
    let after := operation.after suite config store random
    (∀ id record, store.preKeys.find? id = some record →
      (after.preKeys.find? id = none ↔ Commits suite config store random operation id record) ∧
        (after.preKeys.find? id = none ∨ after.preKeys.find? id = some record)) ∧
    (operation.succeeds suite config store random = false → after.preKeys = store.preKeys) ∧
    (∀ peer message receiver, operation = .decrypt peer (.preKey message) receiver →
      store.Knows config peer message ∨ message.preKeyId = none → after.preKeys = store.preKeys) ∧
    ∀ id record, Commits suite config store random operation id record →
      ∀ later, Run suite config (shelf.after suite config operation random) later →
        ∀ another otherRandom otherId otherRecord,
          Commits suite config later.store otherRandom another otherId otherRecord →
            otherRecord.keyPair ≠ record.keyPair := by
  intro store after
  have stocked := run.stocked (stocked_blank identity registrationId)
  refine ⟨?leaves, ?fails, ?known, ?once⟩
  case leaves =>
    intro id record stored
    exact find?_after_eq_none_iff stocked.reachable allowed.leaves
      (fun id record => allowed.free id record) stored
  case fails =>
    intro failed
    rcases turnover stocked.reachable allowed.leaves random with same | ⟨rfl, _⟩ | commits
    · exact same
    · cases failed
    · rw [commits.succeeds] at failed
      cases failed
  case known =>
    rintro peer message receiver rfl kept
    rcases turnover stocked.reachable allowed.leaves random with same | ⟨impossible, _⟩ | commits
    · exact same
    · cases impossible
    · obtain ⟨named, unknown⟩ := commits.announces
      rcases kept with knows | unnamed
      · rw [knows.hasSession stocked.reachable] at unknown
        cases unknown
      · rw [unnamed] at named
        cases named
  case once =>
    intro id record commits later laterRun another otherRandom otherId otherRecord others
    have gone := laterRun.gone (stocked.after allowed random) (gone_of_commits stocked allowed commits)
    exact gone.absent otherId otherRecord others.stored

/-! ### The newcomer's shelf -/

theorem allows_decrypt (shelf : Shelf) (peer : Address) (message : CiphertextMessage)
    (receiver : Receiver) : shelf.Allows (.decrypt peer message receiver) where
  leaves := trivial
  free _ _ impossible := by cases impossible
  new _ _ impossible := by cases impossible

theorem allows_putSignedPreKey (shelf : Shelf) (id : UInt32) (record : SignedPreKeyRecord) :
    shelf.Allows (.maintain (.putSignedPreKey id record)) where
  leaves := trivial
  free _ _ impossible := by cases impossible
  new _ _ impossible := by cases impossible

theorem allows_putPreKey (free : shelf.store.preKeys.find? id = none)
    (new : record.keyPair ∉ shelf.offered) :
    shelf.Allows (.maintain (.putPreKey id record)) where
  leaves := trivial
  free _ _ same := by cases same; exact free
  new _ _ same := by cases same; exact new

def newcomersPreKey (byte : UInt8) : PreKeyRecord :=
  { id := 6, keyPair := KeyPair.additive byte }

def newcomersSignedPreKey : SignedPreKeyRecord :=
  { id := 7, timestamp := 0, keyPair := KeyPair.additive 2, signature := [] }

def newcomers : Shelf :=
  { store := .newcomer, offered := [KeyPair.additive 3] }

theorem run_newcomers :
    Run Suite.additive {} { store := { identity := KeyPair.additive 1, registrationId := 1 } }
      newcomers :=
  (Run.here.step (.maintain (.putPreKey 6 (newcomersPreKey 3))) (.repeated 0)
      (allows_putPreKey rfl List.not_mem_nil)).step
    (.maintain (.putSignedPreKey 7 newcomersSignedPreKey)) (.repeated 0)
    (allows_putSignedPreKey _ _ _)

/-- A call to the newcomer by a party that was given the prekey of number six. -/
def numberedCall (caller prekey : UInt8) : CiphertextMessage :=
  let bundle := { PreKeyBundle.newcomer with
    preKeyId := some 6, preKey := some (KeyPair.additive prekey).publicKey }
  let store : Store := { identity := KeyPair.additive caller, registrationId := 2 }
  let begun := Session.processBundle Suite.additive {} .newcomer bundle store (.repeated caller)
  let sent := Session.encrypt Suite.additive {} .newcomer [1] begun.state (.repeated 0)
  sent.result.toOption.getD .firstCall

def answering (peer : Address) (caller prekey : UInt8) : Operation :=
  .decrypt peer (numberedCall caller prekey) Receiver.accept

/-- The newcomer's shelf after a call, with a new prekey in the place of the one that was used. -/
def restocked : Shelf :=
  (newcomers.after Suite.additive {} (answering .caller 4 3) (.repeated 16)).after Suite.additive {}
    (.maintain (.putPreKey 6 (newcomersPreKey 9))) (.repeated 0)

/-- Two callers are given the prekey of number six one after the other, and each begins a session with
another pair. -/
theorem newcomer_uses_each_prekey_once :
    Commits Suite.additive {} Store.newcomer (.repeated 16) (answering .caller 4 3) 6
        (newcomersPreKey 3) ∧
      Commits Suite.additive {} restocked.store (.repeated 24) (answering ⟨"friend", 1⟩ 5 9) 6
        (newcomersPreKey 9) ∧
      (newcomersPreKey 9).keyPair ≠ (newcomersPreKey 3).keyPair := by
  have allowed := allows_decrypt newcomers .caller (numberedCall 4 3) Receiver.accept
  obtain ⟨leaves, _, _, once⟩ := prekey_begins_one_session run_newcomers allowed (.repeated 16)
  have first := (leaves 6 (newcomersPreKey 3) rfl).1.mp (by decide +kernel)
  have restocking : Run Suite.additive {} _ restocked :=
    Run.here.step (.maintain (.putPreKey 6 (newcomersPreKey 9))) (.repeated 0)
      (allows_putPreKey (by decide +kernel) (by decide +kernel))
  have run : Run Suite.additive {} _ restocked :=
    (run_newcomers.step _ (.repeated 16) allowed).step
      (.maintain (.putPreKey 6 (newcomersPreKey 9))) (.repeated 0)
      (allows_putPreKey (by decide +kernel) (by decide +kernel))
  obtain ⟨laterLeaves, _⟩ := prekey_begins_one_session run
    (allows_decrypt restocked ⟨"friend", 1⟩ (numberedCall 5 9) Receiver.accept) (.repeated 24)
  have second := (laterLeaves 6 (newcomersPreKey 9) (by decide +kernel)).1.mp (by decide +kernel)
  exact ⟨first, second, once 6 _ first restocked restocking _ _ 6 _ second⟩

end Shelf

end DoubleRatchet
