import DoubleRatchet.Proofs.Session.Exchange

/-!
# Runs of one party

A party begins sessions, sends and receives, and looks after its prekeys, in any order and with any
messages. What an operation does to the record of one address is one of a few moves, and every move
says where the states of the record are afterwards: a session is the same session wherever its state
is kept.
-/

namespace DoubleRatchet

/-- What a party does to its store besides exchanging messages. -/
inductive Upkeep where
  | putPreKey (id : UInt32) (record : PreKeyRecord)
  | removePreKey (id : UInt32)
  | putSignedPreKey (id : UInt32) (record : SignedPreKeyRecord)
  | removeSignedPreKey (id : UInt32)
  | deleteSession (address : Address)
  | deleteSessions (name : String)
  | clearSessions

namespace Upkeep

def apply : Upkeep → Store → Store
  | putPreKey id record => Store.putPreKey id record
  | removePreKey id => Store.removePreKey id
  | putSignedPreKey id record => Store.putSignedPreKey id record
  | removeSignedPreKey id => Store.removeSignedPreKey id
  | deleteSession address => Store.deleteSession address
  | deleteSessions name => Store.deleteSessions name
  | clearSessions => Store.clearSessions

/-- Upkeep leaves the record of an address alone or deletes it. -/
theorem session_apply (upkeep : Upkeep) (store : Store) (address : Address) :
    (upkeep.apply store).session address = store.session address ∨
      (upkeep.apply store).session address = {} := by
  cases upkeep with
  | putPreKey | removePreKey | putSignedPreKey | removeSignedPreKey => exact .inl rfl
  | clearSessions => exact .inr rfl
  | deleteSession peer => exact Store.session_deleteSession peer store address
  | deleteSessions name => exact Store.session_deleteSessions store name address

end Upkeep

inductive Operation where
  | processBundle (peer : Address) (bundle : PreKeyBundle)
  | processPreKeyMessage (peer : Address) (message : PreKeyMessage)
  | encrypt (peer : Address) (plaintext : Bytes)
  | decrypt (peer : Address) (message : CiphertextMessage) (receiver : Receiver)
  | maintain (upkeep : Upkeep)

namespace Operation

variable (suite : Suite) (config : Config)

/-- The store after an operation, whether it succeeds or fails. -/
def after : Operation → Store → Randomness → Store
  | processBundle peer bundle, store, random =>
      (Session.processBundle suite config peer bundle store random).state
  | processPreKeyMessage peer message, store, random =>
      (Session.processPreKeyMessage suite config peer message store random).state
  | encrypt peer plaintext, store, random =>
      (Session.encrypt suite config peer plaintext store random).state
  | decrypt peer message receiver, store, random =>
      (Session.decrypt suite config peer message receiver store random).state
  | maintain upkeep, store, _ => upkeep.apply store

/-- The address that an operation is about, if it is about one. -/
def peer? : Operation → Option Address
  | processBundle peer _ => some peer
  | processPreKeyMessage peer _ => some peer
  | encrypt peer _ => some peer
  | decrypt peer _ _ => some peer
  | maintain _ => none

/-- The first message that an operation is given, if it is given one. -/
def first? : Operation → Option PreKeyMessage
  | processPreKeyMessage _ message => some message
  | decrypt _ (.preKey message) _ => some message
  | _ => none

/-- The one-time prekey that an operation is told of, if it is told of one. -/
def named? (operation : Operation) : Option UInt32 :=
  operation.first?.bind PreKeyMessage.preKeyId

end Operation

/-- The stores that a party can come to from an empty one. -/
inductive Reachable (suite : Suite) (config : Config) : Store → Prop where
  | start (identity : KeyPair) (registrationId : UInt32) :
      Reachable suite config { identity, registrationId }
  | step {store : Store} (reachable : Reachable suite config store) (operation : Operation)
      (random : Randomness) : Reachable suite config (operation.after suite config store random)

theorem reachable_newcomer : Reachable Suite.additive {} .newcomer :=
  ((Reachable.start (KeyPair.additive 1) 1).step (.maintain (.putPreKey 6 _)) (.repeated 0)).step
    (.maintain (.putSignedPreKey 7 _)) (.repeated 0)

theorem reachable_called : Reachable Suite.additive {} .called :=
  reachable_newcomer.step (.decrypt .caller .firstCall Receiver.accept) (.repeated 16)

/-! ## What becomes of one state -/

/-- A state stays as it is, or it sends or reads one message. -/
inductive Evolves (suite : Suite) (config : Config) : SessionState → SessionState → Prop where
  | same (state : SessionState) : Evolves suite config state state
  | sent {state final : SessionState} {ours theirs : PublicKey} {plaintext : Bytes}
      {message : CiphertextMessage} {random rest : Randomness}
      (encrypted : SessionState.encrypt suite config ours theirs plaintext state random =
        ⟨.ok message, final, rest⟩) : Evolves suite config state final
  | read {state final : SessionState} {message : SignalMessage} {plaintext : Bytes}
      {random rest : Randomness}
      (decrypted : SessionState.decrypt suite config message state random =
        ⟨.ok plaintext, final, rest⟩) : Evolves suite config state final

/-- The first state of a session, from a state that has not been part of one. -/
inductive Begins (suite : Suite) (config : Config) (blank : SessionState) : SessionState → Prop where
  | initiated {store : Store} {bundle : PreKeyBundle} {signedPreKey : PublicKey} {base : KeyPair}
      {state : SessionState} {random rest : Randomness}
      (established : (Session.initiatorKeys store bundle signedPreKey base).establish suite config
        blank random = ⟨.ok (), state, rest⟩) :
      Begins suite config blank (Session.announcing store bundle base.publicKey state)
  | joined {store : Store} {message : PreKeyMessage} {signedPreKey : SignedPreKeyRecord}
      {oneTime : Option KeyPair} {state : SessionState} {random rest : Randomness}
      (established : (Session.responderKeys store message signedPreKey oneTime).establish suite
        blank random = ⟨.ok (), state, rest⟩) :
      Begins suite config blank (Session.joinedState store message state)

/-- A session is begun on a record, or not; and where the states of the record are then. -/
inductive Prepares (suite : Suite) (config : Config) (record : SessionRecord) :
    SessionRecord → (Nat → Nat) → Prop where
  | stays : Prepares suite config record record id
  | begun {state : SessionState}
      (begins : Begins suite config (Session.makeRoom config record).current state) :
      Prepares suite config record ((Session.makeRoom config record).setCurrent state)
        (Session.afterBegin record)

/-- At most one state of a record sends or reads, or the record is deleted. -/
inductive Changes (suite : Suite) (config : Config) (record : SessionRecord) :
    SessionRecord → (Nat → Nat) → Prop where
  | stays : Changes suite config record record id
  | deleted : Changes suite config record {} id
  | sent {state : SessionState} (evolves : Evolves suite config record.current state) :
      Changes suite config record (record.setCurrent state) id
  | answered {state : SessionState} {answer : SessionRecord.Answer}
      (found : record.states[answer.index]? = some state)
      (evolves : Evolves suite config state answer.state) :
      Changes suite config record (record.answered config answer)
        (SessionRecord.afterAnswer answer.index)

/-- What an operation does to the record of an address. -/
structure Moves (suite : Suite) (config : Config) (record final : SessionRecord)
    (place : Nat → Nat) : Prop where
  steps : ∃ middle first second, Prepares suite config record middle first ∧
    Changes suite config middle final second ∧ place = second ∘ first

variable {suite : Suite} {config : Config} {record middle final : SessionRecord}
  {place : Nat → Nat} {position : Nat} {state : SessionState}

namespace Moves

theorem of_prepares (prepares : Prepares suite config record final place) :
    Moves suite config record final place :=
  ⟨final, place, id, prepares, .stays, rfl⟩

theorem of_changes (changes : Changes suite config record final place) :
    Moves suite config record final place :=
  ⟨record, id, place, .stays, changes, rfl⟩

/-- Whatever holds of a blank state, of the first state of every session, and of a state after each
message if it held before, holds of all states of a record that moved. -/
theorem forall_states {Holds : SessionState → Prop} (moves : Moves suite config record final place)
    (blank : Holds {})
    (begins : ∀ old new, Holds old → old.rootKey = none → Begins suite config old new → Holds new)
    (evolves : ∀ old new, Holds old → Evolves suite config old new → Holds new)
    (holds : ∀ state ∈ record.states, Holds state) : ∀ state ∈ final.states, Holds state := by
  obtain ⟨middle, first, second, prepares, changes, rfl⟩ := moves.steps
  have prepared : ∀ state ∈ middle.states, Holds state := by
    cases prepares with
    | stays => exact holds
    | begun beginning =>
        have room : Holds (Session.makeRoom config record).current := by
          rcases Session.current_makeRoom config record with isBlank | same
          · rw [isBlank]
            exact blank
          · rw [same]
            exact holds _ List.mem_cons_self
        intro state member
        rcases Session.mem_states_makeRoom member with rfl | older
        · exact begins _ _ room (Session.rootKey_makeRoom config record) beginning
        · exact holds state older
  cases changes with
  | stays => exact prepared
  | deleted =>
      intro state member
      cases List.mem_singleton.mp member
      exact blank
  | sent evolving =>
      intro state member
      rcases List.mem_cons.mp member with rfl | older
      · exact evolves _ _ (prepared _ List.mem_cons_self) evolving
      · exact prepared state (List.mem_cons_of_mem _ older)
  | answered found evolving =>
      intro state member
      rcases SessionRecord.mem_answered member with rfl | older
      · exact evolves _ _ (prepared _ (List.mem_of_getElem? found)) evolving
      · exact prepared state older

/-- The state that a move carries to a place is the state that was there, after at most one message.
A blank state may make way for a session, or be what is left of a deleted record. -/
theorem evolves_of_place (moves : Moves suite config record final place)
    (found : final.states[place position]? = some state) :
    (record.isFresh = true ∧ position = 0) ∨ state = {} ∨
      ∃ old, record.states[position]? = some old ∧ Evolves suite config old state := by
  obtain ⟨middle, first, second, prepares, changes, rfl⟩ := moves.steps
  have prepared {old : SessionState} (old_found : middle.states[first position]? = some old) :
      (record.isFresh = true ∧ position = 0) ∨ record.states[position]? = some old := by
    cases prepares with
    | stays => exact .inr old_found
    | begun => exact Session.getElem?_makeRoom old_found
  have changed : state = {} ∨
      ∃ old, middle.states[first position]? = some old ∧ Evolves suite config old state := by
    rw [Function.comp_apply] at found
    cases changes with
    | stays => exact .inr ⟨state, found, .same state⟩
    | deleted =>
        exact .inl (List.mem_singleton.mp (List.mem_of_getElem? found))
    | sent evolving =>
        right
        rw [id_eq] at found
        cases at_position : first position with
        | zero =>
            rw [at_position] at found
            cases found
            exact ⟨middle.current, rfl, evolving⟩
        | succ position =>
            rw [at_position] at found
            exact ⟨state, found, .same state⟩
    | answered old_found evolving =>
        right
        rcases SessionRecord.getElem?_answered found with ⟨same, rfl⟩ | unchanged
        · exact ⟨_, same ▸ old_found, evolving⟩
        · exact ⟨state, unchanged, .same state⟩
  rcases changed with isBlank | ⟨old, old_found, evolving⟩
  · exact .inr (.inl isBlank)
  · rcases prepared old_found with fresh | before
    · exact .inl fresh
    · exact .inr (.inr ⟨old, before, evolving⟩)

end Moves

/-! ## Where an operation puts the states of a record -/

namespace Session

/-- Where a state is once a first message was accepted. -/
def afterAccept (message : PreKeyMessage) (record : SessionRecord) (position : Nat) : Nat :=
  if record.hasSession message.version message.baseKey then position
  else afterBegin record position

/-- Where a state is once a message was decrypted. -/
def afterDecrypt (suite : Suite) (config : Config) (address : Address) (store : Store)
    (random : Randomness) (position : Nat) : CiphertextMessage → Nat
  | .signal message =>
      SessionRecord.afterAnswer
        ((store.session address).answerIndex suite config message random) position
  | .preKey message =>
      match acceptPreKeyMessage suite config address (store.session address) message store random with
      | ⟨.ok (_, joined), _, drawn⟩ =>
          SessionRecord.afterAnswer (joined.answerIndex suite config message.message drawn)
            (afterAccept message (store.session address) position)
      | _ => position

variable {address : Address} {store after : Store} {random rest : Randomness}

theorem prepares_of_accept {message : PreKeyMessage} {used : Option UInt32}
    {joined : SessionRecord}
    (accepted : acceptPreKeyMessage suite config address record message store random =
      ⟨.ok (used, joined), after, rest⟩) :
    Prepares suite config record joined (afterAccept message record) := by
  obtain ⟨_, _, known | new⟩ := accept_eq_ok accepted
  · obtain ⟨has, _, unchanged, _⟩ := known
    have same : afterAccept message record = id := by
      funext position
      simp only [afterAccept, has, if_true, id_eq]
    rw [same, unchanged]
    exact .stays
  · obtain ⟨hasNot, joining⟩ := new
    obtain ⟨_, signedPreKey, oneTime, drawn, state, _, _, established, rfl⟩ := join_eq_ok joining
    have same : afterAccept message record = afterBegin record := by
      funext position
      simp only [afterAccept, hasNot, Bool.false_eq_true, if_false]
    rw [same]
    exact .begun (.joined established)

theorem changes_of_decrypt {message : SignalMessage} {plaintext : Bytes}
    (decrypted : SessionRecord.decrypt suite config message record random =
      ⟨.ok plaintext, final, rest⟩) :
    Changes suite config record final
      (SessionRecord.afterAnswer (record.answerIndex suite config message random)) := by
  obtain ⟨state, answer, searched, answers, _, rfl⟩ := SessionRecord.decrypt_eq_ok decrypted
  obtain ⟨_, succeeded⟩ := answers.succeeded
  have index_eq : record.answerIndex suite config message random = answer.index := by
    rw [SessionRecord.answerIndex, searched]
  rw [index_eq]
  exact .answered answers.found (.read succeeded)

end Session

namespace Operation

/-- Where the state at a position of the record of an address is after an operation. -/
def follow (suite : Suite) (config : Config) (operation : Operation) (store : Store)
    (random : Randomness) (address : Address) (position : Nat) : Nat :=
  match operation with
  | processBundle peer bundle =>
      if peer = address ∧
          (Session.processBundle suite config peer bundle store random).result.isOk then
        Session.afterBegin (store.session address) position
      else position
  | processPreKeyMessage peer message =>
      if peer = address ∧
          (Session.processPreKeyMessage suite config peer message store random).result.isOk then
        Session.afterAccept message (store.session address) position
      else position
  | encrypt _ _ => position
  | decrypt peer message receiver =>
      if peer = address ∧
          (Session.decrypt suite config peer message receiver store random).result.isOk then
        Session.afterDecrypt suite config address store random position message
      else position
  | maintain _ => position

variable {address : Address} {store after : Store} {random rest : Randomness}

theorem moves_of_unchanged (unchanged : after.session address = store.session address) :
    Moves suite config (store.session address) (after.session address) id := by
  rw [unchanged]
  exact .of_changes .stays

/-- An operation on the record of `peer` that fails, or is about another record, moves nothing. -/
theorem moves_of_step {α : Type} {step : Step Store α} {peer : Address} {place : Nat → Nat}
    (failing : ∀ failure, (step store random).result = .error failure →
      (step store random).state.session address = store.session address)
    (elsewhere : ∀ value, (step store random).result = .ok value → address ≠ peer →
      (step store random).state.session address = store.session address)
    (here : ∀ value, (step store random).result = .ok value → peer = address →
      Moves suite config (store.session address)
        ((step store random).state.session address) place) :
    Moves suite config (store.session address) ((step store random).state.session address)
      fun position =>
        if peer = address ∧ (step store random).result.isOk then place position else position := by
  cases outcome : (step store random).result with
  | error failure =>
      have notOk : (Except.error failure : Except Failure α).isOk = false := rfl
      simp only [notOk, Bool.false_eq_true, and_false, if_false]
      exact moves_of_unchanged (failing failure outcome)
  | ok value =>
      have isOk : (Except.ok value : Except Failure α).isOk = true := rfl
      by_cases same : peer = address
      · simp only [same, isOk, and_self, if_true]
        exact here value outcome same
      · simp only [same, false_and, if_false]
        exact moves_of_unchanged (elsewhere value outcome (Ne.symm same))

theorem moves_processBundle (peer : Address) (bundle : PreKeyBundle) :
    Moves suite config (store.session address)
      (((processBundle peer bundle).after suite config store random).session address)
      ((processBundle peer bundle).follow suite config store random address) := by
  apply moves_of_step
  · intro failure failed
    rw [Session.atomic_processBundle store random failure failed]
  · intro _ succeeded different
    obtain ⟨_, _, _, _, _, _, stored⟩ := Session.processBundle_eq_ok.mp (Outcome.eq_of_result succeeded)
    rw [stored, Store.session_putSession_of_ne _ _ different, Store.session_putIdentity]
  · rintro _ succeeded rfl
    obtain ⟨_, state, _, _, _, established, stored⟩ :=
      Session.processBundle_eq_ok.mp (Outcome.eq_of_result succeeded)
    rw [stored, Store.session_putSession]
    exact .of_prepares (.begun (.initiated established))

theorem moves_processPreKeyMessage (peer : Address) (message : PreKeyMessage) :
    Moves suite config (store.session address)
      (((processPreKeyMessage peer message).after suite config store random).session address)
      ((processPreKeyMessage peer message).follow suite config store random address) := by
  apply moves_of_step
  · intro failure failed
    rw [Session.atomic_processPreKeyMessage store random failure failed]
  · intro _ succeeded different
    obtain ⟨_, _, stored⟩ := Session.processPreKeyMessage_eq_ok (Outcome.eq_of_result succeeded)
    rw [stored, Store.session_putSession_of_ne _ _ different, Store.session_putIdentity]
  · rintro _ succeeded rfl
    obtain ⟨_, accepted, stored⟩ := Session.processPreKeyMessage_eq_ok (Outcome.eq_of_result succeeded)
    rw [stored, Store.session_putSession]
    exact .of_prepares (Session.prepares_of_accept accepted)

theorem moves_encrypt (peer : Address) (plaintext : Bytes) :
    Moves suite config (store.session address)
      (((encrypt peer plaintext).after suite config store random).session address)
      ((encrypt peer plaintext).follow suite config store random address) := by
  change Moves suite config (store.session address)
    ((Session.encrypt suite config peer plaintext store random).state.session address) id
  cases outcome : (Session.encrypt suite config peer plaintext store random).result with
  | error failure =>
      apply moves_of_unchanged
      rw [Session.atomic_encrypt store random failure outcome]
  | ok message =>
      obtain ⟨_, _, state, _, _, _, encrypted, stored⟩ :=
        Session.encrypt_eq_ok.mp (Outcome.eq_of_result outcome)
      rw [stored]
      by_cases same : address = peer
      · rw [same, Store.session_putSession]
        exact .of_changes (.sent (.sent encrypted))
      · apply moves_of_unchanged
        rw [Store.session_putSession_of_ne _ _ same]

theorem moves_decryptMessage (peer : Address) (message : SignalMessage) (receiver : Receiver) :
    let outcome := Session.decryptMessage suite config peer message receiver store random
    Moves suite config (store.session address) (outcome.state.session address) fun position =>
      if peer = address ∧ outcome.result.isOk then
        Session.afterDecrypt suite config address store random position (.signal message)
      else position := by
  apply moves_of_step
  · intro failure failed
    rw [Session.atomic_decryptMessage store random failure failed]
  · intro _ succeeded different
    obtain ⟨_, _, _, _, stored⟩ := Session.decryptMessage_eq_ok (Outcome.eq_of_result succeeded)
    rw [stored, Store.session_putSession_of_ne _ _ different]
  · rintro _ succeeded rfl
    obtain ⟨_, _, _, decrypted, stored⟩ := Session.decryptMessage_eq_ok (Outcome.eq_of_result succeeded)
    rw [stored, Store.session_putSession]
    exact .of_changes (Session.changes_of_decrypt decrypted)

/-- A first message that fails may pin an identity, but it moves no session. -/
theorem moves_decryptPreKeyMessage (peer : Address) (message : PreKeyMessage)
    (receiver : Receiver) :
    let outcome := Session.decryptPreKeyMessage suite config peer message receiver store random
    Moves suite config (store.session address) (outcome.state.session address) fun position =>
      if peer = address ∧ outcome.result.isOk then
        Session.afterDecrypt suite config address store random position (.preKey message)
      else position := by
  apply moves_of_step
  · intro failure failed
    rcases Session.decryptPreKeyMessage_eq_error (Outcome.eq_of_result failed) with ⟨_, unchanged⟩ |
      ⟨_, _, _, accepted⟩
    · rw [unchanged]
    · obtain ⟨_, pinned, _⟩ := Session.accept_eq_ok accepted
      rw [pinned, Store.session_putIdentity]
  · intro _ succeeded different
    obtain ⟨_, _, _, _, _, accepted, _, _, stored⟩ :=
      Session.decryptPreKeyMessage_eq_ok (Outcome.eq_of_result succeeded)
    obtain ⟨_, rfl, _⟩ := Session.accept_eq_ok accepted
    rw [stored, Session.session_withoutUsed, Store.session_putSession_of_ne _ _ different,
      Store.session_putIdentity]
  · rintro _ succeeded rfl
    obtain ⟨_, joined, _, drawn, _, accepted, decrypted, _, stored⟩ :=
      Session.decryptPreKeyMessage_eq_ok (Outcome.eq_of_result succeeded)
    rw [stored, Session.session_withoutUsed, Store.session_putSession]
    refine ⟨joined, _, _, Session.prepares_of_accept accepted,
      Session.changes_of_decrypt decrypted, ?_⟩
    funext position
    simp only [Session.afterDecrypt, accepted, Function.comp_apply]

theorem moves_maintain (upkeep : Upkeep) :
    Moves suite config (store.session address)
      (((maintain upkeep).after suite config store random).session address) id := by
  change Moves suite config _ ((upkeep.apply store).session address) id
  rcases upkeep.session_apply store address with kept | deleted
  · exact moves_of_unchanged kept
  · rw [deleted]
    exact .of_changes .deleted

theorem moves (operation : Operation) (store : Store) (random : Randomness) (address : Address) :
    Moves suite config (store.session address)
      ((operation.after suite config store random).session address)
      (operation.follow suite config store random address) := by
  cases operation with
  | processBundle peer bundle => exact moves_processBundle peer bundle
  | processPreKeyMessage peer message => exact moves_processPreKeyMessage peer message
  | encrypt peer plaintext => exact moves_encrypt peer plaintext
  | decrypt peer message receiver =>
      cases message with
      | signal message => exact moves_decryptMessage peer message receiver
      | preKey message => exact moves_decryptPreKeyMessage peer message receiver
  | maintain upkeep => exact moves_maintain upkeep

end Operation

/-- What holds of every state of a party at any time: it holds of blank states, handshakes establish
it, and messages keep it. -/
theorem Reachable.forall_states {Holds : SessionState → Prop} {store : Store}
    (reachable : Reachable suite config store) (blank : Holds {})
    (begins : ∀ old new, Holds old → old.rootKey = none → Begins suite config old new → Holds new)
    (evolves : ∀ old new, Holds old → Evolves suite config old new → Holds new)
    (address : Address) : ∀ state ∈ (store.session address).states, Holds state := by
  induction reachable with
  | start identity registrationId =>
      intro state member
      cases List.mem_singleton.mp member
      exact blank
  | @step store before operation random ih =>
      exact (operation.moves store random address).forall_states blank begins evolves ih

end DoubleRatchet
