import DoubleRatchet.Proofs.Handshake
import DoubleRatchet.Proofs.Session.Record
import DoubleRatchet.Proofs.Store.Lookup
import DoubleRatchet.Session.Begin

/-!
# Beginning a session, case by case

What it means that a bundle was processed, that a session was joined, and that a first message was
accepted. Joining only reads the store; accepting pins the identity of the message and changes
nothing else.
-/

namespace DoubleRatchet
namespace Session

variable {suite : Suite} {config : Config} {address : Address} {record joined : SessionRecord}
  {message : PreKeyMessage} {store after : Store} {random rest : Randomness}
  {used : Option UInt32}

/-! ## Room for a session -/

theorem rootKey_makeRoom (config : Config) (record : SessionRecord) :
    (makeRoom config record).current.rootKey = none := by
  unfold makeRoom
  cases fresh : record.isFresh with
  | true =>
      rw [if_pos rfl]
      simpa [SessionRecord.isFresh, SessionState.isInitialized] using fresh
  | false => rfl

/-- A record with room has a blank current state, or the fresh one that it had. -/
theorem current_makeRoom (config : Config) (record : SessionRecord) :
    (makeRoom config record).current = {} ∨ (makeRoom config record).current = record.current := by
  unfold makeRoom
  split
  · exact .inr rfl
  · exact .inl rfl

/-- If a state in which nothing was begun is blank, so is the room. -/
theorem current_makeRoom_of_blank (config : Config) {record : SessionRecord}
    (blank : record.isFresh = true → record.current = {}) :
    (makeRoom config record).current = {} := by
  unfold makeRoom
  split
  · rename_i fresh
    exact blank fresh
  · rfl

/-- Where the state at a position is once a session was begun. -/
def afterBegin (record : SessionRecord) (position : Nat) : Nat :=
  if record.isFresh then position else position + 1

theorem states_makeRoom_cut (config : Config) (record : SessionRecord) (state : SessionState) :
    ((makeRoom config record).setCurrent state).states <+:
      state :: if record.isFresh then record.archived else record.states := by
  unfold makeRoom
  split
  · exact List.prefix_refl _
  · exact (List.prefix_cons_inj _).mpr (List.take_prefix _ _)

theorem mem_states_makeRoom {state other : SessionState}
    (member : other ∈ ((makeRoom config record).setCurrent state).states) :
    other = state ∨ other ∈ record.states := by
  have inAll := (states_makeRoom_cut config record state).subset member
  refine (List.mem_cons.mp inAll).imp_right fun older => ?_
  split at older
  · exact List.mem_cons_of_mem _ older
  · exact older

/-- Where base keys differ, they differ after a session with a new base key was begun. -/
theorem nodup_makeRoom {state : SessionState}
    (distinct : (record.states.map SessionState.initiatorBaseKey).Nodup)
    (unknown : ∀ old ∈ record.states, old.initiatorBaseKey ≠ state.initiatorBaseKey)
    (config : Config) : (((makeRoom config record).setCurrent state).states.map
      SessionState.initiatorBaseKey).Nodup := by
  have cut := states_makeRoom_cut config record state
  refine List.Nodup.sublist (cut.sublist.map _) ?_
  have older : (if record.isFresh then record.archived else record.states).Sublist record.states := by
    split
    · exact List.sublist_cons_self _ _
    · exact List.Sublist.refl _
  rw [List.map_cons, List.nodup_cons]
  refine ⟨fun listed => ?_, distinct.sublist (older.map _)⟩
  obtain ⟨old, member, same⟩ := List.mem_map.mp listed
  exact unknown old (older.subset member) same

theorem getElem?_makeRoom {state other : SessionState} {position : Nat}
    (found : ((makeRoom config record).setCurrent state).states[afterBegin record position]? =
      some other) :
    record.isFresh = true ∧ position = 0 ∨ record.states[position]? = some other := by
  have inAll := SessionRecord.getElem?_of_cut (states_makeRoom_cut config record state) found
  unfold afterBegin at inAll
  cases fresh : record.isFresh with
  | false =>
      rw [fresh] at inAll
      exact .inr inAll
  | true =>
      rw [fresh] at inAll
      cases position with
      | zero => exact .inl ⟨rfl, rfl⟩
      | succ position => exact .inr inAll

/-! ## First messages -/

/-- The state of a joined session: what the handshake left, with what the message announced. -/
def joinedState (store : Store) (message : PreKeyMessage) (state : SessionState) : SessionState :=
  { state with
    localRegistrationId := store.registrationId
    remoteRegistrationId := message.registrationId
    initiatorBaseKey := some message.baseKey }

/-- The keys with which a party joins a session. -/
def responderKeys (store : Store) (message : PreKeyMessage) (signedPreKey : SignedPreKeyRecord)
    (oneTime : Option KeyPair) : Handshake.Responder :=
  { ourIdentity := store.identity
    ourSignedPreKey := signedPreKey.keyPair
    ourOneTimePreKey := oneTime
    ourRatchet := signedPreKey.keyPair
    theirIdentity := message.identityKey
    theirBase := message.baseKey }

theorem reading_oneTimePair (preKeyId : Option UInt32) :
    Step.Reading (oneTimePair suite preKeyId) := by
  cases preKeyId with
  | none => exact Step.reading_pure _
  | some id =>
      apply Step.reading_get.bind
      intro store
      split
      · exact Step.reading_pure _
      · exact (Step.reading_draw _).bind fun _ => Step.reading_pure _

theorem used_of_oneTimePair {preKeyId : Option UInt32} {oneTime : Option KeyPair}
    (found : oneTimePair suite preKeyId store random = ⟨.ok (oneTime, used), after, rest⟩) :
    used = none ∨ used = preKeyId := by
  unfold oneTimePair at found
  cases preKeyId with
  | none =>
      cases found
      exact .inl rfl
  | some id =>
      dsimp only at found
      rw [Step.get_bind] at found
      cases stored : store.preKeys.find? id with
      | none =>
          rw [stored] at found
          cases found
          exact .inl rfl
      | some record =>
          rw [stored] at found
          cases found
          exact .inr rfl

theorem reading_join : Step.Reading (join suite config record message) := by
  apply Step.reading_get.bind
  intro store
  split
  · exact Step.reading_refuse _
  · apply (reading_oneTimePair _).bind
    intro oneTime
    exact (Step.reading_apart _ _).bind fun _ => Step.reading_pure _

theorem join_eq_ok
    (succeeded : join suite config record message store random =
      ⟨.ok (used, joined), after, rest⟩) :
    after = store ∧ ∃ signedPreKey oneTime drawn state,
      store.signedPreKeys.find? message.signedPreKeyId = some signedPreKey ∧
      oneTimePair suite message.preKeyId store random = ⟨.ok (oneTime, used), store, drawn⟩ ∧
      (responderKeys store message signedPreKey oneTime).establish suite
        (makeRoom config record).current drawn = ⟨.ok (), state, rest⟩ ∧
      joined = (makeRoom config record).setCurrent (joinedState store message state) := by
  have unchanged : after = store := by
    have reading : Step.Reading (join suite config record message) := reading_join
    have same := reading store random
    rwa [succeeded] at same
  refine ⟨unchanged, ?_⟩
  unfold join at succeeded
  obtain ⟨_, _, _, got, found⟩ := Step.bind_eq_ok.mp succeeded
  cases got
  cases signed : store.signedPreKeys.find? message.signedPreKeyId with
  | none =>
      rw [signed] at found
      cases found
  | some signedPreKey =>
      rw [signed] at found
      obtain ⟨⟨oneTime, drawnId⟩, middle, drawn, pair, paired⟩ := Step.bind_eq_ok.mp found
      have reading : Step.Reading (oneTimePair suite message.preKeyId) := reading_oneTimePair _
      have middleSame : middle = store := by
        have same := reading store random
        rwa [pair] at same
      rw [middleSame] at pair paired
      obtain ⟨⟨_, state⟩, _, _, begun, stored⟩ := Step.bind_eq_ok.mp paired
      obtain ⟨_, established⟩ := Step.apart_eq_ok.mp begun
      cases stored
      exact ⟨signedPreKey, oneTime, drawn, state, rfl, pair, established, rfl⟩

/-- Accepting is all that changes the store: an accepted message pins its identity. -/
theorem accept_eq_ok
    (succeeded : acceptPreKeyMessage suite config address record message store random =
      ⟨.ok (used, joined), after, rest⟩) :
    store.trusts address message.identityKey = true ∧
      after = store.putIdentity address message.identityKey ∧
      (record.hasSession message.version message.baseKey = true ∧ used = none ∧
          joined = record ∧ rest = random ∨
        record.hasSession message.version message.baseKey = false ∧
          join suite config record message store random = ⟨.ok (used, joined), store, rest⟩) := by
  unfold acceptPreKeyMessage at succeeded
  obtain ⟨_, _, _, got, checked⟩ := Step.bind_eq_ok.mp succeeded
  cases got
  cases trusted : store.trusts address message.identityKey with
  | false =>
      simp only [trusted, Bool.not_false, if_true] at checked
      cases checked
  | true =>
      simp only [trusted, Bool.not_true, Bool.false_eq_true, if_false] at checked
      cases known : record.hasSession message.version message.baseKey with
      | true =>
          simp only [known, if_true] at checked
          cases checked
          exact ⟨rfl, rfl, .inl ⟨rfl, rfl, rfl, rfl⟩⟩
      | false =>
          simp only [known, Bool.false_eq_true, if_false] at checked
          obtain ⟨result, middle, drawn, joining, pinned⟩ := Step.bind_eq_ok.mp checked
          have reading : Step.Reading (join suite config record message) := reading_join
          have middleSame : middle = store := by
            have same := reading store random
            rwa [joining] at same
          rw [middleSame] at joining pinned
          cases pinned
          exact ⟨rfl, rfl, .inr ⟨rfl, joining⟩⟩

theorem atomic_accept :
    Step.Atomic (acceptPreKeyMessage suite config address record message) := by
  apply Step.reading_get.bind_atomic
  intro store
  dsimp only
  split
  · apply (Step.reading_refuse _).bind_atomic
    intro _
    split
    · exact (Step.reading_pure _).bind_atomic fun _ => Step.atomic_modify _ _
    · exact reading_join.bind_atomic fun _ => Step.atomic_modify _ _
  · split
    · exact (Step.reading_pure _).bind_atomic fun _ => Step.atomic_modify _ _
    · exact reading_join.bind_atomic fun _ => Step.atomic_modify _ _

/-- Joining without reading stores the joined record. -/
theorem processPreKeyMessage_eq_ok
    (succeeded : processPreKeyMessage suite config address message store random =
      ⟨.ok used, after, rest⟩) :
    ∃ joined, acceptPreKeyMessage suite config address (store.session address) message store random =
        ⟨.ok (used, joined), store.putIdentity address message.identityKey, rest⟩ ∧
      after = (store.putIdentity address message.identityKey).putSession address joined := by
  unfold processPreKeyMessage at succeeded
  rw [Step.get_bind] at succeeded
  obtain ⟨⟨usedId, joined⟩, pinned, drawn, accepted, storing⟩ := Step.bind_eq_ok.mp succeeded
  obtain ⟨_, rfl, _⟩ := accept_eq_ok accepted
  cases storing
  exact ⟨joined, accepted, rfl⟩

theorem atomic_processPreKeyMessage :
    Step.Atomic (processPreKeyMessage suite config address message) := by
  apply Step.reading_get.bind_atomic
  intro store
  apply atomic_accept.bind_total
  intro joined store random failure failed
  cases failed

/-! ## Bundles -/

/-- The keys with which a party begins a session. -/
def initiatorKeys (store : Store) (bundle : PreKeyBundle) (signedPreKey : PublicKey)
    (base : KeyPair) : Handshake.Initiator :=
  { ourIdentity := store.identity
    ourBase := base
    theirIdentity := bundle.identityKey
    theirSignedPreKey := signedPreKey
    theirOneTimePreKey := bundle.preKey
    theirRatchet := signedPreKey }

/-- The state of a session that was begun: what the handshake left, with what is to be announced. -/
def announcing (store : Store) (bundle : PreKeyBundle) (baseKey : PublicKey)
    (state : SessionState) : SessionState :=
  { state with
    pending := some
      { preKeyId := if bundle.preKey.isSome then bundle.preKeyId else none
        signedPreKeyId := bundle.signedPreKeyId
        baseKey := baseKey }
    localRegistrationId := store.registrationId
    remoteRegistrationId := bundle.registrationId
    initiatorBaseKey := some baseKey }

variable {bundle : PreKeyBundle}

theorem acceptBundle_eq_ok {signedPreKey : PublicKey} :
    acceptBundle suite address bundle store random = ⟨.ok signedPreKey, after, rest⟩ ↔
      store.trusts address bundle.identityKey = true ∧
        bundle.signedPreKey = some signedPreKey ∧
        suite.verify bundle.identityKey signedPreKey.encode bundle.signedPreKeySignature = true ∧
        after = store ∧ rest = random := by
  unfold acceptBundle
  rw [Step.get_bind]
  cases trusted : store.trusts address bundle.identityKey with
  | false =>
      constructor
      · intro succeeded
        cases succeeded
      · rintro ⟨impossible, _⟩
        cases impossible
  | true =>
      simp only [Bool.not_true, Bool.false_eq_true, if_false, true_and]
      cases offered : bundle.signedPreKey with
      | none =>
          constructor
          · intro succeeded
            cases succeeded
          · rintro ⟨impossible, _⟩
            cases impossible
      | some key =>
          dsimp only
          cases verified : suite.verify bundle.identityKey key.encode
            bundle.signedPreKeySignature with
          | false =>
              constructor
              · intro succeeded
                cases succeeded
              · rintro ⟨same, impossible, _⟩
                cases same
                rw [verified] at impossible
                cases impossible
          | true =>
              constructor
              · intro succeeded
                cases succeeded
                exact ⟨rfl, verified, rfl, rfl⟩
              · rintro ⟨same, _, rfl, rfl⟩
                cases same
                rfl

theorem processBundle_eq_ok :
    processBundle suite config address bundle store random = ⟨.ok (), after, rest⟩ ↔
      ∃ signedPreKey state, store.trusts address bundle.identityKey = true ∧
        bundle.signedPreKey = some signedPreKey ∧
        suite.verify bundle.identityKey signedPreKey.encode bundle.signedPreKeySignature = true ∧
        (initiatorKeys store bundle signedPreKey (KeyPair.generate suite random).1).establish suite
          config (makeRoom config (store.session address)).current
          (KeyPair.generate suite random).2 = ⟨.ok (), state, rest⟩ ∧
        after = (store.putIdentity address bundle.identityKey).putSession address
          ((makeRoom config (store.session address)).setCurrent
            (announcing store bundle (KeyPair.generate suite random).1.publicKey state)) := by
  unfold processBundle
  constructor
  · intro succeeded
    obtain ⟨signedPreKey, _, _, accepted, beginning⟩ := Step.bind_eq_ok.mp succeeded
    obtain ⟨trusted, offered, verified, rfl, rfl⟩ := acceptBundle_eq_ok.mp accepted
    rw [Step.get_bind, Step.draw_bind] at beginning
    obtain ⟨⟨_, state⟩, _, _, begun, storing⟩ := Step.bind_eq_ok.mp beginning
    obtain ⟨rfl, established⟩ := Step.apart_eq_ok.mp begun
    cases storing
    exact ⟨signedPreKey, state, trusted, offered, verified, established, rfl⟩
  · rintro ⟨signedPreKey, state, trusted, offered, verified, established, rfl⟩
    have accepted : acceptBundle suite address bundle store random =
        ⟨.ok signedPreKey, store, random⟩ :=
      acceptBundle_eq_ok.mpr ⟨trusted, offered, verified, rfl, rfl⟩
    rw [Step.bind_of_ok accepted, Step.get_bind, Step.draw_bind]
    exact Step.bind_of_ok (Step.apart_eq_ok.mpr ⟨rfl, established⟩)

theorem reading_acceptBundle : Step.Reading (acceptBundle suite address bundle) := by
  unfold acceptBundle
  apply Step.reading_get.bind
  intro store
  cases bundle.signedPreKey with
  | none =>
      dsimp only
      split
      · apply (Step.reading_refuse _).bind
        intro _
        exact Step.reading_throw _
      · exact Step.reading_throw _
  | some signedPreKey =>
      have verified : Step.Reading (if suite.verify bundle.identityKey signedPreKey.encode
          bundle.signedPreKeySignature then pure signedPreKey
          else throw (.invalidKey .signedPreKeySignature) : Step Store PublicKey) :=
        (Step.reading_pure _).ite (Step.reading_throw _)
      dsimp only
      split
      · apply (Step.reading_refuse _).bind
        intro _
        exact verified
      · exact verified

theorem atomic_processBundle : Step.Atomic (processBundle suite config address bundle) := by
  apply reading_acceptBundle.bind_atomic
  intro signedPreKey
  apply Step.reading_get.bind_atomic
  intro store
  apply (Step.reading_draw _).bind_atomic
  intro base
  apply (Step.reading_apart _ _).bind_atomic
  intro established
  exact Step.atomic_modify_only _

end Session
end DoubleRatchet
