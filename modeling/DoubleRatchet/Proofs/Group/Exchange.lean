import DoubleRatchet.Group.Exchange
import DoubleRatchet.Proofs.Group.State
import DoubleRatchet.Proofs.Handshake
import DoubleRatchet.Proofs.Message.SenderKey
import DoubleRatchet.Proofs.Store.Lookup

/-!
# Group messages, case by case

Which state of a record answers for a key id after each change of the record, what a message that was
read leaves behind, and why a message whose key is spent is refused.
-/

namespace DoubleRatchet

namespace SenderKeyState

/-- The state of a key that was handed out, before any message. -/
def received (id iteration : UInt32) (seed : Block 32) (signingKey : PublicKey) : SenderKeyState :=
  { keyId := id
    chainKey := { iteration := iteration, seed := seed }
    signingKey := signingKey
    privateSigningKey := none }

end SenderKeyState

namespace SenderKeyRecord

variable {config : Config} {record : SenderKeyRecord} {state old : SenderKeyState}
  {states : List SenderKeyState} {keyId : UInt32}

theorem withId_eq_ok :
    record.withId keyId = .ok state ↔
      record.states.find? (fun state => state.keyId = keyId) = some state := by
  unfold withId
  cases record.states.find? fun state => state.keyId = keyId with
  | none => simp
  | some found => simp

theorem mem_of_withId (found : record.withId keyId = .ok state) : state ∈ record.states :=
  List.mem_of_find?_eq_some (withId_eq_ok.mp found)

theorem keyId_of_withId (found : record.withId keyId = .ok state) : state.keyId = keyId := by
  simpa using List.find?_some (withId_eq_ok.mp found)

theorem not_isEmpty_of_withId (found : record.withId keyId = .ok state) :
    ¬record.isEmpty = true := by
  intro empty
  have member := mem_of_withId found
  rw [List.isEmpty_iff.mp empty] at member
  cases member

theorem find?_replaceFirst_self
    (found : (states.find? fun other => other.keyId = state.keyId).isSome = true) :
    (replaceFirst state states).find? (fun other => other.keyId = state.keyId) = some state := by
  induction states with
  | nil => cases found
  | cons first rest ih =>
      by_cases same : first.keyId = state.keyId
      · simp [replaceFirst, same]
      · have restFound : (rest.find? fun other => other.keyId = state.keyId).isSome = true := by
          simpa [same] using found
        simpa [replaceFirst, same] using ih restFound

theorem find?_replaceFirst_of_ne (different : keyId ≠ state.keyId) :
    (replaceFirst state states).find? (fun other => other.keyId = keyId) =
      states.find? fun other => other.keyId = keyId := by
  induction states with
  | nil => rfl
  | cons first rest ih =>
      simp only [replaceFirst]
      split
      · rename_i same
        simp [same, different.symm]
      · simp only [List.find?_cons, ih]

/-- The replaced state answers for its key id, and the others answer as before. -/
theorem withId_update (found : record.withId state.keyId = .ok old) :
    (record.update state).withId keyId =
      if keyId = state.keyId then .ok state else record.withId keyId := by
  split
  · rename_i same
    subst same
    exact withId_eq_ok.mpr (find?_replaceFirst_self (by rw [withId_eq_ok.mp found]; rfl))
  · rename_i different
    unfold withId update
    rw [find?_replaceFirst_of_ne different]

theorem mem_replaceFirst {new : SenderKeyState} (member : state ∈ replaceFirst new states) :
    state = new ∨ state ∈ states := by
  induction states with
  | nil => cases member
  | cons first rest ih =>
      simp only [replaceFirst] at member
      split at member
      · exact (List.mem_cons.mp member).imp_right (List.mem_cons_of_mem _)
      · rcases List.mem_cons.mp member with same | later
        · exact .inr (same ▸ List.mem_cons_self)
        · exact (ih later).imp_right (List.mem_cons_of_mem _)

theorem withId_singleton (state : SenderKeyState) :
    ({ states := [state] } : SenderKeyRecord).withId state.keyId = .ok state :=
  withId_eq_ok.mpr (List.find?_cons_of_pos (decide_eq_true rfl))

theorem update_singleton (same : old.keyId = state.keyId) :
    ({ states := [old] } : SenderKeyRecord).update state = { states := [state] } :=
  congrArg SenderKeyRecord.mk (if_pos same)

/-- After a key was added, its key id is answered by it, and another key id as before or not at all. -/
theorem withId_of_add {id iteration : UInt32} {seed : Block 32} {signingKey : PublicKey}
    (found : (record.add config id iteration seed signingKey).withId keyId = .ok state) :
    (keyId = id ∧ state = .received id iteration seed signingKey) ∨
      (keyId ≠ id ∧ record.withId keyId = .ok state) := by
  have whole := (List.take_prefix _ _).find?_eq_some (withId_eq_ok.mp found)
  by_cases same : id = keyId
  · rw [List.find?_cons_of_pos (by simpa using same)] at whole
    exact .inl ⟨same.symm, (Option.some.inj whole).symm⟩
  · rw [List.find?_cons_of_neg (by simpa using same)] at whole
    exact .inr ⟨fun equal => same equal.symm, withId_eq_ok.mpr whole⟩

def keyIds (record : SenderKeyRecord) : List UInt32 :=
  record.states.map SenderKeyState.keyId

/-- The first states answer for the key ids that they have, and for no other. -/
theorem find?_take (states : List SenderKeyState) (count : Nat) (keyId : UInt32) :
    (states.take count).find? (fun state => state.keyId = keyId) =
      if keyId ∈ (states.map SenderKeyState.keyId).take count then
        states.find? fun state => state.keyId = keyId
      else none := by
  split
  · rename_i isFirst
    rw [← List.map_take] at isFirst
    obtain ⟨state, member, same⟩ := List.mem_map.mp isFirst
    have found : ((states.take count).find? fun state => state.keyId = keyId).isSome = true :=
      List.find?_isSome.mpr ⟨state, member, decide_eq_true same⟩
    obtain ⟨first, first_eq⟩ := Option.isSome_iff_exists.mp found
    rw [first_eq, (List.take_prefix _ _).find?_eq_some first_eq]
  · rename_i notFirst
    rw [← List.map_take] at notFirst
    apply List.find?_eq_none.mpr
    intro state member same
    exact notFirst (List.mem_map.mpr ⟨state, member, of_decide_eq_true same⟩)

/-- After a key was added, the other key ids are answered as before, as far as there is room. -/
theorem withId_add_of_ne {id iteration : UInt32} {seed : Block 32} {signingKey : PublicKey}
    (different : keyId ≠ id) :
    (record.add config id iteration seed signingKey).withId keyId =
      if keyId ∈ record.keyIds.take (config.maxSenderKeyStates - 1) then record.withId keyId
      else .error (.noSession (.senderKeyState keyId)) := by
  unfold withId add keyIds
  cases config.maxSenderKeyStates with
  | zero => rfl
  | succ count =>
      dsimp only
      rw [List.take_succ_cons, List.find?_cons_of_neg (by simpa using different.symm), find?_take,
        Nat.add_sub_cancel]
      by_cases isKept : keyId ∈ (record.states.map SenderKeyState.keyId).take count
      · rw [if_pos isKept, if_pos isKept]
      · rw [if_neg isKept, if_neg isKept]

/-- Where there is room for one key, the first key stays. -/
theorem add_empty (positive : 0 < config.maxSenderKeyStates) (id iteration : UInt32)
    (seed : Block 32) (signingKey : PublicKey) :
    ({} : SenderKeyRecord).add config id iteration seed signingKey =
      { states := [.received id iteration seed signingKey] } :=
  congrArg SenderKeyRecord.mk (List.take_of_length_le positive)

/-- What answers for an added key id does not depend on what was there before. -/
theorem withId_add_self (record other : SenderKeyRecord) (id iteration : UInt32) (seed : Block 32)
    (signingKey : PublicKey) :
    (record.add config id iteration seed signingKey).withId id =
      (other.add config id iteration seed signingKey).withId id := by
  unfold withId add
  cases config.maxSenderKeyStates with
  | zero => rfl
  | succ limit => simp

end SenderKeyRecord

namespace Store

variable (name : SenderKeyName) (record : SenderKeyRecord) (store : Store)

@[simp] theorem senderKey_putSenderKey :
    (store.putSenderKey name record).senderKey name = record := by
  simp [senderKey, putSenderKey]

theorem senderKey_putSenderKey_of_ne {other : SenderKeyName} (different : other ≠ name) :
    (store.putSenderKey name record).senderKey other = store.senderKey other := by
  simp only [senderKey, putSenderKey, Table.find?_insert_of_ne different]

end Store

namespace Group

variable {suite : Suite} {config : Config} {name : SenderKeyName} {store after : Store}
  {message : SenderKeyMessage} {state final : SenderKeyState}
  {receiver : Receiver} {data plaintext : Bytes} {keyId : UInt32} {random rest : Randomness}

/-! ## Distribution messages -/

theorem senderKey_process (message : DistributionMessage) (store : Store) (random : Randomness) :
    (process config name message store random).state.senderKey name =
      (store.senderKey name).add config message.id message.iteration message.chainKey
        message.signingKey :=
  Store.senderKey_putSenderKey ..

/-! ## The own key -/

/-- The distribution message of a sender whose key, if it needs one, is drawn in a given way. -/
def createFrom (draw : Draw SenderKeyRecord) (name : SenderKeyName) :
    Step Store DistributionMessage := do
  let stored := (← get).senderKey name
  let record ←
    if stored.isEmpty then
      let made ← draw
      modify (Store.putSenderKey name made)
      pure made
    else pure stored
  let state ← record.newest
  DistributionMessage.make Envelope.currentVersion
    { id := state.keyId
      iteration := state.chainKey.iteration
      chainKey := state.chainKey.seed.bytes
      signingKey := state.signingKey }

/-- However a key id is drawn, the drawn key is a record of its own with a pair that signs. -/
theorem own_of_draw (draw : Draw UInt32) (random : Randomness) :
    ∃ keyId seed signingKey, KeyPair.Matches suite signingKey ∧ ((do
      let keyId ← draw
      let seed ← Randomness.draw 32
      let signingKey ← KeyPair.generate suite
      pure (.own keyId 0 seed signingKey) : Draw SenderKeyRecord) random).1 =
        .own keyId 0 seed signingKey :=
  ⟨_, _, _, KeyPair.matches_generate suite _, rfl⟩

theorem own_of_generateSenderKey (suite : Suite) (random : Randomness) :
    ∃ keyId seed signingKey, KeyPair.Matches suite signingKey ∧
      (generateSenderKey suite random).1 = .own keyId 0 seed signingKey :=
  own_of_draw generateKeyId random

theorem create_eq : create suite name = createFrom (generateSenderKey suite) name := rfl

/-- A sender without a key gets one; one with a key keeps it. The draw stays a variable, since
unfolding it means unfolding its many attempts. -/
theorem state_createFrom (draw : Draw SenderKeyRecord) (store : Store) (random : Randomness) :
    (createFrom draw name store random).state =
      if (store.senderKey name).isEmpty then store.putSenderKey name (draw random).1
      else store := by
  have announcing (record : SenderKeyRecord) : Step.Reading (do
      let state ← record.newest
      DistributionMessage.make Envelope.currentVersion
        { id := state.keyId
          iteration := state.chainKey.iteration
          chainKey := state.chainKey.seed.bytes
          signingKey := state.signingKey } : Step Store DistributionMessage) :=
    (Step.reading_lift _).bind fun _ => fun _ _ => rfl
  unfold createFrom
  rw [Step.get_bind]
  dsimp only
  split
  · rw [Step.draw_bind, Step.bind_of_ok (Step.modify_run _ _ _),
      Step.bind_of_ok (Step.pure_run _ _ _)]
    exact announcing _ _ _
  · rw [Step.bind_of_ok (Step.pure_run _ _ _)]
    exact announcing _ _ _

theorem announce_run {record : SenderKeyRecord} (newest : record.newest = .ok state) (store : Store)
    (random : Randomness) :
    (do
      let state ← record.newest
      DistributionMessage.make Envelope.currentVersion
        { id := state.keyId
          iteration := state.chainKey.iteration
          chainKey := state.chainKey.seed.bytes
          signingKey := state.signingKey } : Step Store DistributionMessage) store random =
      ⟨.ok (.handing state.keyId state.chainKey state.signingKey), store, random⟩ := by
  have looked : (liftM record.newest : Step Store SenderKeyState) store random =
      ⟨.ok state, store, random⟩ := by
    rw [Step.lift_run, newest]
  rw [Step.bind_of_ok looked]
  have made := DistributionMessage.make_handing state.keyId state.chainKey state.signingKey
  simp only [DistributionMessage.Body.handing] at made
  rw [made]
  rfl

/-- A sender with a key hands out the chain where it is. -/
theorem createFrom_of_newest (draw : Draw SenderKeyRecord)
    (newest : (store.senderKey name).newest = .ok state) (random : Randomness) :
    createFrom draw name store random =
      ⟨.ok (.handing state.keyId state.chainKey state.signingKey), store, random⟩ := by
  have notEmpty : ¬(store.senderKey name).isEmpty = true := by
    intro empty
    rw [SenderKeyRecord.newest, List.isEmpty_iff.mp empty] at newest
    cases newest
  unfold createFrom
  rw [Step.get_bind]
  dsimp only
  rw [if_neg notEmpty, Step.bind_of_ok (Step.pure_run _ _ _)]
  exact announce_run newest store random

/-- A sender without a key hands out the chain that it draws. -/
theorem createFrom_of_empty {draw : Draw SenderKeyRecord}
    (empty : (store.senderKey name).isEmpty = true) (newest : (draw random).1.newest = .ok state) :
    createFrom draw name store random =
      ⟨.ok (.handing state.keyId state.chainKey state.signingKey),
        store.putSenderKey name (draw random).1, (draw random).2⟩ := by
  unfold createFrom
  rw [Step.get_bind]
  dsimp only
  rw [if_pos empty, Step.draw_bind, Step.bind_of_ok (Step.modify_run _ _ _),
    Step.bind_of_ok (Step.pure_run _ _ _)]
  exact announce_run newest _ _

/-- The message that a state makes of a text, and the state after it. -/
theorem encryptWith_eq_ok {sent : Bytes}
    (encrypted : encryptWith suite config plaintext state random = ⟨.ok sent, final, rest⟩) :
    ∃ (ciphertext : Bytes) (body : SenderKeyMessage.Body) (key : PrivateKey) (noise : Block 64)
      (next : SenderChainKey),
      suite.sealText config (state.chainKey.messageKey suite).cipherKey
          (state.chainKey.messageKey suite).vector.bytes plaintext
          (associatedData state.keyId state.chainKey.iteration) = .ok ciphertext ∧
        body = { keyId := state.keyId, iteration := state.chainKey.iteration, ciphertext } ∧
        state.requirePrivateKey = .ok key ∧
        sent = (SenderKeyMessage.signed body
          (suite.sign key (SenderKeyMessage.covered body) noise)).serialized ∧
        state.chainKey.next suite = .ok next ∧ final = { state with chainKey := next } := by
  unfold encryptWith at encrypted
  rw [Step.get_bind] at encrypted
  obtain ⟨ciphertext, sealed, signing⟩ := Step.lift_bind_eq_ok.mp encrypted
  obtain ⟨key, signs, making⟩ := Step.lift_bind_eq_ok.mp signing
  rw [Step.draw_bind, SenderKeyMessage.make_run] at making
  obtain ⟨next, moved, settled⟩ := Step.lift_bind_eq_ok.mp making
  cases settled
  exact ⟨ciphertext, _, key, _, next, sealed, rfl, signs, rfl, moved, rfl⟩

theorem encrypt_of_none (states : (store.senderKey name).states = []) (random : Randomness) :
    encrypt suite config name plaintext store random =
      ⟨.error (.noSession (.senderKey name)), store, random⟩ := by
  unfold encrypt
  rw [Step.get_bind]
  dsimp only
  rw [states]
  rfl

/-- The newest state makes the message and is replaced by what it becomes. -/
theorem encrypt_of_newest {older : List SenderKeyState}
    (states : (store.senderKey name).states = state :: older) (random : Randomness) :
    encrypt suite config name plaintext store random =
      match encryptWith suite config plaintext state random with
      | ⟨.ok message, final, rest⟩ =>
          ⟨.ok message, store.putSenderKey name { states := final :: older }, rest⟩
      | ⟨.error failure, _, rest⟩ => ⟨.error failure, store, rest⟩ := by
  unfold encrypt
  rw [Step.get_bind]
  dsimp only
  rw [states]
  dsimp only
  rcases sent : encryptWith suite config plaintext state random with
    ⟨failure | message, final, rest⟩
  · rw [Step.bind_of_error (Step.apart_eq_error.mpr ⟨rfl, final, sent⟩)]
  · rw [Step.bind_of_ok (Step.apart_eq_ok.mpr ⟨rfl, sent⟩)]
    rfl

/-- Sending moves the chain of the newest state; a failure changes nothing. -/
theorem state_encrypt (suite : Suite) (config : Config) (name : SenderKeyName) (plaintext : Bytes)
    (store : Store) (random : Randomness) :
    (encrypt suite config name plaintext store random).state = store ∨
      ∃ state next, (store.senderKey name).withId state.keyId = .ok state ∧
        state.chainKey.next suite = .ok next ∧
        (encrypt suite config name plaintext store random).state =
          store.putSenderKey name
            ((store.senderKey name).update { state with chainKey := next }) := by
  cases states : (store.senderKey name).states with
  | nil =>
      rw [encrypt_of_none states]
      exact .inl rfl
  | cons state older =>
      rw [encrypt_of_newest states]
      rcases sent : encryptWith suite config plaintext state random with ⟨failure | message, final, rest⟩
      · exact .inl rfl
      · obtain ⟨_, _, _, _, next, _, _, _, _, moved, rfl⟩ := encryptWith_eq_ok sent
        refine .inr ⟨state, next, SenderKeyRecord.withId_eq_ok.mpr ?_, moved, ?_⟩
        · rw [states]
          exact List.find?_cons_of_pos (decide_eq_true rfl)
        · simp only [SenderKeyRecord.update, states, SenderKeyRecord.replaceFirst, if_true]

theorem atomic_encrypt : Step.Atomic (encrypt suite config name plaintext) := by
  intro store random failure
  cases states : (store.senderKey name).states with
  | nil =>
      rw [encrypt_of_none states]
      exact fun _ => rfl
  | cons state older =>
      rw [encrypt_of_newest states]
      rcases encryptWith suite config plaintext state random with ⟨reason | message, final, rest⟩
      · exact fun _ => rfl
      · exact fun impossible => nomatch impossible

/-! ## Reading -/

theorem decryptWith_eq_ok
    (read : decryptWith suite config message state random = ⟨.ok plaintext, final, rest⟩) :
    message.verifySignature suite state.signingKey = true ∧
      ∃ key, SenderKeyState.Gives suite config message.iteration state key final := by
  unfold decryptWith at read
  rw [Step.get_bind] at read
  cases verified : message.verifySignature suite state.signingKey with
  | false =>
      simp only [verified, Bool.not_false, if_true] at read
      cases read
  | true =>
      simp only [verified, Bool.not_true, Bool.false_eq_true, if_false] at read
      obtain ⟨key, _, _, given, opening⟩ := Step.bind_eq_ok.mp read
      simp only [Step.lift_run, Outcome.mk.injEq] at opening
      obtain ⟨_, rfl, _⟩ := opening
      exact ⟨rfl, key, SenderKeyState.gives_of_messageKey given⟩

theorem drawless_decryptWith : Step.Drawless (decryptWith suite config message) := by
  apply Step.drawless_get.bind
  intro state
  have giving : Step.Drawless (do
      let key ← SenderKeyState.messageKey suite config message.iteration
      suite.openText config key.cipherKey key.vector.bytes message.ciphertext
        (associatedData message.keyId message.iteration) : Step SenderKeyState Bytes) :=
    (SenderKeyState.drawless_messageKey _).bind fun _ => Step.drawless_lift _
  dsimp only
  split
  · exact (Step.drawless_throw _).bind fun _ => giving
  · exact giving

/-- What a state does with a message that it knows the signature of, once it has the key. -/
theorem decryptWith_of_verified (verified : message.verifySignature suite state.signingKey = true)
    (random : Randomness) :
    decryptWith suite config message state random =
      (do
        let key ← SenderKeyState.messageKey suite config message.iteration
        suite.openText config key.cipherKey key.vector.bytes message.ciphertext
          (associatedData message.keyId message.iteration) : Step SenderKeyState Bytes)
        state random := by
  unfold decryptWith
  rw [Step.get_bind]
  simp only [verified, Bool.not_true, Bool.false_eq_true, if_false]

/-- A state with a spent key refuses the message, and says so if the signature is its own. -/
theorem decryptWith_of_spent (spent : state.Spent message.iteration) (random : Randomness) :
    decryptWith suite config message state random =
      ⟨.error (if message.verifySignature suite state.signingKey then
          .refused (.duplicateMessage state.chainKey.iteration message.iteration)
        else .invalidMessage .badSignature), state, random⟩ := by
  cases verified : message.verifySignature suite state.signingKey with
  | false =>
      unfold decryptWith
      rw [Step.get_bind, verified]
      rfl
  | true =>
      rw [decryptWith_of_verified verified]
      exact Step.bind_of_error (SenderKeyState.messageKey_of_spent spent random)

theorem decrypt_eq_ok :
    decrypt suite config name data receiver store random = ⟨.ok plaintext, after, rest⟩ ↔
      ∃ message state final, SenderKeyMessage.parse data = .ok message ∧
        (store.senderKey name).withId message.keyId = .ok state ∧
        decryptWith suite config message state random = ⟨.ok plaintext, final, rest⟩ ∧
        receiver plaintext = .ok () ∧
        after = store.putSenderKey name ((store.senderKey name).update final) := by
  unfold decrypt
  rw [Step.get_bind]
  constructor
  · intro succeeded
    dsimp only at succeeded
    split at succeeded
    · cases succeeded
    · obtain ⟨message, parsed, finding⟩ := Step.check_bind_eq_ok.mp succeeded
      obtain ⟨state, found, reading⟩ := Step.lift_bind_eq_ok.mp finding
      obtain ⟨⟨text, final⟩, _, _, attempt, receiving⟩ := Step.bind_eq_ok.mp reading
      obtain ⟨rfl, read⟩ := Step.apart_eq_ok.mp attempt
      obtain ⟨_, accepted, storing⟩ := Step.lift_bind_eq_ok.mp receiving
      cases storing
      exact ⟨message, state, final, parsed, found, read, accepted, rfl⟩
  · rintro ⟨message, state, final, parsed, found, read, accepted, rfl⟩
    dsimp only
    rw [if_neg (SenderKeyRecord.not_isEmpty_of_withId found)]
    refine Step.check_bind_eq_ok.mpr ⟨message, parsed, Step.lift_bind_eq_ok.mpr ⟨state, found, ?_⟩⟩
    rw [Step.bind_of_ok (Step.apart_eq_ok.mpr ⟨rfl, read⟩)]
    exact Step.lift_bind_eq_ok.mpr ⟨(), accepted, rfl⟩

/-- What a member does with a message once its record has answered. -/
theorem atomic_reading (store : Store) : Step.Atomic (do
    let message ← SenderKeyMessage.parse data
    let state ← (store.senderKey name).withId message.keyId
    let (plaintext, state) ← Step.apart (decryptWith suite config message) state
    receiver plaintext
    modify (Store.putSenderKey name ((store.senderKey name).update state))
    pure plaintext : Step Store Bytes) := by
  apply Step.Reading.bind_atomic fun _ _ => rfl
  intro message
  apply (Step.reading_lift _).bind_atomic
  intro state
  apply (Step.reading_apart _ _).bind_atomic
  intro read
  apply (Step.reading_lift _).bind_atomic
  intro _
  exact Step.atomic_modify _ _

/-- A message that is not read changes nothing. -/
theorem atomic_decrypt : Step.Atomic (decrypt suite config name data receiver) := by
  apply Step.reading_get.bind_atomic
  intro store
  dsimp only
  split
  · exact (Step.reading_throw _).bind_atomic fun _ => atomic_reading store
  · exact atomic_reading store

theorem decrypt_of_empty (empty : (store.senderKey name).isEmpty = true) (receiver : Receiver)
    (random : Randomness) :
    decrypt suite config name data receiver store random =
      ⟨.error (.noSession (.senderKey name)), store, random⟩ := by
  unfold decrypt
  rw [Step.get_bind]
  dsimp only
  rw [if_pos empty]
  rfl

/-- What a record with some key does with a message that reads. -/
theorem decrypt_of_parsed (parsed : SenderKeyMessage.parse data = .ok message)
    (notEmpty : ¬(store.senderKey name).isEmpty = true) (receiver : Receiver) (random : Randomness) :
    decrypt suite config name data receiver store random =
      (do
        let state ← (store.senderKey name).withId message.keyId
        let (plaintext, state) ← Step.apart (decryptWith suite config message) state
        receiver plaintext
        modify (Store.putSenderKey name ((store.senderKey name).update state))
        pure plaintext : Step Store Bytes) store random := by
  have checked : (liftM (SenderKeyMessage.parse data) : Step Store SenderKeyMessage) store random =
      ⟨.ok message, store, random⟩ := by
    rw [parsed]
    rfl
  unfold decrypt
  rw [Step.get_bind]
  dsimp only
  rw [if_neg notEmpty, Step.bind_of_ok checked]

theorem decrypt_of_found (parsed : SenderKeyMessage.parse data = .ok message)
    (found : (store.senderKey name).withId message.keyId = .ok state) (receiver : Receiver)
    (random : Randomness) :
    decrypt suite config name data receiver store random =
      (do
        let (plaintext, state) ← Step.apart (decryptWith suite config message) state
        receiver plaintext
        modify (Store.putSenderKey name ((store.senderKey name).update state))
        pure plaintext : Step Store Bytes) store random := by
  rw [decrypt_of_parsed parsed (SenderKeyRecord.not_isEmpty_of_withId found),
    Step.bind_of_ok (by rw [Step.lift_run, found])]

theorem decrypt_of_missing {failure : Failure} (parsed : SenderKeyMessage.parse data = .ok message)
    (notEmpty : ¬(store.senderKey name).isEmpty = true)
    (missing : (store.senderKey name).withId message.keyId = .error failure) (receiver : Receiver)
    (random : Randomness) :
    decrypt suite config name data receiver store random = ⟨.error failure, store, random⟩ := by
  rw [decrypt_of_parsed parsed notEmpty, Step.bind_of_error (by rw [Step.lift_run, missing])]

/-- What the state that answers for a message refuses is refused, and changes nothing. -/
theorem decrypt_of_failed {failure : Failure} (parsed : SenderKeyMessage.parse data = .ok message)
    (found : (store.senderKey name).withId message.keyId = .ok state)
    (failed : decryptWith suite config message state random = ⟨.error failure, final, rest⟩)
    (receiver : Receiver) :
    decrypt suite config name data receiver store random = ⟨.error failure, store, rest⟩ := by
  rw [decrypt_of_found parsed found,
    Step.bind_of_error (Step.apart_eq_error.mpr ⟨rfl, final, failed⟩)]

/-- Stores in which the same state answers for a message answer the same. -/
theorem result_decrypt_of_found {other : Store} (parsed : SenderKeyMessage.parse data = .ok message)
    (found : (store.senderKey name).withId message.keyId = .ok state)
    (foundThere : (other.senderKey name).withId message.keyId = .ok state) (receiver : Receiver)
    (random : Randomness) :
    (decrypt suite config name data receiver store random).result =
      (decrypt suite config name data receiver other random).result := by
  rcases opened : decryptWith suite config message state random with ⟨failure | plaintext, final, rest⟩
  · rw [decrypt_of_failed parsed found opened, decrypt_of_failed parsed foundThere opened]
  · rw [decrypt_of_found parsed found, decrypt_of_found parsed foundThere,
      Step.bind_of_ok (Step.apart_eq_ok.mpr ⟨rfl, opened⟩),
      Step.bind_of_ok (Step.apart_eq_ok.mpr ⟨rfl, opened⟩)]
    dsimp only
    cases accepted : receiver plaintext with
    | error failure => rfl
    | ok _ => rfl

/-- A message of a key id that no state answers for, or only one with a spent key, is refused and
changes nothing. -/
theorem decrypt_of_spent (parsed : SenderKeyMessage.parse data = .ok message)
    (spent : ∀ state, (store.senderKey name).withId message.keyId = .ok state →
      state.Spent message.iteration) (receiver : Receiver) (random : Randomness) :
    ∃ failure, decrypt suite config name data receiver store random =
        ⟨.error failure, store, random⟩ ∧
      ∀ state, (store.senderKey name).withId message.keyId = .ok state →
        message.verifySignature suite state.signingKey = true →
        failure = .refused (.duplicateMessage state.chainKey.iteration message.iteration) := by
  cases found : (store.senderKey name).withId message.keyId with
  | error missing =>
      by_cases empty : (store.senderKey name).isEmpty = true
      · exact ⟨_, decrypt_of_empty empty receiver random, fun _ impossible => nomatch impossible⟩
      · exact ⟨missing, decrypt_of_missing parsed empty found receiver random,
          fun _ impossible => nomatch impossible⟩
  | ok state =>
      refine ⟨_, decrypt_of_failed parsed found (decryptWith_of_spent (spent state found) random)
        receiver, fun other same verified => ?_⟩
      cases same
      rw [if_pos verified]

end Group
end DoubleRatchet
