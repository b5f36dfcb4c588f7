import DoubleRatchet.Proofs.Session.Entry
import DoubleRatchet.Proofs.Session.Header
import DoubleRatchet.Proofs.Session.OneTime
import DoubleRatchet.Proofs.Store.Edits
import DoubleRatchet.Proofs.Store.Failure

/-!
# Sessions with different addresses

An operation reads and edits what its own address has in the store, and the one-time prekey that its
message names. What operations with other addresses edit makes no difference to it, so two operations
with different addresses can change places. They share one thing, the lock: when one of them aborts,
the lock refuses the other.
-/

namespace DoubleRatchet

/-! ## What an operation does not notice -/

namespace Session

variable {suite : Suite} {config : Config} {edit : Edit} {address : Address} {named : Option UInt32}
  {message : PreKeyMessage}

theorem ignores_existing (foreign : ¬edit.Within address named) :
    Step.Ignores edit.apply (existing address) := by
  apply Step.Ignores.get_bind
  · intro store
    simp only [Edit.session_apply foreign]
  · intro store
    exact (Step.ignores_throw _).ite (Step.ignores_pure _)

/-- Storing the record of the own address and answering. -/
theorem ignores_storing {α : Type} (foreign : ¬edit.Within address named) (record : SessionRecord)
    (value : α) :
    Step.Ignores edit.apply (do
      modify (Store.putSession address record)
      pure value : Step Store α) :=
  (Step.ignores_modify (Edit.putSession_apply foreign record)).bind fun _ => Step.ignores_pure value

theorem ignores_acceptBundle (foreign : ¬edit.Within address named) (bundle : PreKeyBundle) :
    Step.Ignores edit.apply (acceptBundle suite address bundle) := by
  apply Step.Ignores.get_bind
  · intro store
    simp only [Edit.trusts_apply foreign]
  intro store
  cases bundle.signedPreKey with
  | none => exact (Step.ignores_throw _).unless _
  | some signedPreKey =>
      have checking : Step.Ignores edit.apply (if suite.verify bundle.identityKey signedPreKey.encode
          bundle.signedPreKeySignature then pure signedPreKey
          else throw (.invalidKey .signedPreKeySignature) : Step Store PublicKey) :=
        (Step.ignores_pure _).ite (Step.ignores_throw _)
      exact checking.unless _

theorem ignores_processBundle (foreign : ¬edit.Within address named) (bundle : PreKeyBundle) :
    Step.Ignores edit.apply (processBundle suite config address bundle) := by
  apply (ignores_acceptBundle foreign bundle).bind
  intro signedPreKey
  apply Step.Ignores.get_bind
  · intro store
    simp only [Edit.session_apply foreign, Edit.identity_apply, Edit.registrationId_apply]
  · intro store
    apply (Step.ignores_draw _).bind
    intro base
    apply (Step.ignores_apart _ _).bind
    intro established
    apply Step.ignores_modify
    intro store
    rw [Edit.putIdentity_apply foreign, Edit.putSession_apply foreign]

/-- A one-time prekey is looked up under the number that is named. -/
theorem ignores_oneTimePair (foreign : ¬edit.Within address named) :
    Step.Ignores edit.apply (oneTimePair suite named) := by
  cases named with
  | none => exact Step.ignores_pure _
  | some id =>
      apply Step.Ignores.get_bind
      · intro store
        simp only [Edit.find?_preKeys_apply foreign]
      · intro store
        split
        · exact Step.ignores_pure _
        · exact (Step.ignores_draw _).bind fun _ => Step.ignores_pure _

theorem ignores_join (foreign : ¬edit.Within address message.preKeyId) (record : SessionRecord) :
    Step.Ignores edit.apply (join suite config record message) := by
  apply Step.Ignores.get_bind
  · intro store
    simp only [Edit.signedPreKeys_apply, Edit.identity_apply, Edit.registrationId_apply]
  · intro store
    split
    · exact Step.ignores_refuse _
    · apply (ignores_oneTimePair foreign).bind
      intro oneTime
      exact (Step.ignores_apart _ _).bind fun _ => Step.ignores_pure _

theorem ignores_acceptPreKeyMessage (foreign : ¬edit.Within address message.preKeyId)
    (record : SessionRecord) :
    Step.Ignores edit.apply (acceptPreKeyMessage suite config address record message) := by
  have pinning (result : Option UInt32 × SessionRecord) : Step.Ignores edit.apply (do
      modify (Store.putIdentity address message.identityKey)
      pure result : Step Store (Option UInt32 × SessionRecord)) :=
    (Step.ignores_modify (Edit.putIdentity_apply foreign _)).bind fun _ => Step.ignores_pure _
  have joining : Step.Ignores edit.apply (join suite config record message) :=
    ignores_join foreign record
  have known := (Step.ignores_pure (none, record)).bind pinning
  have new := joining.bind pinning
  apply Step.Ignores.get_bind
  · intro store
    simp only [Edit.trusts_apply foreign]
  · intro store
    exact (known.ite new).unless _

theorem ignores_processPreKeyMessage (foreign : ¬edit.Within address message.preKeyId) :
    Step.Ignores edit.apply (processPreKeyMessage suite config address message) := by
  apply Step.Ignores.get_bind
  · intro store
    simp only [Edit.session_apply foreign]
  · intro store
    apply (ignores_acceptPreKeyMessage foreign _).bind
    intro accepted
    exact ignores_storing foreign _ _

theorem ignores_encrypt (foreign : ¬edit.Within address named) (plaintext : Bytes) :
    Step.Ignores edit.apply (encrypt suite config address plaintext) := by
  apply (ignores_existing foreign).bind
  intro record
  apply (Step.ignores_lift _).bind
  intro identities
  have sending := (Step.ignores_apart
    (SessionState.encrypt suite config identities.1 identities.2 plaintext) record.current).bind
      fun made => ignores_storing foreign (record.setCurrent made.2) made.1
  apply Step.Ignores.get_bind
  · intro store
    simp only [Edit.trusts_apply foreign]
  · intro store
    exact sending.unless _

theorem ignores_decryptMessage (foreign : ¬edit.Within address named) (message : SignalMessage)
    (receiver : Receiver) :
    Step.Ignores edit.apply (decryptMessage suite config address message receiver) := by
  apply (ignores_existing foreign).bind
  intro record
  apply (Step.ignores_apart _ _).bind
  intro read
  apply (Step.ignores_lift _).bind
  intro taken
  exact ignores_storing foreign _ _

theorem ignores_decryptPreKeyMessage (foreign : ¬edit.Within address message.preKeyId)
    (receiver : Receiver) :
    Step.Ignores edit.apply (decryptPreKeyMessage suite config address message receiver) := by
  apply Step.Ignores.get_bind
  · intro store
    simp only [Edit.session_apply foreign]
  intro store
  apply (ignores_acceptPreKeyMessage foreign _).bind
  intro accepted
  apply (Step.ignores_apart _ _).bind
  intro read
  apply (Step.ignores_lift _).bind
  intro taken
  apply (Step.ignores_modify (Edit.putSession_apply foreign _)).bind
  intro stored
  split
  · exact Step.ignores_pure _
  · exact (Step.ignores_modify (Edit.removePreKey_apply edit _)).bind fun _ => Step.ignores_pure _

end Session

namespace Call

variable {suite : Suite} {config : Config} {operation one other : Operation} {address peer : Address}

theorem state_perform (operation : Operation) (store : Store) (random : Randomness) :
    ((session operation).perform suite config store random).state =
      operation.after suite config store random := by
  cases operation with
  | maintain => rfl
  | _ => exact congrArg Outcome.state (Step.map_run _ _ store random)

theorem ignores_perform {edit : Edit} (about : operation.peer? = some address)
    (foreign : ¬edit.Within address operation.named?) :
    Step.Ignores edit.apply ((session operation).perform suite config) := by
  cases operation with
  | maintain => cases about
  | processBundle =>
      cases about
      exact (Session.ignores_processBundle foreign _).map _
  | processPreKeyMessage =>
      cases about
      exact (Session.ignores_processPreKeyMessage foreign).map _
  | encrypt =>
      cases about
      exact (Session.ignores_encrypt foreign _).map _
  | decrypt peer message =>
      cases about
      cases message with
      | signal => exact (Session.ignores_decryptMessage foreign _ _).map _
      | preKey => exact (Session.ignores_decryptPreKeyMessage foreign _).map _

/-! ## What an operation leaves -/

/-- However an operation ends, it has made edits within its own address and the prekey it names. -/
theorem exists_edits (about : operation.peer? = some address) (store : Store)
    (random : Randomness) :
    ∃ edits, (∀ edit ∈ edits, Edit.Within address operation.named? edit) ∧
      ((session operation).perform suite config store random).state =
        Edit.applyAll edits store := by
  rw [state_perform]
  have written : Writes suite config store random operation
    (operation.after suite config store random) := operation.writes store random
  generalize operation.after suite config store random = after at written
  cases written with
  | nothing => exact ⟨[], List.forall_mem_nil _, rfl⟩
  | maintained => cases about
  | @pinned _ message =>
      cases about
      exact ⟨[.pin address message.identityKey], by simp [Edit.Within], rfl⟩
  | @began _ bundle =>
      cases about
      exact ⟨[.pin address bundle.identityKey, .store address _], by simp [Edit.Within], rfl⟩
  | @joined _ message _ record =>
      cases about
      exact ⟨[.pin address message.identityKey, .store address record], by simp [Edit.Within], rfl⟩
  | sent =>
      cases about
      exact ⟨[.store address _], by simp [Edit.Within], rfl⟩
  | @read _ _ _ _ record =>
      cases about
      exact ⟨[.store address record], by simp [Edit.Within], rfl⟩
  | @joinedAndRead _ message _ used _ record _ _ _ _ accepted =>
      cases about
      have isNamed : ∀ id, used = some id → message.preKeyId = some id := by
        rintro id rfl
        rcases (Session.joined_of_accept accepted).2 with impossible | ⟨_, isUsed⟩
        · cases impossible
        · exact isUsed.symm
      cases used with
      | none =>
          exact ⟨[.pin address message.identityKey, .store address record],
            by simp [Edit.Within], rfl⟩
      | some id =>
          exact ⟨[.pin address message.identityKey, .store address record, .removePreKey id],
            by simp [Edit.Within, Operation.named?, Operation.first?, isNamed id rfl], rfl⟩

theorem sameBut_run (about : operation.peer? = some address) (lock : Locked Store)
    (random : Randomness) :
    lock.content.SameBut address operation.named?
      (Locked.run ((session operation).perform suite config) lock random).state.content := by
  rcases Locked.content_run ((session operation).perform suite config) lock random with
    changed | unchanged
  · obtain ⟨edits, within, changes⟩ := exists_edits about lock.content random
    rw [changed, changes]
    exact Edit.sameBut_applyAll within lock.content
  · rw [unchanged]
    exact .refl address operation.named? lock.content

/-- Each of the two ignores the edits of the other, and the edits commute. -/
theorem exchangeable_perform (ones : one.peer? = some address) (others : other.peer? = some peer)
    (different : address ≠ peer) (unshared : ∀ id, one.named? = some id → other.named? ≠ some id)
    (store : Store) (first second : Randomness) :
    Step.Exchangeable ((session one).perform suite config) ((session other).perform suite config)
      store first second := by
  obtain ⟨edits, within, changes⟩ := exists_edits ones store first
  obtain ⟨otherEdits, otherWithin, otherChanges⟩ := exists_edits others store second
  have foreign : ∀ edit ∈ edits, ¬edit.Within peer other.named? := fun edit member =>
    Edit.not_within (within edit member) different unshared
  have otherForeign : ∀ edit ∈ otherEdits, ¬edit.Within address one.named? := fun edit member =>
    Edit.not_within (otherWithin edit member) different.symm fun id named shared =>
      unshared id shared named
  apply Step.Exchangeable.of_ignores changes otherChanges
  · exact Edit.ignores_applyAll fun edit member => ignores_perform others (foreign edit member)
  · exact Edit.ignores_applyAll fun edit member => ignores_perform ones (otherForeign edit member)
  · exact Edit.applyAll_comm within otherForeign store

end Call

/-! ## The main statement -/

/-- An operation changes nothing but the session and the identity of its own address and, if its message
names one, a one-time prekey that it removes. Two operations with different addresses that do not name
the same prekey end, in either order, as each of them does alone, and leave the same store. Under the
lock this holds unless one of them aborts; whatever comes after that one is refused. -/
theorem sessions_are_independent (suite : Suite) (config : Config) :
    (∀ (operation : Operation) (address : Address), operation.peer? = some address →
      ∀ (lock : Locked Store) (random : Randomness),
        lock.content.SameBut address operation.named?
          (Locked.run ((Call.session operation).perform suite config) lock random).state.content) ∧
    ∀ (one other : Operation) (address peer : Address),
      one.peer? = some address → other.peer? = some peer → address ≠ peer →
      (∀ id, one.named? = some id → other.named? ≠ some id) →
      ∀ (lock : Locked Store) (first second : Randomness),
        let step := (Call.session one).perform suite config
        let otherStep := (Call.session other).perform suite config
        let alone := Locked.run step lock first
        let otherAlone := Locked.run otherStep lock second
        Step.Exchangeable step otherStep lock.content first second ∧
        (isAborted alone.result = false →
          (Locked.run otherStep alone.state second).ending = otherAlone.ending) ∧
        (isAborted alone.result = false → isAborted otherAlone.result = false →
          (Locked.run otherStep alone.state second).state =
            (Locked.run step otherAlone.state first).state) ∧
        (isAborted alone.result = true →
          Locked.run otherStep alone.state second =
            ⟨.error (.refused .lockPoisoned), alone.state, second⟩) := by
  refine ⟨fun _ _ about => Call.sameBut_run about, ?_⟩
  intro one other address peer ones others different unshared lock first second
  have exchangeable : Step.Exchangeable ((Call.session one).perform suite config)
      ((Call.session other).perform suite config) lock.content first second :=
    Call.exchangeable_perform ones others different unshared lock.content first second
  refine ⟨exchangeable, Locked.ending_run_run exchangeable, Locked.state_run_run exchangeable, ?_⟩
  intro aborted
  exact Locked.run_of_poisoned (Locked.poisoned_of_aborted aborted)

/-! ### Two callers of one party -/

/-- The newcomer is called twice. One call names its one-time prekey and uses it up, the other one names
none, and it does not matter which of them is read first. -/
theorem callers_come_in_either_order :
    let friend : Address := ⟨"friend", 1⟩
    let one := Shelf.answering friend 5 3
    let other : Operation := .decrypt .caller .firstCall Receiver.accept
    let step := (Call.session one).perform Suite.additive {}
    let otherStep := (Call.session other).perform Suite.additive {}
    let lock : Locked Store := { content := .newcomer }
    let alone := Locked.run step lock (.repeated 16)
    let otherAlone := Locked.run otherStep lock (.repeated 24)
    one.peer? = some friend ∧ other.peer? = some .caller ∧ friend ≠ .caller ∧
      one.named? = some 6 ∧ other.named? = none ∧ alone.result.isOk = true ∧
      otherAlone.result.isOk = true ∧
      Step.Exchangeable step otherStep .newcomer (.repeated 16) (.repeated 24) ∧
      (Locked.run otherStep alone.state (.repeated 24)).ending = otherAlone.ending ∧
      (Locked.run otherStep alone.state (.repeated 24)).state =
        (Locked.run step otherAlone.state (.repeated 16)).state ∧
      Store.newcomer.SameBut friend (some 6) alone.state.content ∧
      alone.state.content.preKeys.find? 6 = none := by
  intro friend one other step otherStep lock alone otherAlone
  have names : one.named? = some 6 := by decide +kernel
  have namesNone : other.named? = none := by decide +kernel
  have succeeds : alone.result.isOk = true := by decide +kernel
  have otherSucceeds : otherAlone.result.isOk = true := by decide +kernel
  have completed : isAborted alone.result = false := by decide +kernel
  have otherCompleted : isAborted otherAlone.result = false := by decide +kernel
  have unshared : ∀ id, one.named? = some id → other.named? ≠ some id := by
    intro id _ shared
    rw [namesNone] at shared
    cases shared
  obtain ⟨frame, independent⟩ := sessions_are_independent Suite.additive {}
  obtain ⟨exchangeable, ends, leaves, _⟩ := independent one other friend .caller rfl rfl (by decide)
    unshared lock (.repeated 16) (.repeated 24)
  have kept := frame one friend rfl lock (.repeated 16)
  rw [names] at kept
  exact ⟨rfl, rfl, by decide, names, namesNone, succeeds, otherSucceeds, exchangeable, ends completed,
    leaves completed otherCompleted, kept, by decide +kernel⟩

/-- A party with two sessions. In the one with the caller it has come to the last counter of its
sending chain. -/
def Store.worn : Store :=
  let sending (counter : UInt32) : SessionRecord := .ofState
    { rootKey := some { key := Suite.summed 32 [7] }
      localIdentity := some (KeyPair.additive 1).publicKey
      remoteIdentity := some (KeyPair.additive 4).publicKey
      senderChain := some
        { ratchetKey := KeyPair.additive 2
          chainKey := { key := Suite.summed 32 [9], index := counter } } }
  { identity := KeyPair.additive 1
    registrationId := 1
    sessions := (Table.empty.insert .caller (sending 0xffffffff)).insert ⟨"friend", 1⟩ (sending 0) }

/-- The party can still write to its friend, but not after it has tried to write to the caller. -/
theorem last_counter_silences_the_other_session :
    let friend : Address := ⟨"friend", 1⟩
    let one : Operation := .encrypt .caller [1]
    let other : Operation := .encrypt friend [2]
    let step := (Call.session one).perform Suite.additive {}
    let otherStep := (Call.session other).perform Suite.additive {}
    let lock : Locked Store := { content := .worn }
    let alone := Locked.run step lock (.repeated 0)
    let otherAlone := Locked.run otherStep lock (.repeated 0)
    one.peer? = some .caller ∧ other.peer? = some friend ∧ Address.caller ≠ friend ∧
      one.named? = none ∧ other.named? = none ∧ otherAlone.result.isOk = true ∧
      (Locked.run otherStep alone.state (.repeated 0)).result = .error (.refused .lockPoisoned) ∧
      (Locked.run otherStep alone.state (.repeated 0)).ending ≠ otherAlone.ending := by
  intro friend one other step otherStep lock alone otherAlone
  have succeeds : otherAlone.result.isOk = true := by decide +kernel
  have poisoned : alone.state.poisoned = true := by decide +kernel
  have refused : (Locked.run otherStep alone.state (.repeated 0)).result =
      .error (.refused .lockPoisoned) := by
    rw [Locked.run_of_poisoned poisoned]
  refine ⟨rfl, rfl, by decide, rfl, rfl, succeeds, refused, ?_⟩
  intro same
  have sameResult := congrArg Prod.fst same
  dsimp only [Outcome.ending] at sameResult
  rw [refused] at sameResult
  rw [← sameResult] at succeeds
  cases succeeds

end DoubleRatchet
