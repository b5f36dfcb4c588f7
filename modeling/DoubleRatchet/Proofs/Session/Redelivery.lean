import DoubleRatchet.Proofs.Session.Identity
import DoubleRatchet.Proofs.Session.OneTime
import DoubleRatchet.Proofs.Session.Seek

/-!
# First messages that come again

A first message that has begun a session is recognised when it comes again, by the base key of the session
and its version. The session may have been archived and may have come back by then, and it may have sent
and read: it is recognised as long as its record has it. Nothing at all is changed then. The record loses a
session in two ways only: the record is deleted, or another session is begun when the archive has no
room for this one.
-/

namespace DoubleRatchet

variable {suite : Suite} {config : Config} {address : Address} {baseKey : PublicKey} {store later : Store}
  {random rest : Randomness}

/-! ## The base keys of a record -/

namespace SessionRecord

variable {record joined final : SessionRecord} {state : SessionState}

/-- A session of the record was begun with the base key. -/
def HasBase (baseKey : PublicKey) (record : SessionRecord) : Prop :=
  ∃ state ∈ record.states, state.initiatorBaseKey = some baseKey

/-- The session with the base key stays in the record when another one is begun. -/
def HasRoom (config : Config) (baseKey : PublicKey) (record : SessionRecord) : Prop :=
  ∃ state ∈ record.states.take config.maxArchivedStates, state.initiatorBaseKey = some baseKey

instance (baseKey : PublicKey) (record : SessionRecord) : Decidable (record.HasBase baseKey) :=
  inferInstanceAs (Decidable (∃ state ∈ _, _))

instance (config : Config) (baseKey : PublicKey) (record : SessionRecord) :
    Decidable (record.HasRoom config baseKey) :=
  inferInstanceAs (Decidable (∃ state ∈ _, _))

theorem not_hasBase_blank (baseKey : PublicKey) : ¬ ({} : SessionRecord).HasBase baseKey := by
  rintro ⟨state, member, isKey⟩
  rw [List.mem_singleton.mp member] at isKey
  cases isKey

theorem HasRoom.hasBase (room : record.HasRoom config baseKey) : record.HasBase baseKey := by
  obtain ⟨state, member, isKey⟩ := room
  exact ⟨state, List.mem_of_mem_take member, isKey⟩

theorem HasBase.of_setCurrent (isKey : state.initiatorBaseKey = some baseKey)
    (record : SessionRecord) : (record.setCurrent state).HasBase baseKey :=
  ⟨state, List.mem_cons_self, isKey⟩

theorem HasRoom.begun (room : record.HasRoom config baseKey)
    (blank : record.isFresh = true → record = {}) (state : SessionState) :
    ((Session.makeRoom config record).setCurrent state).HasBase baseKey := by
  have begun : ¬ record.isFresh = true := by
    intro fresh
    rw [blank fresh] at room
    exact not_hasBase_blank baseKey room.hasBase
  obtain ⟨old, member, isKey⟩ := room
  unfold Session.makeRoom
  rw [if_neg begun]
  exact ⟨old, List.mem_cons_of_mem _ member, isKey⟩

/-- A message that is sent leaves the base key of its session. -/
theorem HasBase.sent (has : record.HasBase baseKey)
    (evolves : Evolves suite config record.current state) :
    (record.setCurrent state).HasBase baseKey := by
  obtain ⟨old, member, isKey⟩ := has
  rcases List.mem_cons.mp member with rfl | older
  · exact .of_setCurrent (evolves.sameSession.baseKey_eq.trans isKey) record
  · exact ⟨old, List.mem_cons_of_mem _ older, isKey⟩

theorem HasBase.read {message : SignalMessage} {plaintext : Bytes} (has : record.HasBase baseKey)
    (short : record.archived.length ≤ config.maxArchivedStates)
    (decrypted : decrypt suite config message record random = ⟨.ok plaintext, final, rest⟩) :
    final.HasBase baseKey := by
  obtain ⟨old, member, isKey⟩ := has
  obtain ⟨state, kept, evolves⟩ := exists_evolved short member decrypted
  exact ⟨state, kept, evolves.sameSession.baseKey_eq.trans isKey⟩

section Accepted

variable {message : PreKeyMessage} {used : Option UInt32} {after : Store}
  (accepted : Session.acceptPreKeyMessage suite config address record message store random =
    ⟨.ok (used, joined), after, rest⟩)
include accepted

/-- A first message that was accepted is of a session of the record. -/
theorem hasBase_of_accept : joined.HasBase message.baseKey := by
  obtain ⟨_, _, ⟨known, _, rfl, _⟩ | ⟨_, joining⟩⟩ := Session.accept_eq_ok accepted
  · obtain ⟨state, member, isOwn⟩ := List.any_eq_true.mp known
    exact ⟨state, member, eq_of_beq (Bool.and_eq_true_iff.mp isOwn).2⟩
  · obtain ⟨_, _, _, _, _, _, _, _, rfl⟩ := Session.join_eq_ok joining
    exact .of_setCurrent rfl _

theorem HasBase.of_accept (has : record.HasBase baseKey)
    (blank : record.isFresh = true → record = {})
    (room : record.hasSession message.version message.baseKey = false →
      record.HasRoom config baseKey) : joined.HasBase baseKey := by
  obtain ⟨_, _, ⟨_, _, rfl, _⟩ | ⟨unknown, joining⟩⟩ := Session.accept_eq_ok accepted
  · exact has
  · obtain ⟨_, _, _, _, _, _, _, _, rfl⟩ := Session.join_eq_ok joining
    exact (room unknown).begun blank _

theorem length_archived_accepted (short : record.archived.length ≤ config.maxArchivedStates) :
    joined.archived.length ≤ config.maxArchivedStates := by
  obtain ⟨_, _, ⟨_, _, rfl, _⟩ | ⟨_, joining⟩⟩ := Session.accept_eq_ok accepted
  · exact short
  · obtain ⟨_, _, _, _, _, _, _, _, rfl⟩ := Session.join_eq_ok joining
    exact Session.length_archived_makeRoom short

end Accepted
end SessionRecord

/-! ## Operations that leave a session in the record -/

namespace Operation

/-- The operation can put the session with a base key out of the record of an address: it deletes the
record, or begins a session for which this one has to make room. -/
def Displaces (config : Config) (store : Store) (address : Address) (baseKey : PublicKey) :
    Operation → Prop
  | maintain upkeep => (maintain upkeep).concerns address = true
  | processBundle peer _ => peer = address ∧ ¬ (store.session address).HasRoom config baseKey
  | processPreKeyMessage peer message | decrypt peer (.preKey message) _ =>
      peer = address ∧ (store.session address).hasSession message.version message.baseKey = false ∧
        ¬ (store.session address).HasRoom config baseKey
  | encrypt _ _ | decrypt _ (.signal _) _ => False

end Operation

theorem Reachable.eq_blank_of_fresh (reachable : Reachable suite config store) (address : Address)
    (fresh : (store.session address).isFresh = true) : store.session address = {} := by
  obtain ⟨sessions, chronicle⟩ := Sessions.exists_chronicle reachable address
  obtain ⟨sound, recorded⟩ := chronicle.tells
  rw [recorded] at fresh ⊢
  unfold Sessions.record
  rw [sound.fresh_iff.mp fresh]

/-- Wherever an operation moves the states of a record, it keeps their base keys. -/
theorem hasBase_after {operation : Operation} (reachable : Reachable suite config store)
    (has : (store.session address).HasBase baseKey)
    (stays : ¬ operation.Displaces config store address baseKey) (random : Randomness) :
    ((operation.after suite config store random).session address).HasBase baseKey := by
  cases concerned : operation.concerns address with
  | false =>
      rw [Operation.session_of_elsewhere concerned]
      exact has
  | true =>
      have writes : Writes suite config store random operation _ := operation.writes store random
      generalize operation.after suite config store random = after at writes ⊢
      have blank := reachable.eq_blank_of_fresh address
      have short := reachable.length_archived_le address
      cases writes with
      | nothing => exact has
      | pinned => exact has
      | maintained upkeep => exact absurd concerned stays
      | began =>
          obtain rfl := of_decide_eq_true concerned
          rw [Store.session_putSession]
          have room : (store.session _).HasRoom config baseKey :=
            not_not.mp fun noRoom => stays ⟨rfl, noRoom⟩
          exact room.begun blank _
      | joined accepted =>
          obtain rfl := of_decide_eq_true concerned
          rw [Store.session_putSession]
          exact has.of_accept accepted blank fun unknown =>
            not_not.mp fun noRoom => stays ⟨rfl, unknown, noRoom⟩
      | sent encrypted =>
          obtain rfl := of_decide_eq_true concerned
          rw [Store.session_putSession]
          exact has.sent (.sent encrypted)
      | read decrypted =>
          obtain rfl := of_decide_eq_true concerned
          rw [Store.session_putSession]
          exact has.read short decrypted
      | joinedAndRead accepted decrypted =>
          obtain rfl := of_decide_eq_true concerned
          rw [Session.session_withoutUsed, Store.session_putSession]
          have joined := has.of_accept accepted blank fun unknown =>
            not_not.mp fun noRoom => stays ⟨rfl, unknown, noRoom⟩
          exact joined.read (SessionRecord.length_archived_accepted accepted short) decrypted

/-- The stores that a party can come to without displacing the session with a base key. -/
inductive Spares (suite : Suite) (config : Config) (address : Address) (baseKey : PublicKey)
    (store : Store) : Store → Prop where
  | here : Spares suite config address baseKey store store
  | step {later : Store} (spares : Spares suite config address baseKey store later)
      (operation : Operation) (random : Randomness)
      (stays : ¬ operation.Displaces config later address baseKey) :
      Spares suite config address baseKey store (operation.after suite config later random)

theorem Spares.leads (spares : Spares suite config address baseKey store later) :
    Leads suite config store later := by
  induction spares with
  | here => exact .here
  | step _ operation random _ ih => exact ih.step operation random

theorem Leads.reachable (leads : Leads suite config store later)
    (reachable : Reachable suite config store) : Reachable suite config later := by
  induction leads with
  | here => exact reachable
  | step _ operation random ih => exact ih.step operation random

theorem Spares.hasBase (spares : Spares suite config address baseKey store later)
    (reachable : Reachable suite config store) (has : (store.session address).HasBase baseKey) :
    (later.session address).HasBase baseKey := by
  induction spares with
  | here => exact has
  | step spares operation random stays ih =>
      exact hasBase_after (spares.leads.reachable reachable) ih stays random

/-! ## The same message again -/

theorem Store.find?_of_hasBase (has : (store.session address).HasBase baseKey) :
    store.sessions.find? address = some (store.session address) := by
  unfold session at has ⊢
  cases found : store.sessions.find? address with
  | none =>
      rw [found] at has
      exact absurd has (SessionRecord.not_hasBase_blank baseKey)
  | some record => rfl

namespace Session

variable {message : PreKeyMessage} {used : Option UInt32} {after : Store}

/-- A message that was processed has pinned its identity, and its session is in the record. -/
theorem pinned_of_process
    (processed : processPreKeyMessage suite config address message store random =
      ⟨.ok used, after, rest⟩) :
    after.identities.find? address = some message.identityKey ∧
      (after.session address).HasBase message.baseKey := by
  obtain ⟨joined, accepted, rfl⟩ := processPreKeyMessage_eq_ok processed
  constructor
  · exact Table.find?_insert_self address message.identityKey store.identities
  · rw [Store.session_putSession]
    exact SessionRecord.hasBase_of_accept accepted

/-- A message of a known session and a pinned identity changes nothing. -/
theorem processPreKeyMessage_of_known
    (pinned : store.identities.find? address = some message.identityKey)
    (known : (store.session address).hasSession message.version message.baseKey = true)
    (stored : store.sessions.find? address = some (store.session address)) (random : Randomness) :
    processPreKeyMessage suite config address message store random = ⟨.ok none, store, random⟩ := by
  have trusted := (Store.trusts_iff address store message.identityKey).mpr (.inr pinned)
  have accepted : acceptPreKeyMessage suite config address (store.session address) message store random =
      ⟨.ok (none, store.session address), store, random⟩ := by
    rw [accept_of_session trusted known, Store.putIdentity_of_find? address store pinned]
  rw [processPreKeyMessage_eq accepted]
  simp only [Store.putSession, Table.insert_of_find? stored]

end Session

/-- A first message that was processed is recognised when it comes again, whatever the party has done
meanwhile, as long as the record has its session: nothing is used or drawn, and the store is as it was.
Only a deletion of the record, or a session that is begun without room for this one, puts it out. -/
theorem redelivery_changes_nothing {data : Bytes} {message : PreKeyMessage} {used : Option UInt32}
    {after : Store} (reachable : Reachable suite config store)
    (parsed : PreKeyMessage.parse config data = .ok message)
    (processed : Session.processPreKeyMessage suite config address message store random =
      ⟨.ok used, after, rest⟩) :
    let again : Step Store (Option UInt32) := Session.processPreKeyMessage suite config address message
    (∀ later, Leads suite config after later →
      (later.session address).HasBase message.baseKey → ∀ random,
        again later random = ⟨.ok none, later, random⟩ ∧
        Locked.run again { content := later } random = ⟨.ok none, { content := later }, random⟩) ∧
      ∀ later, Spares suite config address message.baseKey after later →
        (later.session address).HasBase message.baseKey := by
  intro again
  have afterReachable : Reachable suite config after := by
    have stepped := reachable.step (.processPreKeyMessage address message) random
    have after_eq : (Operation.processPreKeyMessage address message).after suite config store random =
        after := congrArg Outcome.state processed
    rwa [after_eq] at stepped
  obtain ⟨pinned, has⟩ := Session.pinned_of_process processed
  constructor
  · intro later leads stillHas random
    have knows : later.Knows config address message := ⟨⟨data, parsed⟩, stillHas⟩
    have unchanged : again later random = ⟨.ok none, later, random⟩ :=
      Session.processPreKeyMessage_of_known (leads.keepsIdentities.known _ _ pinned)
        (knows.hasSession (leads.reachable afterReachable)) (Store.find?_of_hasBase stillHas) random
    refine ⟨unchanged, ?_⟩
    rw [Locked.run_of_free rfl, unchanged]
    rfl
  · intro later spares
    exact spares.hasBase afterReachable has

/-- The newcomer joins the session of the first call, calls back, which sends that session to the
archive, and is handed the first call again. -/
theorem archived_call_comes_again :
    let after := (Session.processPreKeyMessage Suite.additive {} .caller .firstCall .newcomer
      (.repeated 16)).state
    let later := Operation.callBack.after Suite.additive {} after (.repeated 24)
    (later.session .caller).current.initiatorBaseKey ≠ some PreKeyMessage.firstCall.baseKey ∧
      (later.session .caller).HasBase PreKeyMessage.firstCall.baseKey ∧
      Session.processPreKeyMessage Suite.additive {} .caller .firstCall later (.repeated 32) =
        ⟨.ok none, later, .repeated 32⟩ := by
  intro after later
  have parsed : PreKeyMessage.parse {} CiphertextMessage.firstCall.serialized = .ok .firstCall :=
    eq_ok_of_toOption (Option.some_get _).symm
  have isOk : (Session.processPreKeyMessage Suite.additive {} .caller .firstCall .newcomer
      (.repeated 16)).result.isOk = true := by decide +kernel
  obtain ⟨used, processed⟩ := Outcome.eq_ok_of_isOk isOk
  obtain ⟨again, stays⟩ := redelivery_changes_nothing reachable_newcomer parsed processed
  have room : ¬ Operation.callBack.Displaces {} after .caller PreKeyMessage.firstCall.baseKey := by
    rintro ⟨_, noRoom⟩
    exact noRoom (by decide +kernel)
  have has := stays later (Spares.here.step Operation.callBack (.repeated 24) room)
  have leads : Leads Suite.additive {} after later := Leads.here.step Operation.callBack (.repeated 24)
  exact ⟨by decide +kernel, has, (again later leads has (.repeated 32)).1⟩

end DoubleRatchet
