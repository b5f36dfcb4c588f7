import DoubleRatchet.Proofs.Session.Entry
import DoubleRatchet.Proofs.Session.Growth
import DoubleRatchet.Proofs.Session.Search

/-!
# Records that are well formed

What every record that a party stores is like: each state has all its parts, its receiving chains have
grown from their first keys, and no two states are of one session. It takes messages that were read
from bytes, and base keys that are drawn afresh. So a state that is asked to send or to read never
finds that it lacks something.
-/

namespace DoubleRatchet

variable {suite : Suite} {config : Config} {address : Address} {store : Store}
  {random rest : Randomness}

/-! ## States -/

namespace SessionState

variable {key : PublicKey} {state old new : SessionState}

structure WellFormed (suite : Suite) (config : Config) (state : SessionState) : Prop where
  rootKey : state.rootKey.isSome = true
  senderChain : state.senderChain.isSome = true
  localIdentity : state.localIdentity.isSome = true
  remoteIdentity : state.remoteIdentity.isSome = true
  baseKey : state.initiatorBaseKey.isSome = true
  version : state.version = 3
  authKey : state.authKey.key.length = 32
  hash : state.fingerprintHash.length = 64
  lastHash : state.lastFingerprintHash.length = 64
  few : state.receiverChains.length ≤ config.maxReceiverChains
  distinct : (state.receiverChains.map ReceiverChain.ratchetKey).Nodup
  grown : ∀ chain ∈ state.receiverChains, chain.Grown suite config

namespace WellFormed

theorem sound (wellFormed : state.WellFormed suite config) : state.Sound where
  distinct := wellFormed.distinct
  ordered chain member := (wellFormed.grown chain member).ordered
  blank missing := by
    have root := wellFormed.rootKey
    rw [missing] at root
    cases root
  started _ := ⟨wellFormed.senderChain, wellFormed.version⟩

theorem announcing {bundle : PreKeyBundle} {signedPreKey : PublicKey} {base : KeyPair}
    (established : (Session.initiatorKeys store bundle signedPreKey base).establish suite config {}
      random = ⟨.ok (), state, rest⟩) (baseKey : PublicKey) :
    (Session.announcing store bundle baseKey state).WellFormed suite config := by
  obtain ⟨secret, sending, _, _, rfl, _⟩ := Handshake.Initiator.establish_eq_ok.mp established
  let first : ReceiverChain :=
    { ratchetKey := signedPreKey
      chainKey := (Handshake.firstStep suite secret AuthKey.empty.key).chain }
  have isFirst : first.Grown suite config := (ReceiverChain.First.agreed secret _).grown config
  exact
    { rootKey := rfl
      senderChain := rfl
      localIdentity := rfl
      remoteIdentity := rfl
      baseKey := rfl
      version := rfl
      authKey := Block.length_eq _
      hash := Block.length_eq _
      lastHash := Block.length_eq _
      few := length_newest_le config.maxReceiverChains ([] ++ [first])
      distinct :=
        ((newest_sublist config.maxReceiverChains ([] ++ [first])).map _).nodup
          (List.nodup_singleton _)
      grown := fun chain member =>
        have isOnly := (newest_sublist config.maxReceiverChains ([] ++ [first])).subset member
        List.mem_singleton.mp isOnly ▸ isFirst }

theorem joinedState {message : PreKeyMessage} {signedPreKey : SignedPreKeyRecord}
    {oneTime : Option KeyPair}
    (established : (Session.responderKeys store message signedPreKey oneTime).establish suite {}
      random = ⟨.ok (), state, rest⟩) :
    (Session.joinedState store message state).WellFormed suite config := by
  obtain ⟨secret, _, rfl, _⟩ := Handshake.Responder.establish_eq_ok.mp established
  exact
    { rootKey := rfl
      senderChain := rfl
      localIdentity := rfl
      remoteIdentity := rfl
      baseKey := rfl
      version := rfl
      authKey := Block.length_eq _
      hash := Block.length_eq _
      lastHash := Block.length_eq _
      few := Nat.zero_le _
      distinct := List.nodup_nil
      grown := nofun }

theorem ready {ready : SessionState} (wellFormed : state.WellFormed suite config)
    (isReady : Ready suite config key state random ready rest) : ready.WellFormed suite config := by
  have sound := wellFormed.sound.ready isReady
  cases isReady with
  | known => exact wellFormed
  | turned missing turn =>
      have auth_eq : turn.auth.key = turn.sender.auth.key := by
        obtain ⟨middle, _, second⟩ := turn.advances
        rw [(AuthKey.advance_eq_ok.mp second).2]
      refine
        { rootKey := rfl
          senderChain := rfl
          localIdentity := wellFormed.localIdentity
          remoteIdentity := wellFormed.remoteIdentity
          baseKey := wellFormed.baseKey
          version := wellFormed.version
          authKey := auth_eq ▸ RootKey.length_auth_of_step turn.sends
          hash := Block.length_eq _
          lastHash := Block.length_eq _
          few := length_newest_le config.maxReceiverChains _
          distinct := sound.distinct
          grown := fun chain member => ?_ }
      rw [turn.receiverChains_turned] at member
      rcases List.mem_append.mp ((newest_sublist _ _).subset member) with older | isNew
      · exact wellFormed.grown chain older
      · rw [List.mem_singleton.mp isNew]
        exact (ReceiverChain.First.stepped turn.receives).grown config

theorem read {message : SignalMessage} {plaintext : Bytes} (wellFormed : old.WellFormed suite config)
    (decrypted : decrypt suite config message old random = ⟨.ok plaintext, new, rest⟩) :
    new.WellFormed suite config := by
  have sound := wellFormed.sound.evolves (.read decrypted)
  obtain ⟨ready, isReady, decryption, rfl⟩ := decrypt_eq_ok decrypted
  have readied := wellFormed.ready isReady
  have granted := ReceiverChain.request_eq_ok.mp decryption.granted
  refine
    { rootKey := readied.rootKey
      senderChain := readied.senderChain
      localIdentity := readied.localIdentity
      remoteIdentity := readied.remoteIdentity
      baseKey := readied.baseKey
      version := readied.version
      authKey := readied.authKey
      hash := readied.hash
      lastHash := readied.lastHash
      few := ?_
      distinct := sound.distinct
      grown := fun chain member => ?_ }
  · have same := congrArg List.length
      (ReceiverChain.map_ratchetKey_replace decryption.new ready.receiverChains)
    rw [List.length_map, List.length_map] at same
    exact Nat.le_trans (Nat.le_of_eq same) readied.few
  · rcases ReceiverChain.mem_replace member with rfl | older
    · exact (readied.grown _ (List.mem_of_find?_eq_some decryption.found)).granted granted
    · exact readied.grown chain older

theorem evolves (wellFormed : old.WellFormed suite config) (evolves : Evolves suite config old new) :
    new.WellFormed suite config := by
  cases evolves with
  | same => exact wellFormed
  | sent encrypted =>
      obtain ⟨_, _, _, _, _, _, rfl, _⟩ := encrypt_eq_ok.mp encrypted
      exact { wellFormed with senderChain := rfl }
  | read decrypted => exact wellFormed.read decrypted

/-- Every chain is the chain of its ratchet key, and every cached key the key of its counter. -/
theorem lookups (wellFormed : state.WellFormed suite config) {chain : ReceiverChain}
    (member : chain ∈ state.receiverChains) :
    state.receiverChain? chain.ratchetKey = some chain ∧
      ∀ keys ∈ chain.skipped, chain.cached? keys.counter = some keys :=
  ⟨ReceiverChain.lookup_of_mem wellFormed.distinct member,
    fun _ isCached => (wellFormed.grown chain member).ordered.cached?_of_mem isCached⟩

end WellFormed

/-! ## What a state never lacks -/

/-- The state has not got a part that it was asked for. -/
def lacksPart : Failure → Bool
  | .refused (.noSession _) => true
  | .refused (.invalidMessage .uninitializedSession) => true
  | .refused (.invalidMessage .noReceiverChain) => true
  | _ => false

theorem WellFormed.sends {ours theirs : PublicKey} {plaintext : Bytes} {failure : Failure}
    (wellFormed : state.WellFormed suite config)
    (failed : (encrypt suite config ours theirs plaintext state random).result = .error failure) :
    lacksPart failure = false := by
  rcases encrypt_eq_error failed with ⟨missing, _⟩ | ⟨_, _, ⟨_, _, _, unsealed⟩ | ⟨_, rfl⟩⟩
  · have chain := wellFormed.senderChain
    rw [missing] at chain
    cases chain
  · obtain ⟨_, rfl⟩ := Suite.sealText_eq_error unsealed
    rfl
  · rfl

/-- Where there is room for a chain, the newest one is kept. -/
theorem Turn.receiverChain?_isSome {fresh : KeyPair} (turn : Turn suite key fresh state)
    (room : 1 ≤ config.maxReceiverChains) :
    ((turn.turned suite config).receiverChain? key).isSome = true := by
  have newest_kept : ({ ratchetKey := key, chainKey := turn.receiver.chain } : ReceiverChain) ∈
      (turn.turned suite config).receiverChains := by
    rw [turn.receiverChains_turned, newest, List.length_append, List.length_singleton,
      List.drop_append_of_le_length (by omega)]
    exact List.mem_append_right _ (List.mem_singleton_self _)
  exact List.find?_isSome.mpr ⟨_, newest_kept, decide_eq_true rfl⟩

theorem WellFormed.reads {message : SignalMessage} {failure : Failure}
    (wellFormed : state.WellFormed suite config) (room : 1 ≤ config.maxReceiverChains)
    (failed : (decrypt suite config message state random).result = .error failure) :
    lacksPart failure = false := by
  have absent {α : Type} {part : Option α} (has : part.isSome = true) (missing : part = none) :
      lacksPart failure = false := by
    rw [missing] at has
    cases has
  cases decrypt_eq_error failed with
  | mute missing => exact absent wellFormed.senderChain missing
  | otherVersion => rfl
  | unturned missing failed =>
      rcases ratchet_eq_error failed with ⟨missing, _⟩ | ⟨missing, _⟩ | rfl | ⟨_, rfl⟩
      · exact absent wellFormed.rootKey missing
      · exact absent wellFormed.senderChain missing
      · rfl
      · rfl
  | refused isReady found refused =>
      rcases ReceiverChain.request_eq_error refused with ⟨_, rfl⟩ | rfl | ⟨_, rfl⟩ <;> rfl
  | dropped _ turn lost => exact absent (turn.receiverChain?_isSome room) lost
  | unidentified failed =>
      rcases identities_eq_error failed with ⟨missing, _⟩ | ⟨missing, _⟩
      · exact absent wellFormed.localIdentity missing
      · exact absent wellFormed.remoteIdentity missing
  | badMac => rfl
  | unopened failed => rcases Suite.openText_eq_error failed with ⟨_, rfl⟩ | rfl <;> rfl

end SessionState

/-! ## Records -/

namespace SessionRecord

variable {record : SessionRecord} {state old : SessionState}

/-- The archive is not too long, and no two states are of one session. -/
structure Tidy (config : Config) (record : SessionRecord) : Prop where
  archive : record.archived.length ≤ config.maxArchivedStates
  baseKeys : (record.states.map SessionState.initiatorBaseKey).Nodup

theorem tidy_blank : Tidy config {} := ⟨Nat.zero_le _, List.nodup_singleton _⟩

theorem Tidy.begin (tidy : record.Tidy config)
    (unknown : ∀ old ∈ record.states, old.initiatorBaseKey ≠ state.initiatorBaseKey) :
    ((Session.makeRoom config record).setCurrent state).Tidy config where
  archive := by
    unfold Session.makeRoom
    split
    · exact tidy.archive
    · exact List.length_take_le _ _
  baseKeys := Session.nodup_makeRoom tidy.baseKeys unknown config

theorem Tidy.setCurrent (tidy : record.Tidy config)
    (same : state.initiatorBaseKey = record.current.initiatorBaseKey) :
    (record.setCurrent state).Tidy config where
  archive := tidy.archive
  baseKeys := by
    have distinct := tidy.baseKeys
    rw [states, List.map_cons, ← same] at distinct
    exact distinct

theorem Tidy.answered {answer : Answer} (tidy : record.Tidy config)
    (found : record.states[answer.index]? = some old)
    (same : answer.state.initiatorBaseKey = old.initiatorBaseKey) :
    (record.answered config answer).Tidy config where
  archive := by
    unfold SessionRecord.answered
    split
    · exact tidy.archive
    · exact List.length_take_le _ _
  baseKeys := nodup_answered tidy.baseKeys found same config

structure WellFormed (suite : Suite) (config : Config) (record : SessionRecord) : Prop
    extends record.Tidy config where
  states : ∀ state ∈ record.states, state.WellFormed suite config

/-- A record of the version that messages have knows the base keys of its sessions. -/
theorem unknown_of_hasSession {version : UInt8} {baseKey : PublicKey}
    (each : record.Each (SessionState.WellFormed suite config)) (current : version = 3)
    (unknown : record.hasSession version baseKey = false) :
    ∀ old ∈ record.states, old.initiatorBaseKey ≠ some baseKey := by
  intro old member same
  have others := List.any_eq_false.mp unknown old member
  rcases each with rfl | wellFormed
  · rw [List.mem_singleton.mp member] at same
    cases same
  · apply others
    rw [(wellFormed old member).version, same, current]
    simp

end SessionRecord

/-! ## Runs -/

/-- What a party is given: first messages that were read from bytes, and base keys that none of its
sessions with the same peer has. -/
def Operation.Admissible (suite : Suite) (config : Config) (store : Store) (random : Randomness) :
    Operation → Prop
  | .processBundle peer _ => ∀ state ∈ (store.session peer).states,
      state.initiatorBaseKey ≠ some (KeyPair.generate suite random).1.publicKey
  | .processPreKeyMessage _ message => ∃ data, PreKeyMessage.parse config data = .ok message
  | .decrypt _ (.preKey message) _ => ∃ data, PreKeyMessage.parse config data = .ok message
  | _ => True

/-- The stores that a party can come to from an empty one, if it is given nothing else. -/
inductive ProperlyReachable (suite : Suite) (config : Config) : Store → Prop where
  | start (identity : KeyPair) (registrationId : UInt32) :
      ProperlyReachable suite config { identity, registrationId }
  | step {store : Store} (reachable : ProperlyReachable suite config store) (operation : Operation)
      (random : Randomness) (admissible : operation.Admissible suite config store random) :
      ProperlyReachable suite config (operation.after suite config store random)

namespace Store

variable {record : SessionRecord} {peer : Address}

/-- What is stored is well formed. -/
def WellFormed (suite : Suite) (config : Config) (store : Store) : Prop :=
  store.Records fun _ record => record.WellFormed suite config

theorem WellFormed.each (wellFormed : store.WellFormed suite config) (peer : Address) :
    (store.session peer).Each (SessionState.WellFormed suite config) :=
  (Records.blank_or wellFormed peer).imp_right SessionRecord.WellFormed.states

theorem WellFormed.tidy (wellFormed : store.WellFormed suite config) (peer : Address) :
    (store.session peer).Tidy config := by
  rcases Records.blank_or wellFormed peer with blank | stored
  · rw [blank]
    exact SessionRecord.tidy_blank
  · exact stored.toTidy

/-- A record is stored, and no other one changes. -/
theorem WellFormed.put {later : Store} (wellFormed : store.WellFormed suite config)
    (holds : record.WellFormed suite config)
    (same : later.sessions = (store.putSession peer record).sessions) :
    later.WellFormed suite config :=
  (Records.put wellFormed holds).of_sessions same

end Store

namespace Session

variable {message : PreKeyMessage} {peer : Address} {used : Option UInt32} {joined : SessionRecord}
  {after : Store}

/-- A record that is up to a first message is well formed, whether or not the session was joined. -/
theorem wellFormed_of_accept (wellFormed : store.WellFormed suite config)
    (current : message.version = 3)
    (accepted : acceptPreKeyMessage suite config peer (store.session peer) message store random =
      ⟨.ok (used, joined), after, rest⟩) : joined.WellFormed suite config where
  states := (wellFormed.each peer).accepted (fun _ wellFormed => wellFormed.rootKey) accepted
    fun _ _ _ _ _ established => .joinedState established
  toTidy := by
    have tidy := wellFormed.tidy peer
    obtain ⟨_, _, ⟨_, _, rfl, _⟩ | ⟨unknown, joining⟩⟩ := accept_eq_ok accepted
    · exact tidy
    · obtain ⟨_, _, _, _, state, _, _, _, rfl⟩ := join_eq_ok joining
      exact tidy.begin (SessionRecord.unknown_of_hasSession (wellFormed.each peer) current unknown)

end Session

theorem SessionRecord.Tidy.decrypted {record final : SessionRecord} {message : SignalMessage}
    {plaintext : Bytes} (tidy : record.Tidy config)
    (decrypted : decrypt suite config message record random = ⟨.ok plaintext, final, rest⟩) :
    final.Tidy config := by
  obtain ⟨_, _, _, answers, _, rfl⟩ := decrypt_eq_ok decrypted
  obtain ⟨_, succeeded⟩ := answers.succeeded
  exact tidy.answered answers.found (Evolves.read succeeded).sameSession.baseKey_eq

/-- Every way in which a store is left keeps its records well formed. -/
theorem Writes.wellFormed {operation : Operation} {later : Store}
    (writes : Writes suite config store random operation later)
    (admissible : operation.Admissible suite config store random)
    (wellFormed : store.WellFormed suite config) : later.WellFormed suite config := by
  have evolves (old new : SessionState) (holds : old.WellFormed suite config)
      (evolves : Evolves suite config old new) : new.WellFormed suite config := holds.evolves evolves
  cases writes with
  | nothing => exact wellFormed
  | maintained upkeep => exact Store.Records.maintain wellFormed upkeep
  | pinned => exact wellFormed
  | @began peer _ _ _ _ _ established =>
      have each := wellFormed.each peer
      rw [each.current_makeRoom fun _ holds => holds.rootKey] at established
      have tidy := wellFormed.tidy peer
      refine wellFormed.put ⟨tidy.begin fun old member => admissible old member, ?_⟩ rfl
      exact each.begin (fun _ holds => holds.rootKey) config (.announcing established _)
  | joined accepted =>
      obtain ⟨_, parsed⟩ := admissible
      have current := PreKeyMessage.version_of_parse parsed
      exact wellFormed.put (Session.wellFormed_of_accept wellFormed current accepted) rfl
  | @sent peer _ _ _ _ _ _ encrypted =>
      have same := (Evolves.sent encrypted).sameSession.baseKey_eq
      exact wellFormed.put
        ⟨(wellFormed.tidy peer).setCurrent same, (wellFormed.each peer).sent evolves encrypted⟩ rfl
  | @read peer _ _ _ _ _ decrypted =>
      have each := wellFormed.each peer
      exact wellFormed.put
        ⟨(wellFormed.tidy peer).decrypted decrypted, each.decrypted evolves decrypted⟩ rfl
  | @joinedAndRead _ _ _ used _ record _ _ _ _ accepted decrypted =>
      obtain ⟨_, parsed⟩ := admissible
      have current := PreKeyMessage.version_of_parse parsed
      have joins := Session.wellFormed_of_accept wellFormed current accepted
      have reads : record.WellFormed suite config :=
        ⟨joins.toTidy.decrypted decrypted,
          SessionRecord.Each.decrypted (.inr joins.states) evolves decrypted⟩
      cases used <;> exact wellFormed.put reads rfl

theorem ProperlyReachable.wellFormed (reachable : ProperlyReachable suite config store) :
    store.WellFormed suite config := by
  induction reachable with
  | start identity registrationId =>
      intro address record found
      cases found
  | step _ operation random admissible ih =>
      exact (operation.writes _ random).wellFormed admissible ih

/-- Every record that a party stores is well formed. So what its states are looked up by is unique, and
a state that does not send or read a message has all the parts for it. -/
theorem stored_record_wellFormed (reachable : ProperlyReachable suite config store)
    {record : SessionRecord} (found : store.sessions.find? address = some record) :
    record.WellFormed suite config ∧ ∀ state ∈ record.states,
      (∀ chain ∈ state.receiverChains, state.receiverChain? chain.ratchetKey = some chain ∧
        ∀ keys ∈ chain.skipped, chain.cached? keys.counter = some keys) ∧
      (∀ ours theirs plaintext random failure,
        (state.encrypt suite config ours theirs plaintext random).result = .error failure →
          SessionState.lacksPart failure = false) ∧
      (1 ≤ config.maxReceiverChains → ∀ message random failure,
        (state.decrypt suite config message random).result = .error failure →
          SessionState.lacksPart failure = false) := by
  have wellFormed := reachable.wellFormed address record found
  refine ⟨wellFormed, fun state member => ?_⟩
  have holds := wellFormed.states state member
  exact ⟨fun chain isChain => holds.lookups isChain,
    fun ours theirs plaintext random failure failed => holds.sends failed,
    fun room message random failure failed => holds.reads room failed⟩

/-! ## The newcomer's record -/

/-- The first call, read from its bytes. -/
def PreKeyMessage.firstCall : PreKeyMessage :=
  (parse {} CiphertextMessage.firstCall.serialized).toOption.get (by decide +kernel)

theorem firstCall_eq : CiphertextMessage.firstCall = .preKey .firstCall := by decide +kernel

theorem properlyReachable_called : ProperlyReachable Suite.additive {} .called := by
  have newcomer : ProperlyReachable Suite.additive {} .newcomer :=
    ((ProperlyReachable.start (KeyPair.additive 1) 1).step (.maintain (.putPreKey 6 _)) (.repeated 0)
      trivial).step (.maintain (.putSignedPreKey 7 _)) (.repeated 0) trivial
  refine newcomer.step (.decrypt .caller .firstCall Receiver.accept) (.repeated 16) ?_
  rw [firstCall_eq]
  exact ⟨CiphertextMessage.firstCall.serialized, eq_ok_of_toOption (Option.some_get _).symm⟩

theorem called_record_wellFormed :
    (Store.called.session .caller).WellFormed Suite.additive {} ∧
      ∀ message random failure, ((Store.called.session .caller).current.decrypt Suite.additive {}
        message random).result = .error failure → SessionState.lacksPart failure = false := by
  have stored : Store.called.sessions.find? .caller = some (Store.called.session .caller) := by
    decide +kernel
  obtain ⟨wellFormed, states⟩ := stored_record_wellFormed properlyReachable_called stored
  exact ⟨wellFormed, (states _ List.mem_cons_self).2.2 (by decide)⟩

end DoubleRatchet
