import DoubleRatchet.Proofs.Correspondence.Orderly
import DoubleRatchet.Proofs.Correspondence.Regular
import DoubleRatchet.Proofs.Message.Signal

/-!
# What one party sends to one address

The keys of a message come from the session that it is sent in, which its base key names, from the
ratchet key and from the counter. A party that begins, joins, sends and reads in any order, whatever
messages it is given, never uses the three together again: every session counts on where it stands, from
zero under every ratchet key. That needs the archive to keep every session, and keys that are drawn to be
new.
-/

namespace DoubleRatchet

/-- A message that was sent, with the base key of the session that it was sent in. -/
structure Posting where
  base : Option PublicKey
  message : CiphertextMessage
  deriving DecidableEq

namespace Posting

def key (posting : Posting) : PublicKey :=
  posting.message.inner.ratchetKey

def counter (posting : Posting) : Nat :=
  posting.message.inner.counter.toNat

/-- What decides the keys of a message. -/
def place (posting : Posting) : Option PublicKey × PublicKey × Nat :=
  (posting.base, posting.key, posting.counter)

/-- The counters that were handed out in a session under a ratchet key, oldest first. -/
def counters (base : Option PublicKey) (key : PublicKey) (posted : List Posting) : List Nat :=
  (posted.filter fun posting => posting.base = base ∧ posting.key = key).map counter

variable {base : Option PublicKey} {key : PublicKey} {posted : List Posting} {posting : Posting}

theorem counters_append_self (posting : Posting) (posted : List Posting) :
    counters posting.base posting.key (posted ++ [posting]) =
      counters posting.base posting.key posted ++ [posting.counter] := by
  simp [counters, List.filter_append]

theorem counters_append_of_ne (different : posting.base = base → posting.key ≠ key)
    (posted : List Posting) :
    counters base key (posted ++ [posting]) = counters base key posted := by
  have isOther : ¬(posting.base = base ∧ posting.key = key) := fun ⟨same, isKey⟩ =>
    different same isKey
  simp [counters, List.filter_append, isOther]

theorem counters_eq_nil (isNew : ∀ posting ∈ posted, posting.base = base → posting.key ≠ key) :
    counters base key posted = [] := by
  unfold counters
  rw [List.map_eq_nil_iff, List.filter_eq_nil_iff]
  intro posting isPosted isHere
  obtain ⟨same, isKey⟩ := of_decide_eq_true isHere
  exact isNew posting isPosted same isKey

theorem count_places (place : Option PublicKey × PublicKey × Nat) (posted : List Posting) :
    (posted.map Posting.place).count place =
      (counters place.1 place.2.1 posted).count place.2.2 := by
  unfold counters
  rw [List.count_eq_countP, List.countP_map, List.count_eq_countP, List.countP_map,
    List.countP_filter]
  congr 1
  funext posting
  obtain ⟨base, key, counter⟩ := place
  rw [Bool.eq_iff_iff]
  simp only [Function.comp_apply, Posting.place, beq_iff_eq, Prod.mk.injEq, Bool.and_eq_true,
    decide_eq_true_eq]
  exact ⟨fun ⟨same, isKey, isCounter⟩ => ⟨isCounter, same, isKey⟩,
    fun ⟨isCounter, same, isKey⟩ => ⟨same, isKey, isCounter⟩⟩

/-- Where no counter is handed out twice, no place is used twice. -/
theorem nodup_places (distinct : ∀ base key, (counters base key posted).Nodup) :
    (posted.map place).Nodup := by
  rw [List.nodup_iff_count_le_one]
  intro place
  rw [count_places]
  exact List.nodup_iff_count_le_one.mp (distinct _ _) _

end Posting

/-! ## Runs -/

/-- What a party keeps, and what it has sent to one address. -/
structure Outbox where
  store : Store
  posted : List Posting

namespace Outbox

variable (suite : Suite) (config : Config) (address : Address)

def record (outbox : Outbox) : SessionRecord :=
  outbox.store.session address

/-- The message that an operation sends. -/
def posting? (operation : Operation) (random : Randomness) (outbox : Outbox) : Option Posting :=
  match operation with
  | .encrypt peer plaintext =>
      (Session.encrypt suite config peer plaintext outbox.store random).result.toOption.map
        fun message => { base := (outbox.record address).current.initiatorBaseKey, message }
  | _ => none

def after (operation : Operation) (random : Randomness) (outbox : Outbox) : Outbox :=
  { store := operation.after suite config outbox.store random
    posted := outbox.posted ++ (outbox.posting? suite config address operation random).toList }

/-- The public keys that an operation generates for its sessions: for a session that it begins, and
where a message is read under a ratchet key that is new to its session. -/
def generated (operation : Operation) (random : Randomness) (outbox : Outbox) : List PublicKey :=
  match operation with
  | .processBundle _ _ => Correspondence.begunKeys suite random
  | .decrypt peer message receiver =>
      let outcome := Session.decrypt suite config peer message receiver outbox.store random
      let opener := Session.opener suite config peer message outbox.store random
      match outcome.result with
      | .ok _ => opener.keysAfter message.inner.ratchetKey (outcome.state.session address).current []
      | .error _ => []
  | _ => []

/-- The base keys of the sessions that the party holds, and the ratchet keys that it has sent under. -/
def met (outbox : Outbox) : List PublicKey :=
  (outbox.record address).states.filterMap SessionState.initiatorBaseKey ++
    outbox.posted.map Posting.key

/-- An operation is about the address or about no address. The messages that it is given were read from
bytes, the keys that it generates are new to the party, and the party keeps its sessions. -/
structure Allowed (outbox : Outbox) (operation : Operation) (random : Randomness) : Prop where
  here : ∀ peer, operation.peer? = some peer → peer = address
  parsed : ∀ message, operation.first? = some message →
    ∃ data, PreKeyMessage.parse config data = .ok message
  fresh : ∀ key ∈ outbox.generated suite config address operation random,
    key ∉ outbox.met address
  keeps : SessionRecord.KeepsSessions (outbox.record address)
    ((outbox.after suite config address operation random).record address)

/-- Whatever a party does, from a store without a session with the address on. -/
inductive Run : Outbox → Prop where
  | start {store : Store} (noSession : store.session address = {}) :
      Run { store, posted := [] }
  | step {outbox : Outbox} (run : Run outbox) (operation : Operation) (random : Randomness)
      (allowed : outbox.Allowed suite config address operation random) :
      Run (outbox.after suite config address operation random)

end Outbox

/-! ## States that count on -/

variable {suite : Suite} {config : Config} {address : Address} {posted : List Posting}
  {record : SessionRecord} {random rest : Randomness}

/-- The state counts on from what was sent under its sending key. -/
def SessionState.Counts (posted : List Posting) (state : SessionState) : Prop :=
  ∀ chain, state.senderChain = some chain →
    Posting.counters state.initiatorBaseKey chain.ratchetKey.publicKey posted =
      List.range chain.chainKey.index.toNat

/-- The state of a session that was begun under a base key. -/
structure SessionState.Named (base : PublicKey) (state : SessionState) : Prop where
  baseKey_eq : state.initiatorBaseKey = some base
  begun : state.isInitialized = true
  version_eq : state.version = Envelope.currentVersion

namespace SessionRecord

/-- Every state of the record has a base key of its own and counts on. -/
structure Sound (posted : List Posting) (record : SessionRecord) : Prop where
  known : record = {} ∨ ∀ state ∈ record.states, ∃ base, state.Named base
  distinct : (record.states.map SessionState.initiatorBaseKey).Nodup
  counts : ∀ state ∈ record.states, state.Counts posted

theorem sound_blank : Sound posted {} where
  known := .inl rfl
  distinct := List.nodup_singleton _
  counts state member := by
    cases List.mem_singleton.mp member
    exact nofun

variable {state new : SessionState} {base : PublicKey} {answer : Answer}

theorem Sound.named_of_begun (sound : Sound posted record) (member : state ∈ record.states)
    (begun : state.isInitialized = true) : ∃ base, state.Named base := by
  rcases sound.known with rfl | known
  · cases List.mem_singleton.mp member
    cases begun
  · exact known state member

theorem Sound.named_of_base (sound : Sound posted record) (member : state ∈ record.states)
    (baseKey_eq : state.initiatorBaseKey = some base) : state.Named base := by
  rcases sound.known with rfl | known
  · cases List.mem_singleton.mp member
    cases baseKey_eq
  · obtain ⟨other, named⟩ := known state member
    cases named.baseKey_eq.symm.trans baseKey_eq
    exact named

theorem Sound.eq_blank_of_fresh (sound : Sound posted record) (fresh : record.isFresh = true) :
    record = {} := by
  rcases sound.known with isBlank | known
  · exact isBlank
  · obtain ⟨base, named⟩ := known record.current List.mem_cons_self
    rw [isFresh, named.begun] at fresh
    cases fresh

/-- The states before a session is begun are in the record with room for it. -/
theorem Sound.states_cut (sound : Sound posted record) (config : Config) (new : SessionState) :
    ∃ older, older ⊆ record.states ∧ (∀ state ∈ older, ∃ base, state.Named base) ∧
      (older.map SessionState.initiatorBaseKey).Nodup ∧
      ((Session.makeRoom config record).setCurrent new).states <+: new :: older := by
  have cut := Session.states_makeRoom_cut config record new
  split at cut
  · rename_i fresh
    rw [sound.eq_blank_of_fresh fresh] at cut ⊢
    have none_named : ∀ state ∈ ([] : List SessionState), ∃ base, state.Named base :=
      List.forall_mem_nil _
    exact ⟨[], List.nil_subset _, none_named, List.nodup_nil, cut⟩
  · rename_i begun
    refine ⟨record.states, List.Subset.refl _, ?_, sound.distinct, cut⟩
    rcases sound.known with rfl | known
    · exact absurd rfl begun
    · exact known

theorem Sound.of_cut {older : List SessionState} {later : SessionRecord} (named : new.Named base)
    (unlisted : ∀ state ∈ older, state.initiatorBaseKey ≠ some base)
    (known : ∀ state ∈ older, ∃ base, state.Named base)
    (distinct : (older.map SessionState.initiatorBaseKey).Nodup)
    (counts : ∀ state ∈ new :: older, state.Counts posted)
    (cut : later.states <+: new :: older) : Sound posted later := by
  constructor
  case known =>
    right
    intro state member
    rcases List.mem_cons.mp (cut.subset member) with rfl | isOlder
    · exact ⟨base, named⟩
    · exact known state isOlder
  case distinct =>
    refine List.Nodup.sublist (cut.sublist.map _) ?_
    rw [List.map_cons, List.nodup_cons]
    refine ⟨fun listed => ?_, distinct⟩
    obtain ⟨state, member, same⟩ := List.mem_map.mp listed
    exact unlisted state member (same.trans named.baseKey_eq)
  case counts => exact fun state member => counts state (cut.subset member)

/-- A session is begun under a base key that the record does not have. -/
theorem Sound.begin (sound : Sound posted record) (named : new.Named base)
    (unlisted : ∀ state ∈ record.states, state.initiatorBaseKey ≠ some base)
    (counts : new.Counts posted) (config : Config) :
    Sound posted ((Session.makeRoom config record).setCurrent new) := by
  obtain ⟨older, isOlder, known, distinct, cut⟩ := sound.states_cut config new
  apply Sound.of_cut named (fun state member => unlisted state (isOlder member)) known distinct _ cut
  intro state member
  rcases List.mem_cons.mp member with rfl | before
  · exact counts
  · exact sound.counts state (isOlder before)

/-- A session goes on with a new state, while another message may have been sent in it. -/
theorem Sound.answered {sent : List Posting} (sound : Sound posted record)
    (found : record.states[answer.index]? = some state) (named : state.Named base)
    (stillNamed : answer.state.Named base) (counts : answer.state.Counts sent)
    (elsewhere : ∀ other key, other ≠ some base →
      Posting.counters other key sent = Posting.counters other key posted) (config : Config) :
    Sound sent (record.answered config answer) := by
  have permuted := perm_cons_eraseIdx found
  have distinct := (permuted.map SessionState.initiatorBaseKey).nodup_iff.mpr sound.distinct
  rw [List.map_cons, List.nodup_cons, named.baseKey_eq] at distinct
  have unlisted : ∀ other ∈ record.states.eraseIdx answer.index,
      other.initiatorBaseKey ≠ some base := fun other member same =>
    distinct.1 (List.mem_map.mpr ⟨other, member, same⟩)
  apply Sound.of_cut stillNamed unlisted _ distinct.2 _ (states_answered_cut config answer record)
  · intro other member
    rcases sound.known with rfl | known
    · have blank : state = {} := List.mem_singleton.mp (List.mem_of_getElem? found)
      have impossible := named.baseKey_eq
      rw [blank] at impossible
      cases impossible
    · exact known other (List.mem_of_mem_eraseIdx member)
  · intro other member
    rcases List.mem_cons.mp member with rfl | before
    · exact counts
    · intro chain hasChain
      rw [elsewhere _ _ (unlisted other before)]
      exact sound.counts other (List.mem_of_mem_eraseIdx before) chain hasChain

/-- The counters of the current session, once it has sent another message. -/
theorem Sound.counters_sent {posting : Posting} {chain : SenderChain} (sound : Sound posted record)
    (hasChain : record.current.senderChain = some chain)
    (base_eq : posting.base = record.current.initiatorBaseKey)
    (key_eq : posting.key = chain.ratchetKey.publicKey)
    (counter_eq : posting.counter = chain.chainKey.index.toNat) :
    Posting.counters posting.base posting.key (posted ++ [posting]) =
      List.range (chain.chainKey.index.toNat + 1) := by
  have handed := sound.counts _ List.mem_cons_self chain hasChain
  rw [← base_eq, ← key_eq] at handed
  rw [Posting.counters_append_self, handed, counter_eq, List.range_succ]

/-- The current session sends one message. -/
theorem Sound.sent {posting : Posting} {chain : SenderChain} (sound : Sound posted record)
    (named : record.current.Named base) (hasChain : record.current.senderChain = some chain)
    (notLast : chain.chainKey.index ≠ 0xffffffff)
    (base_eq : posting.base = record.current.initiatorBaseKey)
    (key_eq : posting.key = chain.ratchetKey.publicKey)
    (counter_eq : posting.counter = chain.chainKey.index.toNat) :
    Sound (posted ++ [posting]) (record.setCurrent (record.current.sentOn suite chain)) := by
  let answer : Answer :=
    { index := 0
      state := record.current.sentOn suite chain
      plaintext := [] }
  have isAnswer : record.setCurrent (record.current.sentOn suite chain) =
      record.answered {} answer := rfl
  rw [isAnswer]
  refine sound.answered rfl named ⟨named.baseKey_eq, named.begun, named.version_eq⟩ ?_ ?_ {}
  · intro own isOwn
    cases isOwn
    have moved : (chain.chainKey.following suite).index.toNat = chain.chainKey.index.toNat + 1 :=
      toNat_succ_of_ne notLast
    have counted := sound.counters_sent hasChain base_eq key_eq counter_eq
    rw [base_eq, key_eq, ← moved] at counted
    exact counted
  · intro other key different
    apply Posting.counters_append_of_ne
    intro same
    rw [← same, base_eq] at different
    exact absurd named.baseKey_eq different

end SessionRecord

/-! ## One operation after the other -/

namespace Outbox

variable {outbox : Outbox} {store : Store} {base : PublicKey} {peer : Address}

/-- Every session counts on, every message was sent in a session that the party still has, and no
counter was left out. -/
structure Steady (address : Address) (outbox : Outbox) : Prop where
  sound : SessionRecord.Sound outbox.posted (outbox.record address)
  based : ∀ posting ∈ outbox.posted, ∃ state ∈ (outbox.record address).states,
    state.isInitialized = true ∧ state.initiatorBaseKey = posting.base
  ranged : ∀ base key, ∃ count, Posting.counters base key outbox.posted = List.range count

theorem Steady.start (noSession : store.session address = {}) :
    Steady address { store, posted := [] } where
  sound := by
    unfold record
    rw [noSession]
    exact SessionRecord.sound_blank
  based _ member := nomatch member
  ranged _ _ := ⟨0, rfl⟩

/-- A party that sends nothing and keeps its sessions stays steady. -/
theorem Steady.of_sound (steady : Steady address outbox)
    (sound : SessionRecord.Sound outbox.posted (store.session address))
    (keeps : SessionRecord.KeepsSessions (outbox.record address) (store.session address)) :
    Steady address { store, posted := outbox.posted } where
  sound := sound
  based posting isPosted := by
    obtain ⟨state, member, begun, same⟩ := steady.based posting isPosted
    obtain ⟨kept, isKept, sameBase⟩ := keeps state member begun
    obtain ⟨base, named⟩ := steady.sound.named_of_begun member begun
    have stillNamed : kept.Named base := sound.named_of_base isKept (sameBase.trans named.baseKey_eq)
    exact ⟨kept, isKept, stillNamed.begun, sameBase.trans same⟩
  ranged := steady.ranged

/-- Nothing was sent in a session that the party does not have. -/
theorem Steady.counters_of_unlisted (steady : Steady address outbox)
    (unlisted : ∀ state ∈ (outbox.record address).states, state.initiatorBaseKey ≠ some base)
    (key : PublicKey) : Posting.counters (some base) key outbox.posted = [] := by
  apply Posting.counters_eq_nil
  intro posting isPosted sameBase _
  obtain ⟨state, member, _, same⟩ := steady.based posting isPosted
  exact unlisted state member (same.trans sameBase)

theorem unlisted_of_unmet (unmet : base ∉ outbox.met address) :
    ∀ state ∈ (outbox.record address).states, state.initiatorBaseKey ≠ some base := by
  intro state member same
  exact unmet (List.mem_append_left _ (List.mem_filterMap.mpr ⟨state, member, same⟩))

theorem unsent_of_unmet {key : PublicKey} (unmet : key ∉ outbox.met address) :
    ∀ posting ∈ outbox.posted, posting.key ≠ key := by
  intro posting isPosted same
  exact unmet (List.mem_append_right _ (same ▸ List.mem_map_of_mem isPosted))

/-! ### Beginning and joining -/

theorem Steady.sound_of_bundle {bundle : PreKeyBundle} (steady : Steady address outbox)
    (begun : Session.processBundle suite config address bundle outbox.store random =
      ⟨.ok (), store, rest⟩)
    (unmet : (KeyPair.generate suite random).1.publicKey ∉ outbox.met address) :
    SessionRecord.Sound outbox.posted (store.session address) := by
  obtain ⟨signedPreKey, state, _, _, _, established, rfl⟩ := Session.processBundle_eq_ok.mp begun
  obtain ⟨secret, step, _, stepped, rfl, _⟩ := Handshake.Initiator.establish_eq_ok.mp established
  have unlisted := unlisted_of_unmet unmet
  rw [Store.session_putSession]
  refine steady.sound.begin ⟨rfl, rfl, rfl⟩ unlisted ?_ config
  intro chain hasChain
  cases hasChain
  refine (steady.counters_of_unlisted unlisted _).trans ?_
  rw [RootKey.index_of_step stepped]
  rfl

theorem Steady.sound_of_accept {message : PreKeyMessage} {used : Option UInt32}
    {joined : SessionRecord} (steady : Steady address outbox)
    (version_eq : message.version = Envelope.currentVersion)
    (accepted : Session.acceptPreKeyMessage suite config address (outbox.record address) message
      outbox.store random = ⟨.ok (used, joined), store, rest⟩) :
    SessionRecord.Sound outbox.posted joined := by
  obtain ⟨_, _, ⟨_, _, rfl, _⟩ | ⟨unknown, joining⟩⟩ := Session.accept_eq_ok accepted
  · exact steady.sound
  · obtain ⟨_, signedPreKey, oneTime, drawn, state, _, _, established, rfl⟩ :=
      Session.join_eq_ok joining
    obtain ⟨secret, _, rfl, _⟩ := Handshake.Responder.establish_eq_ok.mp established
    have unlisted : ∀ state ∈ (outbox.record address).states,
        state.initiatorBaseKey ≠ some message.baseKey := by
      intro state member same
      have named := steady.sound.named_of_base member same
      have known : (outbox.record address).hasSession message.version message.baseKey = true := by
        apply List.any_eq_true.mpr
        exact ⟨state, member, by simp [named.version_eq, version_eq, same]⟩
      rw [known] at unknown
      cases unknown
    refine steady.sound.begin ⟨rfl, rfl, rfl⟩ unlisted ?_ config
    intro chain hasChain
    cases hasChain
    exact steady.counters_of_unlisted unlisted _

/-! ### Reading -/

/-- A state that has read a message goes on with its sending chain, or begins one under a ratchet key
that it has drawn. -/
theorem counts_of_decrypt {state final : SessionState} {message : SignalMessage}
    {plaintext : Bytes} (counts : state.Counts outbox.posted)
    (opened : SessionState.decrypt suite config message state random = ⟨.ok plaintext, final, rest⟩)
    (unmet : ∀ key ∈ state.keysAfter message.ratchetKey final [], key ∉ outbox.met address) :
    final.Counts outbox.posted := by
  have baseKey_eq := SessionState.initiatorBaseKey_of_decrypt opened
  obtain ⟨ready, isReady, decryption, rfl⟩ := SessionState.decrypt_eq_ok opened
  cases isReady with
  | known => exact counts
  | turned missing turn =>
      intro chain hasChain
      have index_eq : chain.chainKey.index = 0 := by
        cases hasChain
        exact RootKey.index_of_step turn.sends
      have isDrawn : chain.ratchetKey.publicKey ∈ state.keysAfter message.ratchetKey
          decryption.opened [] := by
        unfold SessionState.keysAfter
        rw [missing, SessionState.sendingKey?_of_chain hasChain]
        exact List.mem_cons_self
      rw [index_eq]
      exact Posting.counters_eq_nil fun posting isPosted _ =>
        unsent_of_unmet (unmet _ isDrawn) posting isPosted

theorem version_of_decrypt {state final : SessionState} {message : SignalMessage}
    {plaintext : Bytes}
    (opened : SessionState.decrypt suite config message state random =
      ⟨.ok plaintext, final, rest⟩) : final.version = state.version := by
  obtain ⟨ready, isReady, decryption, rfl⟩ := SessionState.decrypt_eq_ok opened
  cases isReady with
  | known => rfl
  | turned => rfl

theorem isInitialized_of_decrypt {state final : SessionState} {message : SignalMessage}
    {plaintext : Bytes} (begun : state.isInitialized = true)
    (opened : SessionState.decrypt suite config message state random =
      ⟨.ok plaintext, final, rest⟩) : final.isInitialized = true := by
  obtain ⟨ready, isReady, decryption, rfl⟩ := SessionState.decrypt_eq_ok opened
  cases isReady with
  | known => exact begun
  | turned => rfl

theorem Steady.sound_of_prepared {message : CiphertextMessage} (steady : Steady address outbox)
    (version_eq : ∀ first, message = .preKey first → first.version = Envelope.currentVersion)
    (random : Randomness) : SessionRecord.Sound outbox.posted
      (Session.prepared suite config address message outbox.store random).1 := by
  cases message with
  | signal message => exact steady.sound
  | preKey first =>
      unfold Session.prepared
      dsimp only
      split
      · rename_i accepted
        exact steady.sound_of_accept (version_eq first rfl) accepted
      · exact steady.sound

theorem Steady.sound_of_read {message : CiphertextMessage} {plaintext : Bytes}
    (steady : Steady address outbox)
    (version_eq : ∀ first, message = .preKey first → first.version = Envelope.currentVersion)
    (opened : Session.Opened suite config address message outbox.store random plaintext store)
    (unmet : ∀ key ∈ (Session.opener suite config address message outbox.store random).keysAfter
      message.inner.ratchetKey (store.session address).current [], key ∉ outbox.met address) :
    SessionRecord.Sound outbox.posted (store.session address) := by
  obtain ⟨index, drawn, final, _, found, decrypted, record_eq⟩ := opened.opened
  have sound : SessionRecord.Sound outbox.posted
      (Session.prepared suite config address message outbox.store random).1 :=
    steady.sound_of_prepared version_eq random
  have member := List.mem_of_getElem? found
  obtain ⟨base, named⟩ : ∃ base,
      (Session.opener suite config address message outbox.store random).Named base := by
    rcases sound.known with isBlank | known
    · rw [isBlank] at member
      obtain ⟨_, _, decryption, _⟩ := SessionState.decrypt_eq_ok decrypted
      have sends := decryption.sends
      rw [List.mem_singleton.mp member] at sends
      cases sends
    · exact known _ member
  rw [record_eq, SessionRecord.current_answered] at unmet
  rw [record_eq]
  refine sound.answered found named ⟨?_, ?_, ?_⟩ ?_ (fun _ _ _ => rfl) config
  · exact (SessionState.initiatorBaseKey_of_decrypt decrypted).trans named.baseKey_eq
  · exact isInitialized_of_decrypt named.begun decrypted
  · exact (version_of_decrypt decrypted).trans named.version_eq
  · exact counts_of_decrypt (sound.counts _ member) decrypted unmet

/-! ### Sending -/

theorem Steady.send {message : CiphertextMessage} {plaintext : Bytes}
    (steady : Steady address outbox)
    (encrypted : Session.encrypt suite config address plaintext outbox.store random =
      ⟨.ok message, store, rest⟩) :
    Steady address { store, posted := outbox.posted ++
      [{ base := (outbox.record address).current.initiatorBaseKey, message }] } := by
  let record := outbox.record address
  let posting : Posting := { base := record.current.initiatorBaseKey, message }
  obtain ⟨_, _, _, begun, _⟩ := Session.encrypt_eq_ok.mp encrypted
  obtain ⟨chain, hasChain, notLast, key_eq, index_eq, rfl⟩ :=
    Correspondence.sending_of_encrypt encrypted
  change record.current.senderChain = some chain at hasChain
  have counter_eq : posting.counter = chain.chainKey.index.toNat := congrArg UInt32.toNat index_eq
  have isBegun : (outbox.store.session address).current.isInitialized = true := by
    simpa [SessionRecord.isFresh] using begun
  obtain ⟨base, named⟩ : ∃ base, record.current.Named base :=
    steady.sound.named_of_begun List.mem_cons_self isBegun
  let next := record.setCurrent (record.current.sentOn suite chain)
  have next_eq : (outbox.store.putSession address next).session address = next :=
    Store.session_putSession _ _ _
  constructor
  case sound =>
    change SessionRecord.Sound (outbox.posted ++ [posting])
      ((outbox.store.putSession address next).session address)
    rw [next_eq]
    exact steady.sound.sent named hasChain notLast rfl key_eq counter_eq
  case based =>
    intro sent isSent
    change ∃ state ∈ ((outbox.store.putSession address next).session address).states, _
    rw [next_eq]
    rcases List.mem_append.mp isSent with old | new
    · obtain ⟨state, member, begun, same⟩ := steady.based sent old
      rcases List.mem_cons.mp member with rfl | older
      · exact ⟨_, List.mem_cons_self, begun, same⟩
      · exact ⟨state, List.mem_cons_of_mem _ older, begun, same⟩
    · rw [List.mem_singleton.mp new]
      exact ⟨_, List.mem_cons_self, named.begun, rfl⟩
  case ranged =>
    intro other key
    change ∃ count, Posting.counters other key (outbox.posted ++ [posting]) = List.range count
    by_cases here : posting.base = other ∧ posting.key = key
    · obtain ⟨rfl, rfl⟩ := here
      exact ⟨_, steady.sound.counters_sent hasChain rfl key_eq counter_eq⟩
    · rw [Posting.counters_append_of_ne (fun same isKey => here ⟨same, isKey⟩)]
      exact steady.ranged other key

/-! ### Any operation -/

theorem Steady.sound_after_processBundle {bundle : PreKeyBundle} (steady : Steady address outbox)
    (unmet : (KeyPair.generate suite random).1.publicKey ∉ outbox.met address) :
    SessionRecord.Sound outbox.posted
      ((Session.processBundle suite config address bundle outbox.store random).state.session
        address) := by
  cases outcome : (Session.processBundle suite config address bundle outbox.store random).result with
  | error failure =>
      rw [Session.atomic_processBundle _ _ _ outcome]
      exact steady.sound
  | ok _ => exact steady.sound_of_bundle (Outcome.eq_of_result outcome) unmet

theorem Steady.sound_after_accept {message : PreKeyMessage} (steady : Steady address outbox)
    (version_eq : message.version = Envelope.currentVersion) (random : Randomness) :
    SessionRecord.Sound outbox.posted
      ((Session.processPreKeyMessage suite config address message outbox.store random).state.session
        address) := by
  cases outcome : (Session.processPreKeyMessage suite config address message outbox.store
    random).result with
  | error failure =>
      rw [Session.atomic_processPreKeyMessage _ _ _ outcome]
      exact steady.sound
  | ok used =>
      obtain ⟨joined, accepted, stored⟩ :=
        Session.processPreKeyMessage_eq_ok (Outcome.eq_of_result outcome)
      rw [stored, Store.session_putSession]
      exact steady.sound_of_accept version_eq accepted

theorem Steady.sound_after_decrypt {message : CiphertextMessage} {receiver : Receiver}
    (steady : Steady address outbox)
    (version_eq : ∀ first, message = .preKey first → first.version = Envelope.currentVersion)
    (fresh : ∀ key ∈ outbox.generated suite config address (.decrypt address message receiver) random,
      key ∉ outbox.met address) :
    SessionRecord.Sound outbox.posted
      ((Session.decrypt suite config address message receiver outbox.store random).state.session
        address) := by
  unfold generated at fresh
  dsimp only at fresh
  cases outcome : (Session.decrypt suite config address message receiver outbox.store random).result with
  | error failure =>
      rcases Session.unread_of_decrypt (Outcome.eq_of_result outcome) with same | ⟨_, pinned⟩
      · rw [same]
        exact steady.sound
      · rw [pinned, Store.session_putIdentity]
        exact steady.sound
  | ok plaintext =>
      rw [outcome] at fresh
      exact steady.sound_of_read version_eq
        (Session.opened_of_decrypt (Outcome.eq_of_result outcome)) fresh

/-- What an operation that sends nothing leaves is sound. -/
theorem Steady.sound_after {operation : Operation} (steady : Steady address outbox)
    (allowed : outbox.Allowed suite config address operation random)
    (silent : ∀ peer plaintext, operation ≠ .encrypt peer plaintext) :
    SessionRecord.Sound outbox.posted
      ((operation.after suite config outbox.store random).session address) := by
  have version_eq (message : PreKeyMessage) (isFirst : operation.first? = some message) :
      message.version = Envelope.currentVersion := by
    obtain ⟨data, parsed⟩ := allowed.parsed message isFirst
    exact PreKeyMessage.version_of_parse parsed
  cases operation with
  | encrypt peer plaintext => exact absurd rfl (silent peer plaintext)
  | processBundle peer bundle =>
      obtain rfl := allowed.here peer rfl
      exact steady.sound_after_processBundle
        (allowed.fresh _ (Correspondence.mem_begunKeys_base suite random))
  | processPreKeyMessage peer message =>
      obtain rfl := allowed.here peer rfl
      exact steady.sound_after_accept (version_eq message rfl) random
  | decrypt peer message receiver =>
      obtain rfl := allowed.here peer rfl
      refine steady.sound_after_decrypt ?_ allowed.fresh
      rintro first rfl
      exact version_eq first rfl
  | maintain upkeep =>
      change SessionRecord.Sound outbox.posted ((upkeep.apply outbox.store).session address)
      rcases upkeep.session_apply outbox.store address with kept | deleted
      · rw [kept]
        exact steady.sound
      · rw [deleted]
        exact SessionRecord.sound_blank

theorem Steady.step {operation : Operation} (steady : Steady address outbox)
    (allowed : outbox.Allowed suite config address operation random) :
    Steady address (outbox.after suite config address operation random) := by
  have keeps := allowed.keeps
  by_cases sends : ∃ peer plaintext, operation = .encrypt peer plaintext
  · obtain ⟨peer, plaintext, rfl⟩ := sends
    obtain rfl := allowed.here peer rfl
    unfold after posting? Operation.after
    dsimp only
    cases outcome : (Session.encrypt suite config peer plaintext outbox.store random).result with
    | error failure =>
        rw [Session.atomic_encrypt _ _ _ outcome]
        change Steady peer { store := outbox.store, posted := outbox.posted ++ [] }
        rw [List.append_nil]
        exact steady
    | ok message => exact steady.send (Outcome.eq_of_result outcome)
  · have silent (peer : Address) (plaintext : Bytes) : operation ≠ .encrypt peer plaintext :=
      fun same => sends ⟨peer, plaintext, same⟩
    have nothing : outbox.posting? suite config address operation random = none := by
      cases operation with
      | encrypt peer plaintext => exact absurd rfl (silent peer plaintext)
      | processBundle | processPreKeyMessage | decrypt | maintain => rfl
    unfold after at keeps ⊢
    rw [nothing, Option.toList_none, List.append_nil] at keeps ⊢
    exact steady.of_sound (steady.sound_after allowed silent) keeps

theorem Run.steady (run : Run suite config address outbox) : Steady address outbox := by
  induction run with
  | start noSession => exact Steady.start noSession
  | step _ operation random allowed ih => exact ih.step allowed

/-- No place is used twice: no two messages have the same session, ratchet key and counter. And under
each ratchet key of each session the counters are handed out from zero on, without gaps. -/
theorem no_place_is_used_twice (run : Run suite config address outbox) :
    (outbox.posted.map Posting.place).Nodup ∧
      ∀ base key, ∃ count, Posting.counters base key outbox.posted = List.range count := by
  refine ⟨Posting.nodup_places fun base key => ?_, run.steady.ranged⟩
  obtain ⟨count, counted⟩ := run.steady.ranged base key
  rw [counted]
  exact List.nodup_range

/-! ### The newcomer's outbox -/

theorem allowed_of_checks {operation : Operation} (here : operation.peer? = some address)
    (checks : (∀ message ∈ operation.first?.toList,
        PreKeyMessage.parse config message.serialized = .ok message) ∧
      (∀ key ∈ outbox.generated suite config address operation random, key ∉ outbox.met address) ∧
      SessionRecord.KeepsSessions (outbox.record address)
        ((outbox.after suite config address operation random).record address)) :
    outbox.Allowed suite config address operation random where
  here _ isPeer := Option.some.inj (isPeer.symm.trans here)
  parsed message isFirst := ⟨_, checks.1 message (Option.mem_toList.mpr isFirst)⟩
  fresh := checks.2.1
  keeps := checks.2.2

/-- A bundle of the caller. -/
def callersBundle : PreKeyBundle :=
  { PreKeyBundle.newcomer with identityKey := (KeyPair.additive 4).publicKey }

/-- The newcomer answers the first call, begins a session of its own, sends in it, and reads the second
call, after which it sends in the first session again. -/
def dealings : List (Operation × Randomness) :=
  [(.decrypt .caller .firstCall Receiver.accept, .repeated 16),
    (.encrypt .caller [5], .repeated 0),
    (.processBundle .caller callersBundle, .counting 40),
    (.encrypt .caller [6], .repeated 0),
    (.decrypt .caller .secondCall Receiver.accept, .repeated 24),
    (.encrypt .caller [7], .repeated 0)]

def newcomersOutbox (count : Nat) : Outbox :=
  (dealings.take count).foldl (fun outbox dealing =>
    outbox.after Suite.additive {} .caller dealing.1 dealing.2) { store := .newcomer, posted := [] }

theorem run_newcomersOutbox : Run Suite.additive {} .caller (newcomersOutbox 6) := by
  have start : Run Suite.additive {} .caller (newcomersOutbox 0) := .start (by decide +kernel)
  have first : Run Suite.additive {} .caller (newcomersOutbox 1) :=
    start.step _ _ (allowed_of_checks rfl (by decide +kernel))
  have second : Run Suite.additive {} .caller (newcomersOutbox 2) :=
    first.step _ _ (allowed_of_checks rfl (by decide +kernel))
  have third : Run Suite.additive {} .caller (newcomersOutbox 3) :=
    second.step _ _ (allowed_of_checks rfl (by decide +kernel))
  have fourth : Run Suite.additive {} .caller (newcomersOutbox 4) :=
    third.step _ _ (allowed_of_checks rfl (by decide +kernel))
  have fifth : Run Suite.additive {} .caller (newcomersOutbox 5) :=
    fourth.step _ _ (allowed_of_checks rfl (by decide +kernel))
  exact fifth.step _ _ (allowed_of_checks rfl (by decide +kernel))

/-- The session that was left and came back counts on. -/
theorem newcomer_counts_on :
    ((newcomersOutbox 6).posted.map Posting.counter = [0, 0, 1]) ∧
      ((newcomersOutbox 6).posted.map Posting.place).Nodup :=
  ⟨by decide +kernel, (no_place_is_used_twice run_newcomersOutbox).1⟩

end Outbox
end DoubleRatchet
