import DoubleRatchet.Proofs.Correspondence.Run
import Mathlib.Data.List.Perm.Basic

/-!
# What holds in every honest correspondence

Two things, side by side. On the side of the reader every counter that a state calls spent is accounted
for by what was read or given up. On the side of the author no two states send under one ratchet key,
signed prekeys apart, and every state counts on from what was sent; so a ratchet key and a counter tell
a dispatch from all others.
-/

namespace DoubleRatchet

variable {suite : Suite} {config : Config} {meeting : Meeting} {random rest : Randomness}

/-! ## Who sends under which ratchet key -/

namespace SessionState

variable {presigned keys : List PublicKey} {sent : List Dispatch} {states : List SessionState}
  {state new : SessionState} {chain : SenderChain}

/-- The states do not send under one ratchet key, unless it is a signed prekey. -/
def Apart (presigned : List PublicKey) (left right : SessionState) : Prop :=
  ∀ key, left.sendingKey? = some key → right.sendingKey? = some key → key ∈ presigned

/-- The sending chain of a state begins at a signed prekey, or at a key that was drawn and under which
the state counts on from what was sent. -/
def Sources (presigned keys : List PublicKey) (sent : List Dispatch) (state : SessionState) : Prop :=
  ∀ chain, state.senderChain = some chain → chain.ratchetKey.publicKey ∈ presigned ∨
    chain.ratchetKey.publicKey ∈ keys ∧ ∀ dispatch ∈ sent,
      dispatch.key = chain.ratchetKey.publicKey → dispatch.counter < chain.chainKey.index.toNat

structure Sending (presigned keys : List PublicKey) (sent : List Dispatch)
    (states : List SessionState) : Prop where
  source : ∀ state ∈ states, state.Sources presigned keys sent
  apart : states.Pairwise (Apart presigned)

theorem Apart.symm {left right : SessionState} (apart : Apart presigned left right) :
    Apart presigned right left :=
  fun key isRight isLeft => apart key isLeft isRight

theorem Sources.mono {later : List PublicKey} (sources : state.Sources presigned keys sent)
    (grown : ∀ key ∈ keys, key ∈ later) : state.Sources presigned later sent := by
  intro chain hasChain
  exact (sources chain hasChain).imp_right fun drawn => ⟨grown _ drawn.1, drawn.2⟩

theorem Sending.mono {later : List PublicKey} (sending : Sending presigned keys sent states)
    (grown : ∀ key ∈ keys, key ∈ later) : Sending presigned later sent states :=
  ⟨fun state member => (sending.source state member).mono grown, sending.apart⟩

theorem Sending.sublist {fewer : List SessionState} (sending : Sending presigned keys sent states)
    (sub : fewer.Sublist states) : Sending presigned keys sent fewer :=
  ⟨fun state member => sending.source state (sub.subset member), sending.apart.sublist sub⟩

/-- A state that joins others keeps apart from them under a signed prekey. -/
theorem Sending.cons_presigned (sending : Sending presigned keys sent states)
    (hasChain : new.senderChain = some chain) (isPresigned : chain.ratchetKey.publicKey ∈ presigned) :
    Sending presigned keys sent (new :: states) := by
  constructor
  case source =>
    intro state member
    rcases List.mem_cons.mp member with rfl | older
    · intro other hasOther
      rw [hasChain] at hasOther
      cases hasOther
      exact .inl isPresigned
    · exact sending.source state older
  case apart =>
    refine List.pairwise_cons.mpr ⟨fun state _ key isNew _ => ?_, sending.apart⟩
    rw [sendingKey?_of_chain hasChain] at isNew
    exact Option.some.inj isNew ▸ isPresigned

/-- A state that joins others keeps apart from them under a ratchet key that is drawn for it. -/
theorem Sending.cons_fresh {later : List PublicKey} (sending : Sending presigned keys sent states)
    (hasChain : new.senderChain = some chain) (isFresh : chain.ratchetKey.publicKey ∉ keys)
    (isDrawn : chain.ratchetKey.publicKey ∈ later) (grown : ∀ key ∈ keys, key ∈ later)
    (unsent : ∀ dispatch ∈ sent, dispatch.key ≠ chain.ratchetKey.publicKey) :
    Sending presigned later sent (new :: states) := by
  constructor
  case source =>
    intro state member
    rcases List.mem_cons.mp member with rfl | older
    · intro other hasOther
      rw [hasChain] at hasOther
      cases hasOther
      exact .inr ⟨isDrawn, fun dispatch isSent same => absurd same (unsent dispatch isSent)⟩
    · exact (sending.source state older).mono grown
  case apart =>
    refine List.pairwise_cons.mpr ⟨fun state member key isNew isOld => ?_, sending.apart⟩
    rw [sendingKey?_of_chain hasChain] at isNew
    cases Option.some.inj isNew
    obtain ⟨other, hasOther, same⟩ := Option.map_eq_some_iff.mp isOld
    rcases sending.source state member other hasOther with isPresigned | ⟨wasDrawn, _⟩
    · exact same ▸ isPresigned
    · rw [same] at wasDrawn
      exact absurd wasDrawn isFresh

/-- A state that comes to the front with the sending chain that it had. -/
theorem Sending.cons_eraseIdx {index : Nat} (sending : Sending presigned keys sent states)
    (found : states[index]? = some state) (same : new.senderChain = state.senderChain) :
    Sending presigned keys sent (new :: states.eraseIdx index) := by
  have permuted := SessionRecord.perm_cons_eraseIdx found
  have key_eq : new.sendingKey? = state.sendingKey? := by
    rw [sendingKey?, same]
    rfl
  have apart : (state :: states.eraseIdx index).Pairwise (Apart presigned) :=
    (permuted.pairwise_iff fun apart => apart.symm).mpr sending.apart
  constructor
  case source =>
    intro other member
    rcases List.mem_cons.mp member with rfl | rest
    · have source := sending.source state (List.mem_of_getElem? found)
      unfold Sources at source ⊢
      rw [same]
      exact source
    · exact sending.source other (List.mem_of_mem_eraseIdx rest)
  case apart =>
    obtain ⟨first, others⟩ := List.pairwise_cons.mp apart
    refine List.pairwise_cons.mpr ⟨fun other member key isNew isOther => ?_, others⟩
    rw [key_eq] at isNew
    exact first other member key isNew isOther

/-- The state in front sends one message. -/
theorem Sending.sent_front {dispatch : Dispatch}
    (sending : Sending presigned keys sent (state :: states)) (hasChain : state.senderChain = some chain)
    (notLast : chain.chainKey.index ≠ 0xffffffff)
    (key_eq : dispatch.key = chain.ratchetKey.publicKey)
    (counter_eq : dispatch.counter = chain.chainKey.index.toNat) :
    Sending presigned keys (sent ++ [dispatch]) (state.sentOn suite chain :: states) := by
  obtain ⟨first, others⟩ := List.pairwise_cons.mp sending.apart
  have next_eq : (chain.chainKey.following suite).index.toNat = chain.chainKey.index.toNat + 1 :=
    toNat_succ_of_ne notLast
  constructor
  case source =>
    intro other member own hasOwn
    rcases List.mem_cons.mp member with rfl | older
    · cases hasOwn
      refine (sending.source state List.mem_cons_self chain hasChain).imp_right fun drawn => ?_
      refine ⟨drawn.1, fun sent isSent same => ?_⟩
      dsimp only at same ⊢
      rw [next_eq]
      rcases List.mem_append.mp isSent with old | new
      · exact Nat.lt_succ_of_lt (drawn.2 sent old same)
      · rw [List.mem_singleton.mp new, counter_eq]
        exact Nat.lt_succ_self _
    · rcases sending.source other (List.mem_cons_of_mem _ older) own hasOwn with isPresigned | drawn
      · exact .inl isPresigned
      · by_cases same : chain.ratchetKey.publicKey = own.ratchetKey.publicKey
        · left
          rw [← same]
          apply first other older
          · exact sendingKey?_of_chain hasChain
          · rw [same]
            exact sendingKey?_of_chain hasOwn
        · refine .inr ⟨drawn.1, fun sent isSent sameKey => ?_⟩
          rcases List.mem_append.mp isSent with old | new
          · exact drawn.2 sent old sameKey
          · rw [List.mem_singleton.mp new, key_eq] at sameKey
            exact absurd sameKey same
  case apart =>
    refine List.pairwise_cons.mpr ⟨fun other member key isNew isOther => ?_, others⟩
    apply first other member key _ isOther
    rw [sendingKey?_of_chain hasChain]
    exact isNew

end SessionState

/-! ## One party -/

/-- Whatever accounts for a record accounts for it when a session is begun on it. -/
theorem Prepares.accounted {past : PublicKey → Nat → Prop} {record final : SessionRecord}
    {place : Nat → Nat} (prepares : Prepares suite config record final place)
    (accounted : ∀ state ∈ record.states, state.Accounted config past) :
    ∀ state ∈ final.states, state.Accounted config past := by
  cases prepares with
  | stays => exact accounted
  | begun begins =>
      have room : (Session.makeRoom config record).current.Accounted config past := by
        rcases Session.current_makeRoom config record with isBlank | same
        · rw [isBlank]
          exact SessionState.accounted_blank
        · rw [same]
          exact accounted _ List.mem_cons_self
      intro state member
      rcases Session.mem_states_makeRoom member with rfl | older
      · exact room.begins (Session.rootKey_makeRoom config record) begins
      · exact accounted state older

theorem Dispatch.SamePlace.symm {dispatch other : Dispatch} (same : dispatch.SamePlace other) :
    other.SamePlace dispatch :=
  ⟨same.1.symm, same.2.1.symm, same.2.2.symm⟩

namespace Correspondence

variable {correspondence : Correspondence} {party : Party} {dispatch : Dispatch}

/-- A party has read a message of this ratchet key and counter, or has given its keys up. -/
def Past (party : Party) (correspondence : Correspondence) (key : PublicKey) (counter : Nat) : Prop :=
  (∃ dispatch ∈ correspondence.read, dispatch.addressee = party ∧ dispatch.key = key ∧
    dispatch.counter = counter) ∨ (key, counter) ∈ correspondence.evicted party

theorem Past.later {next : Correspondence} {key : PublicKey} {counter : Nat}
    (past : correspondence.Past party key counter) (grows : Grows correspondence next) :
    next.Past party key counter :=
  past.imp (fun ⟨dispatch, isRead, same⟩ => ⟨dispatch, grows.read.subset isRead, same⟩)
    fun isGone => (grows.evicted party).subset isGone

def sentBy (party : Party) (correspondence : Correspondence) : List Dispatch :=
  correspondence.sent.filter fun dispatch => dispatch.sender = party

/-- A dispatch is noted for its author alone. -/
theorem sentBy_of_sent {next : Correspondence} (sent_eq : next.sent = correspondence.sent ++ [dispatch])
    (party : Party) : next.sentBy party =
      if dispatch.sender = party then correspondence.sentBy party ++ [dispatch]
      else correspondence.sentBy party := by
  unfold sentBy
  rw [sent_eq, List.filter_append]
  by_cases isSender : dispatch.sender = party
  · simp [isSender]
  · simp [isSender]

/-- The store of a party fits what was noted: what the party has used up, the keys that were drawn, and
what the party has sent. -/
structure Fits (config : Config) (meeting : Meeting) (party : Party)
    (past : PublicKey → Nat → Prop) (keys : List PublicKey) (sent : List Dispatch)
    (store : Store) : Prop where
  published_eq : Session.published store = Session.published (meeting.store party)
  accounted : ∀ state ∈ (store.session (meeting.peer party)).states, state.Accounted config past
  sending : SessionState.Sending (meeting.signedPreKeys party) keys sent
    (store.session (meeting.peer party)).states

structure Regular (config : Config) (meeting : Meeting) (correspondence : Correspondence) : Prop where
  fits : ∀ party, Fits config meeting party (correspondence.Past party) correspondence.keys
    (correspondence.sentBy party) (correspondence.parties party).content
  keyed : ∀ dispatch ∈ correspondence.sent,
    dispatch.key ∈ meeting.signedPreKeys dispatch.sender ∨ dispatch.key ∈ correspondence.keys
  unique : ∀ dispatch ∈ correspondence.sent, ∀ other ∈ correspondence.sent,
    dispatch.SamePlace other → dispatch.key ∉ meeting.signedPreKeys dispatch.sender →
      dispatch = other

variable {past later : PublicKey → Nat → Prop} {keys drawn : List PublicKey} {sent : List Dispatch}
  {store after : Store}

theorem Fits.mono (fits : Fits config meeting party past keys sent store)
    (accounts : ∀ key counter, past key counter → later key counter)
    (grown : ∀ key ∈ keys, key ∈ drawn) : Fits config meeting party later drawn sent store where
  published_eq := fits.published_eq
  accounted state member := (fits.accounted state member).mono accounts
  sending := fits.sending.mono grown

theorem Fits.of_same_record (fits : Fits config meeting party past keys sent store)
    (published_eq : Session.published after = Session.published store)
    (record_eq : after.session (meeting.peer party) = store.session (meeting.peer party)) :
    Fits config meeting party past keys sent after where
  published_eq := published_eq.trans fits.published_eq
  accounted := by
    rw [record_eq]
    exact fits.accounted
  sending := by
    rw [record_eq]
    exact fits.sending

/-- What a party stores without any effect on the other side, it may store at any time. -/
theorem Regular.storing (regular : Regular config meeting correspondence) {lock : Locked Store}
    (fits : Fits config meeting party (correspondence.Past party) correspondence.keys
      (correspondence.sentBy party) lock.content) :
    Regular config meeting (correspondence.storing party lock) where
  fits each := by
    by_cases same : each = party
    · rw [same]
      simp only [Correspondence.storing, Function.update_self]
      exact fits
    · simp only [Correspondence.storing, Function.update_of_ne same]
      exact regular.fits each
  keyed := regular.keyed
  unique := regular.unique

theorem regular_start : Regular config meeting (start meeting) where
  fits party := by
    have record_eq : ((start meeting).parties party).content.session (meeting.peer party) = {} :=
      meeting.session_eq party
    constructor
    case published_eq => rfl
    case accounted =>
      intro state member
      rw [record_eq] at member
      cases List.mem_singleton.mp member
      exact SessionState.accounted_blank
    case sending =>
      rw [record_eq]
      refine ⟨fun state member chain hasChain => ?_, List.pairwise_singleton _ _⟩
      cases List.mem_singleton.mp member
      cases hasChain
  keyed _ member := nomatch member
  unique _ member := nomatch member

/-! ## Beginning sessions -/

/-- The signed prekeys of a party are the ones that it kept at the beginning. -/
theorem Fits.mem_signedPreKeys {id : UInt32} {record : SignedPreKeyRecord}
    (fits : Fits config meeting party past keys sent store)
    (found : store.signedPreKeys.find? id = some record) :
    record.keyPair.publicKey ∈ meeting.signedPreKeys party := by
  have same : store.signedPreKeys = (meeting.store party).signedPreKeys :=
    congrArg (fun published => published.2.2) fits.published_eq
  rw [same] at found
  exact meeting.mem_signedPreKeys found

/-- The states of a record with a session begun on it are the new one and some of the old ones. -/
theorem states_begun_sublist (record : SessionRecord) (state : SessionState) :
    ((Session.makeRoom config record).setCurrent state).states.Sublist (state :: record.states) := by
  refine (Session.states_makeRoom_cut config record state).sublist.trans ?_
  apply List.Sublist.cons_cons
  split
  · exact List.sublist_cons_self _ _
  · exact List.Sublist.refl _

theorem mem_begunKeys_base (suite : Suite) (random : Randomness) :
    (KeyPair.generate suite random).1.publicKey ∈ begunKeys suite random :=
  List.mem_cons_self

theorem mem_begunKeys_ratchet (suite : Suite) (random : Randomness) :
    (KeyPair.generate suite (KeyPair.generate suite random).2).1.publicKey ∈
      begunKeys suite random :=
  List.mem_cons_of_mem _ List.mem_cons_self

/-- Nothing was sent yet under a key that is only drawn now. -/
theorem unsent_of_fresh {key : PublicKey} (keyed : ∀ dispatch ∈ sent,
      dispatch.key ∈ meeting.signedPreKeys party ∨ dispatch.key ∈ keys)
    (unsigned : key ∉ meeting.signedPreKeys party) (isFresh : key ∉ keys) :
    ∀ dispatch ∈ sent, dispatch.key ≠ key := by
  intro dispatch isSent same
  rcases keyed dispatch isSent with isPresigned | wasDrawn
  · exact unsigned (same ▸ isPresigned)
  · exact isFresh (same ▸ wasDrawn)

theorem Fits.initiate {bundle : PreKeyBundle}
    (fits : Fits config meeting party past keys sent store)
    (processed : Session.processBundle suite config (meeting.peer party) bundle store random =
      ⟨.ok (), after, rest⟩)
    (keyed : ∀ dispatch ∈ sent, dispatch.key ∈ meeting.signedPreKeys party ∨ dispatch.key ∈ keys)
    (distinct : (keys ++ begunKeys suite random).Nodup)
    (unsigned : ∀ key ∈ meeting.signedPreKeys party, key ∉ keys ++ begunKeys suite random) :
    Fits config meeting party past (keys ++ begunKeys suite random) sent after := by
  obtain ⟨signedPreKey, state, _, _, _, established, rfl⟩ :=
    Session.processBundle_eq_ok.mp processed
  obtain ⟨secret, sending, _, _, rfl, _⟩ := Handshake.Initiator.establish_eq_ok.mp established
  let fresh := (KeyPair.generate suite (KeyPair.generate suite random).2).1.publicKey
  have isNew : fresh ∈ begunKeys suite random := mem_begunKeys_ratchet suite random
  have isFresh : fresh ∉ keys := fun wasDrawn =>
    (List.nodup_append.mp distinct).2.2 _ wasDrawn _ isNew rfl
  have isDrawn : fresh ∈ keys ++ begunKeys suite random := List.mem_append_right _ isNew
  constructor
  case published_eq => exact fits.published_eq
  case accounted =>
    rw [Store.session_putSession]
    exact (Prepares.begun (.initiated established)).accounted fits.accounted
  case sending =>
    rw [Store.session_putSession]
    apply SessionState.Sending.sublist _ (states_begun_sublist _ _)
    apply fits.sending.cons_fresh rfl isFresh isDrawn
    · intro key wasDrawn
      exact List.mem_append_left _ wasDrawn
    · exact unsent_of_fresh keyed (fun isPresigned => unsigned _ isPresigned isDrawn) isFresh

/-- A record that was brought up to a message, with its new session if there is one. -/
theorem Fits.sending_of_joined {record joined : SessionRecord}
    (fits : Fits config meeting party past keys sent store)
    (record_eq : record = store.session (meeting.peer party))
    (begun : joined = record ∨ ∃ id signedPreKey chainKey state,
      store.signedPreKeys.find? id = some signedPreKey ∧
        state.senderChain = some { ratchetKey := signedPreKey.keyPair, chainKey } ∧
        joined = (Session.makeRoom config record).setCurrent state) :
    SessionState.Sending (meeting.signedPreKeys party) keys sent joined.states := by
  have sending := fits.sending
  rw [← record_eq] at sending
  rcases begun with rfl | ⟨id, signedPreKey, chainKey, state, found, hasChain, rfl⟩
  · exact sending
  · apply SessionState.Sending.sublist _ (states_begun_sublist _ _)
    exact sending.cons_presigned hasChain (fits.mem_signedPreKeys found)

theorem Fits.accept {message : PreKeyMessage} {used : Option UInt32}
    (fits : Fits config meeting party past keys sent store)
    (processed : Session.processPreKeyMessage suite config (meeting.peer party) message store random =
      ⟨.ok used, after, rest⟩) : Fits config meeting party past keys sent after := by
  obtain ⟨joined, accepted, rfl⟩ := Session.processPreKeyMessage_eq_ok processed
  constructor
  case published_eq => exact fits.published_eq
  case accounted =>
    rw [Store.session_putSession]
    exact (Session.prepares_of_accept accepted).accounted fits.accounted
  case sending =>
    rw [Store.session_putSession]
    exact fits.sending_of_joined rfl
      ((Session.senderChain_of_accept accepted).imp_right fun begun => ⟨_, begun⟩)

/-! ## Sending -/

/-- What a party encrypts is the next message on the sending chain of its current state. -/
theorem sending_of_encrypt {plaintext : Bytes} {message : CiphertextMessage} {address : Address}
    (encrypted : Session.encrypt suite config address plaintext store random =
      ⟨.ok message, after, rest⟩) :
    ∃ chain, (store.session address).current.senderChain = some chain ∧
      chain.chainKey.index ≠ 0xffffffff ∧
      message.inner.ratchetKey = chain.ratchetKey.publicKey ∧
      message.inner.counter = chain.chainKey.index ∧
      after = store.putSession address ((store.session address).setCurrent
        ((store.session address).current.sentOn suite chain)) := by
  obtain ⟨ours, theirs, state, _, _, _, made, rfl⟩ := Session.encrypt_eq_ok.mp encrypted
  obtain ⟨chain, ciphertext, hasChain, _, notLast, rfl, rfl, _⟩ := SessionState.encrypt_eq_ok.mp made
  refine ⟨chain, hasChain, notLast, ?_, ?_, rfl⟩
  · rw [SessionState.inner_outerMessage]
    rfl
  · rw [SessionState.inner_outerMessage]
    rfl

theorem Fits.send {plaintext : Bytes} (fits : Fits config meeting party past keys sent store)
    (encrypted : Session.encrypt suite config (meeting.peer party) plaintext store random =
      ⟨.ok dispatch.message, after, rest⟩) :
    Fits config meeting party past keys (sent ++ [dispatch]) after := by
  obtain ⟨ours, theirs, state, _, _, _, made, stored⟩ := Session.encrypt_eq_ok.mp encrypted
  obtain ⟨chain, hasChain, notLast, key_eq, counter_eq, rfl⟩ := sending_of_encrypt encrypted
  constructor
  case published_eq => exact fits.published_eq
  case accounted =>
    rw [stored, Store.session_putSession]
    intro other member
    rcases List.mem_cons.mp member with rfl | older
    · exact (fits.accounted _ List.mem_cons_self).sent made
    · exact fits.accounted other (List.mem_cons_of_mem _ older)
  case sending =>
    rw [Store.session_putSession]
    exact fits.sending.sent_front hasChain notLast key_eq (congrArg UInt32.toNat counter_eq)

/-- A new dispatch is on a chain of its own, or comes after all others of its chain. -/
theorem Fits.newest {plaintext : Bytes} (fits : Fits config meeting party past keys sent store)
    (encrypted : Session.encrypt suite config (meeting.peer party) plaintext store random =
      ⟨.ok dispatch.message, after, rest⟩) :
    dispatch.key ∈ meeting.signedPreKeys party ∨ dispatch.key ∈ keys ∧
      ∀ other ∈ sent, other.key = dispatch.key → other.counter < dispatch.counter := by
  obtain ⟨chain, hasChain, _, key_eq, counter_eq, _⟩ := sending_of_encrypt encrypted
  have source := fits.sending.source _ List.mem_cons_self chain hasChain
  rw [← key_eq, ← counter_eq] at source
  exact source

/-! ## Reading -/

theorem Fits.read {message : CiphertextMessage} {plaintext : Bytes}
    (fits : Fits config meeting party past keys sent store)
    (opened : Session.Opened suite config (meeting.peer party) message store random plaintext after)
    (accounts : ∀ key counter, past key counter → later key counter)
    (isRead : later message.inner.ratchetKey message.inner.counter.toNat)
    (evicted : ∀ counter ∈ (Session.opener suite config (meeting.peer party) message store
      random).evictions config message.inner, later message.inner.ratchetKey counter)
    (keyed : ∀ dispatch ∈ sent, dispatch.key ∈ meeting.signedPreKeys party ∨ dispatch.key ∈ keys)
    (drawn_eq : drawn =
      (Session.opener suite config (meeting.peer party) message store random).keysAfter
        message.inner.ratchetKey (after.session (meeting.peer party)).current keys)
    (distinct : drawn.Nodup) (unsigned : ∀ key ∈ meeting.signedPreKeys party, key ∉ drawn) :
    Fits config meeting party later drawn sent after := by
  obtain ⟨index, attempt, final, _, found, decrypted, record_eq⟩ := opened.opened
  let record := (Session.prepared suite config (meeting.peer party) message store random).1
  obtain ⟨place, prepares⟩ : ∃ place, Prepares suite config (store.session (meeting.peer party))
      record place := Session.prepares_prepared message store random
  have accounted : ∀ state ∈ record.states, state.Accounted config past :=
    prepares.accounted fits.accounted
  have sending : SessionState.Sending (meeting.signedPreKeys party) keys sent record.states :=
    fits.sending_of_joined rfl (Session.senderChain_of_prepared message store random)
  constructor
  case published_eq => exact opened.published_eq.trans fits.published_eq
  case accounted =>
    rw [record_eq]
    intro state member
    rcases SessionRecord.mem_answered member with rfl | older
    · exact (accounted _ (List.mem_of_getElem? found)).read decrypted accounts isRead evicted
    · exact (accounted state older).mono accounts
  case sending =>
    rw [record_eq, SessionRecord.current_answered, SessionState.keysAfter] at drawn_eq
    rw [record_eq]
    apply SessionState.Sending.sublist _ (SessionRecord.states_answered_cut config _ record).sublist
    rcases SessionState.senderChain_of_decrypt decrypted with ⟨known, same⟩ | ⟨missing, chain, hasChain, _⟩
    · rw [if_pos known] at drawn_eq
      rw [drawn_eq]
      exact sending.cons_eraseIdx found same
    · rw [missing, if_neg Bool.false_ne_true] at drawn_eq
      dsimp only at drawn_eq
      rw [SessionState.sendingKey?_of_chain hasChain] at drawn_eq
      have isDrawn : chain.ratchetKey.publicKey ∈ drawn := by
        rw [drawn_eq]
        exact List.mem_append_right _ List.mem_cons_self
      have isFresh : chain.ratchetKey.publicKey ∉ keys := by
        rw [drawn_eq] at distinct
        exact fun wasDrawn =>
          (List.nodup_append.mp distinct).2.2 _ wasDrawn _ List.mem_cons_self rfl
      apply (sending.sublist (List.eraseIdx_sublist _ _)).cons_fresh hasChain isFresh isDrawn
      · intro key wasDrawn
        rw [drawn_eq]
        exact List.mem_append_left _ wasDrawn
      · exact unsent_of_fresh keyed (fun isPresigned => unsigned _ isPresigned isDrawn) isFresh

/-! ## Every action -/

/-- One party acts; for the other it is enough that nothing is taken back. -/
theorem Regular.act {next : Correspondence} {lock : Locked Store}
    (regular : Regular config meeting correspondence) (grows : Grows correspondence next)
    (parties_eq : next.parties = Function.update correspondence.parties party lock)
    (fits : Fits config meeting party (next.Past party) next.keys (next.sentBy party) lock.content)
    (elsewhere : ∀ other, other ≠ party → next.sentBy other = correspondence.sentBy other)
    (keyed : ∀ dispatch ∈ next.sent, dispatch ∈ correspondence.sent ∨
      dispatch.key ∈ meeting.signedPreKeys dispatch.sender ∨ dispatch.key ∈ next.keys)
    (unique : ∀ dispatch ∈ next.sent, ∀ other ∈ next.sent, dispatch.SamePlace other →
      dispatch.key ∉ meeting.signedPreKeys dispatch.sender → dispatch = other) :
    Regular config meeting next where
  fits each := by
    rw [parties_eq]
    by_cases same : each = party
    · rw [same, Function.update_self]
      exact fits
    · rw [Function.update_of_ne same, elsewhere each same]
      exact (regular.fits each).mono (fun _ _ past => past.later grows)
        fun _ wasDrawn => grows.keys.subset wasDrawn
  keyed dispatch isSent := by
    rcases keyed dispatch isSent with before | new
    · exact (regular.keyed dispatch before).imp_right fun wasDrawn => grows.keys.subset wasDrawn
    · exact new
  unique := unique

theorem Fits.of_failed {α : Type} {step : Step Store α} {lock left : Locked Store} {failure : Failure}
    (fits : Fits config meeting party past keys sent lock.content) (atomic : Step.Atomic step)
    (failed : Locked.run step lock random = ⟨.error failure, left, rest⟩) :
    Fits config meeting party past keys sent left.content := by
  rw [Locked.content_of_failed failed atomic]
  exact fits

theorem Regular.keyed_by (regular : Regular config meeting correspondence) (party : Party) :
    ∀ dispatch ∈ correspondence.sentBy party,
      dispatch.key ∈ meeting.signedPreKeys party ∨ dispatch.key ∈ correspondence.keys := by
  intro dispatch member
  obtain ⟨isSent, isSender⟩ := List.mem_filter.mp member
  have keyed := regular.keyed dispatch isSent
  rwa [of_decide_eq_true isSender] at keyed

theorem Regular.initiate (regular : Regular config meeting correspondence) (party : Party)
    (bundle : PreKeyBundle) (random : Randomness)
    (honest : Honest suite config meeting correspondence (.initiate party bundle) random) :
    Regular config meeting
      (correspondence.initiate suite config meeting party bundle random) := by
  have distinct := honest.distinct
  have unsigned := honest.unsigned party
  have fits := regular.fits party
  rw [after] at distinct unsigned
  rcases initiate_cases party bundle random correspondence with
    ⟨lock, content_eq, initiate_eq⟩ | ⟨lock, rest, processed, initiate_eq⟩
  · rw [initiate_eq]
    apply regular.storing
    rw [content_eq]
    exact fits
  · rw [initiate_eq] at distinct unsigned ⊢
    apply regular.act (grows_begun party bundle random lock correspondence) rfl
    · exact fits.initiate processed (regular.keyed_by party) distinct unsigned
    · exact fun _ _ => rfl
    · exact fun _ isSent => .inl isSent
    · exact regular.unique

theorem Regular.accept (regular : Regular config meeting correspondence) (party : Party)
    (message : PreKeyMessage) (random : Randomness) :
    Regular config meeting
      (correspondence.accept suite config meeting party message random) := by
  unfold Correspondence.accept
  apply regular.storing
  have fits := regular.fits party
  rcases outcome : Locked.run (Session.processPreKeyMessage suite config (meeting.peer party) message)
    (correspondence.parties party) random with ⟨failure | used, lock, rest⟩
  · exact fits.of_failed Session.atomic_processPreKeyMessage outcome
  · exact fits.accept (Locked.run_eq_ok outcome).2.2

/-- Where a party sends a message, none was sent before, signed prekeys apart. -/
theorem Regular.place_is_free (regular : Regular config meeting correspondence)
    (newest : dispatch.key ∈ meeting.signedPreKeys dispatch.sender ∨
      dispatch.key ∈ correspondence.keys ∧ ∀ other ∈ correspondence.sentBy dispatch.sender,
        other.key = dispatch.key → other.counter < dispatch.counter)
    (first : Dispatch) (isFirst : first ∈ correspondence.sent ++ [dispatch])
    (second : Dispatch) (isSecond : second ∈ correspondence.sent ++ [dispatch])
    (same : first.SamePlace second)
    (notPresigned : first.key ∉ meeting.signedPreKeys first.sender) : first = second := by
  have notBefore (other : Dispatch) (isSent : other ∈ correspondence.sent)
      (same : other.SamePlace dispatch) : dispatch.key ∈ meeting.signedPreKeys dispatch.sender := by
    rcases newest with isPresigned | ⟨_, before⟩
    · exact isPresigned
    · have bySender : other ∈ correspondence.sentBy dispatch.sender :=
        List.mem_filter.mpr ⟨isSent, decide_eq_true same.1⟩
      exact absurd same.2.2 (Nat.ne_of_lt (before other bySender same.2.1))
  rcases List.mem_append.mp isFirst with oldFirst | newFirst
  · rcases List.mem_append.mp isSecond with oldSecond | newSecond
    · exact regular.unique first oldFirst second oldSecond same notPresigned
    · rw [List.mem_singleton.mp newSecond] at same
      rw [same.1, same.2.1] at notPresigned
      exact absurd (notBefore first oldFirst same) notPresigned
  · rw [List.mem_singleton.mp newFirst] at same notPresigned ⊢
    rcases List.mem_append.mp isSecond with oldSecond | newSecond
    · exact absurd (notBefore second oldSecond same.symm) notPresigned
    · exact (List.mem_singleton.mp newSecond).symm

theorem Regular.send (regular : Regular config meeting correspondence) (party : Party)
    (plaintext : Bytes) (random : Randomness) :
    Regular config meeting
      (correspondence.send suite config meeting party plaintext random) := by
  have fits := regular.fits party
  rcases send_cases party plaintext random correspondence with
    ⟨lock, content_eq, send_eq⟩ | ⟨message, lock, rest, encrypted, send_eq⟩
  · rw [send_eq]
    apply regular.storing
    rw [content_eq]
    exact fits
  · rw [send_eq]
    let dispatch : Dispatch :=
      { sender := party, base := (correspondence.record meeting party).current.initiatorBaseKey,
        message, plaintext }
    have newest : dispatch.key ∈ meeting.signedPreKeys dispatch.sender ∨
        dispatch.key ∈ correspondence.keys ∧ ∀ other ∈ correspondence.sentBy dispatch.sender,
          other.key = dispatch.key → other.counter < dispatch.counter := fits.newest encrypted
    apply regular.act (grows_posting party lock message plaintext correspondence) rfl
    · rw [sentBy_of_sent rfl, if_pos rfl]
      exact fits.send encrypted
    · intro other different
      rw [sentBy_of_sent rfl, if_neg (Ne.symm different)]
    · intro other isSent
      refine (List.mem_append.mp isSent).imp_right fun new => ?_
      rw [List.mem_singleton.mp new]
      exact newest.imp_right And.left
    · exact regular.place_is_free newest

theorem Regular.deliver (regular : Regular config meeting correspondence) (dispatch : Dispatch)
    (random : Randomness)
    (honest : Honest suite config meeting correspondence (.deliver dispatch) random) :
    Regular config meeting
      (correspondence.deliver suite config meeting dispatch random) := by
  have distinct := honest.distinct
  have unsigned := honest.unsigned dispatch.addressee
  have fits := regular.fits dispatch.addressee
  rw [after] at distinct unsigned
  rcases deliver_cases dispatch random correspondence with
    ⟨lock, left, deliver_eq⟩ | ⟨plaintext, lock, rest, outcome, deliver_eq⟩
  · rw [deliver_eq]
    apply regular.storing
    rcases left with rfl | ⟨failure, rest, failed⟩
    · exact fits
    · rcases Session.unread_of_decrypt failed with same | ⟨identity, pinned⟩
      · rw [same]
        exact fits
      · rw [pinned]
        exact fits.of_same_record rfl rfl
  · rw [deliver_eq] at distinct unsigned ⊢
    obtain ⟨_, _, read⟩ := Locked.run_eq_ok outcome
    let opener := correspondence.opener suite config meeting dispatch random
    let final := (lock.content.session (meeting.peer dispatch.addressee)).current
    have grows : Grows correspondence (correspondence.reading config dispatch lock opener final) :=
      grows_reading dispatch lock opener final correspondence
    apply regular.act grows rfl
    · apply fits.read (Session.opened_of_decrypt read)
      · exact fun key counter past => past.later grows
      · exact .inl ⟨dispatch, List.mem_append_right _ List.mem_cons_self, rfl, rfl, rfl⟩
      · exact fun counter isEvicted => .inr (mem_evicted_reading isEvicted)
      · exact regular.keyed_by dispatch.addressee
      · rfl
      · exact distinct
      · exact unsigned
    · exact fun _ _ => rfl
    · exact fun _ isSent => .inl isSent
    · exact regular.unique

theorem Regular.step (regular : Regular config meeting correspondence) (action : Action)
    (random : Randomness) (honest : Honest suite config meeting correspondence action random) :
    Regular config meeting (correspondence.after suite config meeting action random) := by
  cases action with
  | initiate party bundle => exact regular.initiate party bundle random honest
  | accept party message => exact regular.accept party message random
  | send party plaintext => exact regular.send party plaintext random
  | deliver dispatch => exact regular.deliver dispatch random honest

theorem Run.regular (run : Run suite config meeting (Honest suite config meeting) correspondence) :
    Regular config meeting correspondence := by
  induction run with
  | start => exact regular_start
  | step _ action random honest regular => exact regular.step action random honest

end Correspondence
end DoubleRatchet
