import DoubleRatchet.Proofs.Conversation.Follow
import DoubleRatchet.Proofs.Correspondence.Orderly

/-!
# One session of a correspondence

A session of a correspondence, looked at alone, is a conversation: its states take no notice of the other
sessions. A thread is that conversation and its script; this module says what ties a thread to the keys
that were drawn in the correspondence, to what was read and to what was given up, and what a step of its
session does to it.
-/

namespace DoubleRatchet

structure Thread (suite : Suite) where
  initiator : Party
  opening : Opening suite
  script : Script
  conversation : Conversation

namespace Thread

variable {suite : Suite} {config : Config} {meeting : Meeting} {thread next : Thread suite}
  {party : Party} {side : Side} {key : PublicKey} {keys drawn : List PublicKey}
  {read after : List Dispatch} {evicted gone : Party → List (PublicKey × Nat)} {letter : Letter}
  {random rest : Randomness}

def base (thread : Thread suite) : PublicKey :=
  thread.script.base

/-- The ratchet key under which the responder could send first; it never does. -/
def signedPreKey (thread : Thread suite) : PublicKey :=
  thread.opening.signedPreKey.keyPair.publicKey

/-- The state of a party, or the one with which it would join. -/
def state (party : Party) (thread : Thread suite) : SessionState :=
  thread.script.states (thread.initiator.sideOf party)

/-- The party has the session. -/
def Met (party : Party) (thread : Thread suite) : Prop :=
  thread.initiator.sideOf party = .initiator ∨ thread.script.hasJoined = true

def Owns (key : PublicKey) (thread : Thread suite) : Prop :=
  ∃ side, key ∈ (thread.script.halves side).keys

/-- The letters of a thread are on the network as dispatches. -/
def post (letter : Letter) (thread : Thread suite) : Dispatch :=
  { sender := thread.initiator.partyAt letter.sender
    base := some thread.base
    message := letter.message
    plaintext := letter.plaintext }

theorem addressee_post (letter : Letter) (thread : Thread suite) :
    (thread.post letter).addressee = thread.initiator.partyAt letter.addressee :=
  Party.partyAt_other.symm

theorem state_partyAt (side : Side) (thread : Thread suite) :
    thread.state (thread.initiator.partyAt side) = thread.script.states side := by
  rw [state, Party.sideOf_partyAt]

/-- A thread stands in a correspondence: what it has drawn, read and given up was noted there. -/
structure Belongs (config : Config) (meeting : Meeting) (keys : List PublicKey)
    (read : List Dispatch) (evicted : Party → List (PublicKey × Nat)) (thread : Thread suite) :
    Prop where
  follows : thread.script.Follows config thread.opening thread.conversation
  joins : thread.opening.Joins meeting thread.initiator
  begun : thread.base ∈ keys
  owned : ∀ key, thread.Owns key → key = thread.signedPreKey ∨ key ∈ keys
  sending : ∀ party, thread.Met party → ∀ key, (thread.state party).sendingKey? = some key →
    key ∈ keys
  noted : ∀ side, ∀ key ∈ (thread.conversation.books side).keys, key = thread.signedPreKey ∨
    ∃ letter ∈ thread.conversation.read, letter.addressee = side ∧ letter.key = key
  keyed : ∀ letter ∈ thread.conversation.sent, letter.key ∈ keys
  wasRead : ∀ letter ∈ thread.conversation.read, thread.post letter ∈ read
  gaveUp : ∀ side key, ∀ counter ∈ ((thread.conversation.books side).log key).evicted,
    (key, counter) ∈ evicted (thread.initiator.partyAt side)

theorem Belongs.mono (belongs : thread.Belongs config meeting keys read evicted)
    (drawn_subset : keys ⊆ drawn) (read_subset : read ⊆ after)
    (gone_subset : ∀ party, evicted party ⊆ gone party) :
    thread.Belongs config meeting drawn after gone :=
  { belongs with
    begun := drawn_subset belongs.begun
    owned := fun key owns => (belongs.owned key owns).imp_right (@drawn_subset key)
    sending := fun party met key sends => drawn_subset (belongs.sending party met key sends)
    keyed := fun letter isSent => drawn_subset (belongs.keyed letter isSent)
    wasRead := fun letter isRead => read_subset (belongs.wasRead letter isRead)
    gaveUp := fun side key counter isGone => gone_subset _ (belongs.gaveUp side key counter isGone) }

theorem Belongs.noIdentity (belongs : thread.Belongs config meeting keys read evicted)
    (party : Party) : (meeting.store party).identities.find? (meeting.peer party) = none := by
  have unknown := thread.opening.noIdentity (thread.initiator.sideOf party)
  rwa [belongs.joins.store_eq, belongs.joins.peer_eq, Party.partyAt_sideOf] at unknown

theorem Belongs.signedPreKey_kept (belongs : thread.Belongs config meeting keys read evicted) :
    thread.signedPreKey ∈ meeting.signedPreKeys thread.initiator.other := by
  have kept := thread.opening.signedPreKey_kept
  rw [belongs.joins.store_eq] at kept
  exact Meeting.mem_signedPreKeys kept

/-! ## What a state of the thread knows -/

theorem Belongs.baseKey_eq (belongs : thread.Belongs config meeting keys read evicted)
    (party : Party) : (thread.state party).initiatorBaseKey = some thread.base :=
  belongs.follows.baseKey_eq _

theorem Belongs.isInitialized_eq (belongs : thread.Belongs config meeting keys read evicted)
    (party : Party) : (thread.state party).isInitialized = true :=
  (belongs.follows.synced.holds _).isInitialized_eq

/-- A state has received under no key but those of its own thread. -/
theorem Belongs.missing (belongs : thread.Belongs config meeting keys read evicted)
    (stranger : ¬thread.Owns key) (party : Party) : (thread.state party).receiverChain? key = none := by
  have synced := belongs.follows.synced
  apply (synced.holds _).receiverChain?_of_unseen
  intro noted
  exact stranger ⟨_, (synced.book_keys_sublist _).subset noted⟩

theorem Belongs.length_keys_le (belongs : thread.Belongs config meeting keys read evicted)
    (side : Side) : (thread.script.halves side).keys.length ≤ keys.length + 1 := by
  have distinct := (belongs.follows.synced.proper side).distinct
  have within : (thread.script.halves side).keys ⊆ thread.signedPreKey :: keys := by
    intro key member
    rcases belongs.owned key ⟨side, member⟩ with rfl | isDrawn
    · exact List.mem_cons_self
    · exact List.mem_cons_of_mem _ isDrawn
  exact distinct.length_le_of_subset within

/-- A key that was not drawn yet is no ratchet key of the thread. -/
theorem Belongs.undrawn (belongs : thread.Belongs config meeting keys read evicted)
    (isNew : key ∉ keys) (notSigned : key ≠ thread.signedPreKey) (side : Side) :
    key ∉ thread.conversation.ratchetKeys side := by
  rw [belongs.follows.drawn side]
  intro owned
  rcases belongs.owned key ⟨side, owned⟩ with isSigned | wasDrawn
  · exact notSigned isSigned
  · exact isNew wasDrawn

/-- While few keys have been drawn, every state has room for two more epochs. -/
theorem Belongs.room (belongs : thread.Belongs config meeting keys read evicted)
    (few : keys.length + 1 < 0x80000000) (party : Party) :
    (thread.state party).authKey.epoch.toNat < 0xfffffffe := by
  have epoch_eq := (belongs.follows.synced.holds (thread.initiator.sideOf party)).epoch_eq
  have bound := belongs.length_keys_le (thread.initiator.sideOf party)
  rw [Half.length_keys] at bound
  unfold state
  omega

/-- The log of a chain in the state is the one in the book. -/
theorem Belongs.log_eq (belongs : thread.Belongs config meeting keys read evicted)
    (kept : (thread.conversation.books side).Keeps config key) :
    (thread.script.states side).log key =
      { (thread.conversation.books side).log key with evicted := [] } := by
  have synced := belongs.follows.synced
  have holds := synced.holds side
  by_cases noted : key ∈ (thread.conversation.books side).keys
  · unfold Book.Keeps at kept
    rw [Book.noting_of_mem noted] at kept
    have begins := (synced.proper side.other).begins key
      ((synced.book_keys_sublist side).subset noted)
    rw [SessionState.log_of_found (holds.receiverChain?_eq (synced.distinct side) kept)]
    exact ReceiverChain.log_realise begins (synced.valid_log side key)
  · rw [SessionState.log, holds.receiverChain?_of_unseen noted, Book.log_of_unseen noted]
    rfl

/-- A chain that the state has, or that is new to it and that it can keep. -/
theorem Belongs.keeps (belongs : thread.Belongs config meeting keys read evicted)
    (isSent : letter ∈ thread.conversation.sent) (unsigned : thread.signedPreKey ∉ keys)
    (reachable : ((thread.script.states letter.addressee).receiverChain? letter.key).isSome = true ∨
      0 < config.maxReceiverChains ∧ ∀ other ∈ thread.conversation.read, other.key ≠ letter.key) :
    (thread.conversation.books letter.addressee).Keeps config letter.key := by
  have holds := belongs.follows.synced.holds letter.addressee
  by_cases noted : letter.key ∈ (thread.conversation.books letter.addressee).keys
  · rcases reachable with known | ⟨_, isNew⟩
    · exact holds.keeps_of_known known
    · rcases belongs.noted _ _ noted with isSigned | ⟨other, isRead, _, same⟩
      · exact absurd (isSigned ▸ belongs.keyed letter isSent) unsigned
      · exact absurd same (isNew other isRead)
  · rcases reachable with known | ⟨room, _⟩
    · rw [holds.receiverChain?_of_unseen noted] at known
      cases known
    · exact Book.keeps_of_unseen noted room

/-! ## Beginning a thread -/

/-- The thread of a session that a party has just begun. -/
def begun (config : Config) (party : Party) (opening : Opening suite) (secret : Bytes)
    (sending : RootStep) (random : Randomness) : Thread suite :=
  { initiator := party
    opening := opening
    script := .begun config opening (KeyPair.generate suite random).1
      (KeyPair.generate suite (KeyPair.generate suite random).2).1 secret sending
    conversation := .begun config opening random }

variable {opening : Opening suite} {secret : Bytes} {sending : RootStep}

theorem owns_begun (owns : (begun config party opening secret sending random).Owns key) :
    key = opening.signedPreKey.keyPair.publicKey ∨
      key = (KeyPair.generate suite (KeyPair.generate suite random).2).1.publicKey := by
  obtain ⟨side, member⟩ := owns
  cases side with
  | initiator => exact .inr (List.mem_singleton.mp member)
  | responder => exact .inl (List.mem_singleton.mp member)

theorem met_begun : (begun config party opening secret sending random).Met party :=
  .inl (Party.sideOf_self party)

theorem state_begun : (begun config party opening secret sending random).state party =
    opening.begun config (KeyPair.generate suite random).1
      (KeyPair.generate suite (KeyPair.generate suite random).2).1 secret sending := by
  rw [state, show (begun config party opening secret sending random).initiator = party from rfl,
    Party.sideOf_self]
  rfl

theorem not_met_begun : ¬(begun config party opening secret sending random).Met party.other := by
  have isResponder : party.sideOf party.other = .responder := if_neg (Party.other_ne party)
  rintro (isInitiator | hasJoined)
  · rw [show (begun config party opening secret sending random).initiator = party from rfl,
      isResponder] at isInitiator
    cases isInitiator
  · cases hasJoined

theorem belongs_begun (lawful : suite.Lawful) (joins : opening.Joins meeting party)
    (found : (opening.responder (KeyPair.generate suite random).1.publicKey).secret suite =
      .ok secret)
    (stepped : (Handshake.firstStep suite secret []).root.step suite
      opening.signedPreKey.keyPair.publicKey
      (KeyPair.generate suite (KeyPair.generate suite random).2).1 = .ok sending)
    (drawn : Correspondence.begunKeys suite random ⊆ keys) :
    (begun config party opening secret sending random).Belongs config meeting keys read evicted := by
  have baseDrawn := drawn List.mem_cons_self
  have ratchetDrawn := drawn (List.mem_cons_of_mem _ List.mem_cons_self)
  constructor
  case follows => exact Script.follows_begun found stepped lawful
  case joins => exact joins
  case begun => exact baseDrawn
  case owned =>
    intro key owns
    rcases owns_begun owns with isSigned | rfl
    · exact .inl isSigned
    · exact .inr ratchetDrawn
  case sending =>
    intro each met key sends
    rcases Party.eq_or_eq_other each party with rfl | rfl
    · rw [state_begun] at sends
      cases sends
      exact ratchetDrawn
    · exact absurd met not_met_begun
  case noted =>
    intro side key noted
    cases side with
    | initiator => exact .inl (List.mem_singleton.mp noted)
    | responder => cases noted
  case keyed => exact fun _ member => nomatch member
  case wasRead => exact fun _ member => nomatch member
  case gaveUp =>
    intro side key counter isGone
    cases side with
    | initiator =>
        change counter ∈ (Book.log key [_]).evicted at isGone
        rw [Book.log_noted] at isGone
        cases isGone
    | responder => cases isGone

/-! ## What a step of its session does to a thread -/

/-- One thread goes on as another: a party has a new state of the session, and the other party has the
one that it had. -/
structure Continues (party : Party) (state : SessionState) (thread next : Thread suite) : Prop where
  initiator_eq : next.initiator = thread.initiator
  opening_eq : next.opening = thread.opening
  base_eq : next.base = thread.base
  state_eq : next.state party = state
  elsewhere : next.state party.other = thread.state party.other
  met : next.Met party
  met_elsewhere : next.Met party.other ↔ thread.Met party.other

/-- A thread goes on when one of its sides has a new state. -/
theorem continues_of_update {final : SessionState} (initiator_eq : next.initiator = thread.initiator)
    (opening_eq : next.opening = thread.opening) (base_eq : next.base = thread.base)
    (states_eq : next.script.states = side.update final thread.script.states)
    (met : next.Met (thread.initiator.partyAt side))
    (met_elsewhere : next.Met (thread.initiator.partyAt side).other ↔
      thread.Met (thread.initiator.partyAt side).other) :
    thread.Continues (thread.initiator.partyAt side) final next where
  initiator_eq := initiator_eq
  opening_eq := opening_eq
  base_eq := base_eq
  state_eq := by rw [state, initiator_eq, states_eq, Party.sideOf_partyAt, Side.update_self]
  elsewhere := by
    rw [state, state, initiator_eq, states_eq, Party.sideOf_other, Party.sideOf_partyAt,
      Side.update_other]
  met := met
  met_elsewhere := met_elsewhere

/-! ## Sending -/

/-- The thread after one more letter of a side. -/
def sent (side : Side) (lock : Locked Store) (message : CiphertextMessage) (plaintext : Bytes)
    (thread : Thread suite) : Thread suite :=
  { thread with
    script := thread.script.sent suite side
    conversation :=
      { thread.conversation with
        parties := side.update lock thread.conversation.parties
        sent := thread.conversation.sent ++ [{ sender := side, message, plaintext }] } }

section Sent

variable {ours theirs : PublicKey} {lock : Locked Store} {message : CiphertextMessage}
  {plaintext : Bytes} {final : SessionState}

theorem owns_sent : (thread.sent side lock message plaintext).Owns key ↔ thread.Owns key := by
  unfold Owns sent
  simp only [Script.keys_sent]

/-- Whoever sends goes on under the ratchet key that it has. -/
theorem Belongs.sendingKey?_sent (belongs : thread.Belongs config meeting keys read evicted)
    (party : Party) : ((thread.sent side lock message plaintext).state party).sendingKey? =
      (thread.state party).sendingKey? :=
  Side.update_congr SessionState.sendingKey? (belongs.follows.synced.holds side).sendingKey?_eq.symm

/-- A party would send the same letter if the thread were its only session. -/
theorem Belongs.encrypt_alone (belongs : thread.Belongs config meeting keys read evicted)
    (met : thread.Met party) (identified : (thread.state party).identities = .ok (ours, theirs))
    (encrypted : SessionState.encrypt suite config ours theirs plaintext (thread.state party)
      random = ⟨.ok message, final, rest⟩) :
    let side := thread.initiator.sideOf party
    ∃ after, Session.encrypt suite config (thread.opening.peer side) plaintext
      (thread.conversation.parties side).content random = ⟨.ok message, after, rest⟩ := by
  intro side
  let store := (thread.conversation.parties side).content
  have holds := belongs.follows.synced.holds side
  have sole := (belongs.follows.keeps side).sole_of_met met
  have current_eq : (store.session (thread.opening.peer side)).current = thread.state party := by
    rw [sole.session_eq]
    rfl
  have theirs_eq := identified.symm.trans holds.identities_eq
  cases theirs_eq
  have trusted : store.trusts (thread.opening.peer side) (thread.opening.identity side.other) =
      true := (Store.trusts_iff _ store _).mpr (.inr sole.identity_eq)
  rw [← current_eq] at identified encrypted
  exact ⟨_, Session.encrypt_eq_ok.mpr ⟨_, _, final, sole.begun holds.isInitialized_eq, identified,
    trusted, encrypted, rfl⟩⟩

theorem Belongs.continues_sent (belongs : thread.Belongs config meeting keys read evicted)
    (met : thread.Met party)
    (encrypted : SessionState.encrypt suite config ours theirs plaintext (thread.state party)
      random = ⟨.ok message, final, rest⟩) :
    thread.Continues party final
      (thread.sent (thread.initiator.sideOf party) lock message plaintext) := by
  let side := thread.initiator.sideOf party
  have final_eq : (thread.script.states side).sentOn suite
      ((thread.script.halves side).sending suite) = final := by
    obtain ⟨chain, _, hasChain, _, _, _, sentOn_eq, _⟩ := SessionState.encrypt_eq_ok.mp encrypted
    cases hasChain.symm.trans (belongs.follows.synced.holds side).senderChain_eq
    exact sentOn_eq.symm
  have states_eq : (thread.sent side lock message plaintext).script.states =
      side.update final thread.script.states := by
    rw [← final_eq]
    rfl
  have party_eq : thread.initiator.partyAt side = party := Party.partyAt_sideOf
  have continues : thread.Continues (thread.initiator.partyAt side) final
      (thread.sent side lock message plaintext) :=
    continues_of_update rfl rfl rfl states_eq (party_eq.symm ▸ met) Iff.rfl
  rw [party_eq] at continues
  exact continues

theorem Belongs.exists_sent (belongs : thread.Belongs config meeting keys read evicted)
    (lawful : suite.Lawful) (short : config.macLength ≤ 32) (met : thread.Met party)
    (identified : (thread.state party).identities = .ok (ours, theirs))
    (encrypted : SessionState.encrypt suite config ours theirs plaintext (thread.state party)
      random = ⟨.ok message, final, rest⟩) :
    ∃ next : Thread suite, thread.Continues party final next ∧
      (∀ key, next.Owns key → thread.Owns key) ∧
      next.script.hasJoined = thread.script.hasJoined ∧
      next.conversation.sent = thread.conversation.sent ++
        [{ sender := thread.initiator.sideOf party, message, plaintext }] ∧
      next.Belongs config meeting keys read evicted := by
  have follows := belongs.follows
  obtain ⟨after, alone⟩ := belongs.encrypt_alone met identified encrypted
  refine ⟨thread.sent (thread.initiator.sideOf party) { content := after } message plaintext,
    belongs.continues_sent met encrypted, fun key => owns_sent.mp, rfl, rfl, ?_⟩
  constructor
  case follows => exact follows.sent lawful short alone
  case joins => exact belongs.joins
  case begun => exact belongs.begun
  case owned => exact fun key owns => belongs.owned key (owns_sent.mp owns)
  case sending =>
    intro each hasMet key sends
    rw [belongs.sendingKey?_sent] at sends
    exact belongs.sending each hasMet key sends
  case noted => exact belongs.noted
  case keyed =>
    intro letter isSent
    rcases List.mem_append.mp isSent with old | new
    · exact belongs.keyed letter old
    · rw [List.mem_singleton.mp new]
      obtain ⟨isNext, _⟩ := follows.next_of_encrypt alone
      apply belongs.sending party met
      rw [isNext.key_eq]
      exact (follows.synced.holds _).sendingKey?_eq
  case wasRead => exact belongs.wasRead
  case gaveUp => exact belongs.gaveUp

end Sent

/-! ## Reading -/

/-- The responder has met nobody before it reads its first letter. -/
theorem Belongs.met_of_noted (belongs : thread.Belongs config meeting keys read evicted)
    (unsigned : thread.signedPreKey ∉ keys) (isSent : letter ∈ thread.conversation.sent)
    (noted : letter.key ∈ (thread.conversation.books letter.addressee).keys) :
    thread.Met (thread.initiator.partyAt letter.addressee) := by
  right
  rcases belongs.noted _ _ noted with isSigned | ⟨other, isRead, _⟩
  · exact absurd (isSigned ▸ belongs.keyed letter isSent) unsigned
  · cases hasJoined : thread.script.hasJoined with
    | true => rfl
    | false =>
        rw [belongs.follows.unread hasJoined] at isRead
        cases isRead

/-- The thread after its letter was read. -/
def answered (config : Config) (letter : Letter) (lock : Locked Store) (fresh : PublicKey)
    (halves : Side → Half) (ahead : Side) (final : SessionState) (thread : Thread suite) :
    Thread suite :=
  let side := letter.addressee
  { thread with
    script := thread.script.answered side halves ahead final
    conversation :=
      { parties := side.update lock thread.conversation.parties
        books := side.update ((thread.conversation.books side).reading config letter.key
          letter.counter) thread.conversation.books
        ratchetKeys := side.update
          (if letter.key ∈ (thread.conversation.books side).keys then
            thread.conversation.ratchetKeys side
          else thread.conversation.ratchetKeys side ++ [fresh]) thread.conversation.ratchetKeys
        sent := thread.conversation.sent
        read := thread.conversation.read ++ [letter] } }

section Answered

variable {lock : Locked Store} {fresh : PublicKey} {halves : Side → Half} {ahead : Side}
  {final : SessionState} {text : Bytes}

theorem Belongs.sender_met (belongs : thread.Belongs config meeting keys read evicted)
    (isSent : letter ∈ thread.conversation.sent) :
    thread.Met (thread.initiator.partyAt letter.addressee).other := by
  unfold Met
  rw [Party.sideOf_other, Party.sideOf_partyAt]
  have met := belongs.follows.sender_met isSent
  rwa [← Side.other_other letter.sender] at met

theorem Belongs.continues_answered (belongs : thread.Belongs config meeting keys read evicted)
    (isSent : letter ∈ thread.conversation.sent) :
    thread.Continues (thread.initiator.partyAt letter.addressee) final
      (thread.answered config letter lock fresh halves ahead final) :=
  continues_of_update rfl rfl rfl rfl (.inr rfl)
    ⟨fun _ => belongs.sender_met isSent, fun _ => .inr rfl⟩

/-- What the new thread owns it owned before, or has drawn for a new chain. -/
theorem owns_answered (follows : thread.script.Follows config thread.opening thread.conversation)
    (followsNext : (thread.answered config letter lock fresh halves ahead final).script.Follows config
      thread.opening (thread.answered config letter lock fresh halves ahead final).conversation)
    (owns : (thread.answered config letter lock fresh halves ahead final).Owns key) :
    thread.Owns key ∨
      key = fresh ∧ letter.key ∉ (thread.conversation.books letter.addressee).keys := by
  obtain ⟨each, member⟩ := owns
  rw [← followsNext.drawn each] at member
  unfold answered at member
  dsimp only at member
  rcases Side.eq_or_eq_other each letter.addressee with rfl | rfl
  · rw [Side.update_self] at member
    split at member
    · rw [follows.drawn] at member
      exact .inl ⟨_, member⟩
    · rename_i unseen
      rcases List.mem_append.mp member with old | new
      · rw [follows.drawn] at old
        exact .inl ⟨_, old⟩
      · exact .inr ⟨List.mem_singleton.mp new, unseen⟩
  · rw [Side.update_other, follows.drawn] at member
    exact .inl ⟨_, member⟩

/-- A key is drawn for a new chain, and no key that was drawn before. -/
theorem Belongs.drawn_of_unseen (belongs : thread.Belongs config meeting keys read evicted)
    (opened : SessionState.decrypt suite config letter.message.inner
      (thread.script.states letter.addressee) random = ⟨.ok text, final, rest⟩)
    (drawn_eq : drawn = (thread.script.states letter.addressee).keysAfter letter.key final keys)
    (distinct : drawn.Nodup)
    (unseen : letter.key ∉ (thread.conversation.books letter.addressee).keys) :
    (KeyPair.generate suite random).1.publicKey ∈ drawn ∧
      (KeyPair.generate suite random).1.publicKey ∉ keys := by
  have missing := (belongs.follows.synced.holds letter.addressee).receiverChain?_of_unseen unseen
  rcases SessionState.senderChain_of_decrypt opened with ⟨known, _⟩ | ⟨_, chain, hasChain, isFresh⟩
  · change ((thread.script.states letter.addressee).receiverChain? letter.key).isSome = true at known
    rw [missing] at known
    cases known
  · rw [SessionState.keysAfter, missing] at drawn_eq
    simp only [Option.isSome_none, Bool.false_eq_true, if_false,
      SessionState.sendingKey?_of_chain hasChain, isFresh, Option.toList_some] at drawn_eq
    rw [drawn_eq] at distinct ⊢
    refine ⟨List.mem_append_right _ List.mem_cons_self, fun wasDrawn => ?_⟩
    exact (List.nodup_append.mp distinct).2.2 _ wasDrawn _ List.mem_cons_self rfl

/-- The key under which the addressee sends once it has read a letter was drawn. -/
theorem Belongs.sending_answered (belongs : thread.Belongs config meeting keys read evicted)
    (isSent : letter ∈ thread.conversation.sent) (unsigned : thread.signedPreKey ∉ keys)
    (opened : SessionState.decrypt suite config letter.message.inner
      (thread.script.states letter.addressee) random = ⟨.ok text, final, rest⟩)
    (sends : final.sendingKey? = some key) :
    key ∈ (thread.script.states letter.addressee).keysAfter letter.key final keys := by
  unfold SessionState.keysAfter
  rcases SessionState.senderChain_of_decrypt opened with ⟨known, same⟩ | ⟨missing, _⟩
  · change ((thread.script.states letter.addressee).receiverChain? letter.key).isSome = true at known
    have noted : letter.key ∈ (thread.conversation.books letter.addressee).keys := by
      apply Decidable.byContradiction
      intro unseen
      rw [(belongs.follows.synced.holds letter.addressee).receiverChain?_of_unseen unseen] at known
      cases known
    rw [if_pos known]
    apply belongs.sending _ (belongs.met_of_noted unsigned isSent noted)
    rw [state_partyAt, ← sends, SessionState.sendingKey?, SessionState.sendingKey?, same]
  · change ((thread.script.states letter.addressee).receiverChain? letter.key).isSome = false
      at missing
    rw [missing, if_neg Bool.false_ne_true, sends]
    exact List.mem_append_right _ List.mem_cons_self

theorem Belongs.noted_answered (belongs : thread.Belongs config meeting keys read evicted)
    {side : Side} (noted : key ∈
      ((thread.answered config letter lock fresh halves ahead final).conversation.books side).keys) :
    key = thread.signedPreKey ∨ ∃ other ∈ thread.conversation.read ++ [letter],
      other.addressee = side ∧ other.key = key := by
  have before (old : key ∈ (thread.conversation.books side).keys) : key = thread.signedPreKey ∨
      ∃ other ∈ thread.conversation.read ++ [letter], other.addressee = side ∧ other.key = key := by
    refine (belongs.noted side key old).imp_right ?_
    rintro ⟨other, wasRead, same⟩
    exact ⟨other, List.mem_append_left _ wasRead, same⟩
  unfold answered at noted
  dsimp only at noted
  rcases Side.eq_or_eq_other side letter.addressee with rfl | rfl
  · rw [Side.update_self, Book.keys_reading] at noted
    rcases List.mem_cons.mp (Book.keys_noting_subset noted) with rfl | old
    · exact .inr ⟨letter, List.mem_append_right _ List.mem_cons_self, rfl, rfl⟩
    · exact before old
  · rw [Side.update_other] at noted
    exact before noted

theorem Belongs.gaveUp_answered (belongs : thread.Belongs config meeting keys read evicted)
    (kept : (thread.conversation.books letter.addressee).Keeps config letter.key)
    (gone_subset : ∀ party, evicted party ⊆ gone party)
    (isGone : ∀ counter ∈ (thread.script.states letter.addressee).evictions config
      letter.message.inner, (letter.key, counter) ∈ gone (thread.initiator.partyAt letter.addressee))
    {side : Side} {counter : Nat} (evicting : counter ∈
      (((thread.answered config letter lock fresh halves ahead final).conversation.books side).log
        key).evicted) : (key, counter) ∈ gone (thread.initiator.partyAt side) := by
  unfold answered at evicting
  dsimp only at evicting
  rcases Side.eq_or_eq_other side letter.addressee with rfl | rfl
  · rw [Side.update_self, Book.log_reading] at evicting
    split at evicting
    · rename_i same
      rw [same]
      rcases ChainLog.mem_evicted_read.mp evicting with old | new
      · exact gone_subset _ (belongs.gaveUp _ _ _ old)
      · rw [← belongs.log_eq kept] at new
        exact isGone counter new
    · exact gone_subset _ (belongs.gaveUp _ _ _ evicting)
  · rw [Side.update_other] at evicting
    exact gone_subset _ (belongs.gaveUp _ _ _ evicting)

end Answered

theorem Belongs.exists_read (belongs : thread.Belongs config meeting keys read evicted)
    (lawful : suite.Lawful) (isSent : letter ∈ thread.conversation.sent)
    (kept : (thread.conversation.books letter.addressee).Keeps config letter.key) {text : Bytes}
    {final : SessionState}
    (opened : SessionState.decrypt suite config letter.message.inner
      (thread.script.states letter.addressee) random = ⟨.ok text, final, rest⟩)
    (drawn_eq : drawn = (thread.script.states letter.addressee).keysAfter letter.key final keys)
    (distinct : drawn.Nodup) (unsigned : thread.signedPreKey ∉ drawn)
    (read_subset : read ⊆ after) (isReadAfter : thread.post letter ∈ after)
    (gone_subset : ∀ party, evicted party ⊆ gone party)
    (isGone : ∀ counter ∈ (thread.script.states letter.addressee).evictions config
      letter.message.inner, (letter.key, counter) ∈ gone (thread.initiator.partyAt letter.addressee)) :
    ∃ next : Thread suite, thread.Continues (thread.initiator.partyAt letter.addressee) final next ∧
      (∀ key, next.Owns key → thread.Owns key ∨ key ∈ drawn ∧ key ∉ keys) ∧
      next.script.hasJoined = true ∧ next.conversation.sent = thread.conversation.sent ∧
      next.Belongs config meeting drawn after gone := by
  let side := letter.addressee
  let fresh := (KeyPair.generate suite random).1.publicKey
  have follows := belongs.follows
  have drawn_subset : keys ⊆ drawn := by
    rw [drawn_eq]
    exact SessionState.prefix_keysAfter.subset
  have newKey (unseen : letter.key ∉ (thread.conversation.books side).keys) :
      fresh ∈ drawn ∧ fresh ∉ keys := belongs.drawn_of_unseen opened drawn_eq distinct unseen
  have isFresh (unseen : letter.key ∉ (thread.conversation.books side).keys) :
      fresh ∉ thread.conversation.ratchetKeys side := by
    obtain ⟨isDrawn, isNew⟩ := newKey unseen
    exact belongs.undrawn isNew (fun isSigned => unsigned (isSigned ▸ isDrawn)) side
  -- The addressee would read the letter in the same way if the thread were its only session.
  obtain ⟨stored, _, _, sole, _⟩ := follows.decrypt_eq isSent
  let lock : Locked Store := { content := stored final }
  have alone : Session.Sole (thread.opening.peer side) (thread.opening.identity side.other) final
      lock.content := sole final
  obtain ⟨halves, ahead, followsNext⟩ := follows.read isSent kept isFresh lawful opened alone
  have owned (key : PublicKey)
      (owns : (thread.answered config letter lock fresh halves ahead final).Owns key) :
      thread.Owns key ∨ key ∈ drawn ∧ key ∉ keys := by
    refine (owns_answered follows followsNext owns).imp_right ?_
    rintro ⟨rfl, unseen⟩
    exact newKey unseen
  have continues : thread.Continues (thread.initiator.partyAt side) final
      (thread.answered config letter lock fresh halves ahead final) :=
    belongs.continues_answered isSent
  refine ⟨_, continues, owned, rfl, rfl, ?_⟩
  constructor
  case follows => exact followsNext
  case joins => exact belongs.joins
  case begun => exact drawn_subset belongs.begun
  case owned =>
    intro key owns
    rcases owned key owns with before | ⟨isDrawn, _⟩
    · exact (belongs.owned key before).imp_right (@drawn_subset key)
    · exact .inr isDrawn
  case sending =>
    intro each _ key sends
    rcases Party.eq_or_eq_other each (thread.initiator.partyAt side) with rfl | rfl
    · rw [continues.state_eq] at sends
      rw [drawn_eq]
      exact belongs.sending_answered isSent (fun wasDrawn => unsigned (drawn_subset wasDrawn)) opened
        sends
    · rw [continues.elsewhere] at sends
      exact drawn_subset (belongs.sending _ (belongs.sender_met isSent) key sends)
  case noted => exact fun each key => belongs.noted_answered
  case keyed => exact fun other isSent => drawn_subset (belongs.keyed other isSent)
  case wasRead =>
    intro other isRead
    rcases List.mem_append.mp isRead with old | new
    · exact read_subset (belongs.wasRead other old)
    · rw [List.mem_singleton.mp new]
      exact isReadAfter
  case gaveUp => exact fun each key counter => belongs.gaveUp_answered kept gone_subset isGone

end Thread
end DoubleRatchet
