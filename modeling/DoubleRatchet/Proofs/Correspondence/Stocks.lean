import DoubleRatchet.Proofs.Correspondence.Thread

/-!
# What a party holds of the threads

The record of a party is the family of its states in the threads that it has met. A letter of a thread
is looked for in that record, or in the record with the state added with which the party joins the
thread; so it is looked for among states that are known, each by its thread.
-/

namespace DoubleRatchet
namespace Thread

variable {suite : Suite} {config : Config} {meeting : Meeting}
  {threads : PublicKey → Option (Thread suite)} {thread next : Thread suite} {party : Party}
  {base : PublicKey} {final : SessionState} {store pinned : Store} {letter : Letter}
  {record : SessionRecord} {used : Option UInt32} {keys : List PublicKey} {read : List Dispatch}
  {evicted : Party → List (PublicKey × Nat)}

instance : Decidable (thread.Met party) :=
  inferInstanceAs (Decidable (_ ∨ _))

/-- The states that a party has of the threads, by base keys. -/
def family (party : Party) (threads : PublicKey → Option (Thread suite)) :
    PublicKey → Option SessionState := fun base =>
  ((threads base).filter fun thread => thread.Met party).map (state party)

theorem family_eq_some {known : SessionState} : family party threads base = some known ↔
    ∃ thread, threads base = some thread ∧ thread.Met party ∧ thread.state party = known := by
  simp [family, Option.map_eq_some_iff, Option.filter_eq_some_iff, and_assoc]

theorem family_of_met (found : threads base = some thread) (met : thread.Met party) :
    family party threads base = some (thread.state party) :=
  family_eq_some.mpr ⟨thread, found, met, rfl⟩

theorem family_of_not_met (found : threads base = some thread) (notMet : ¬thread.Met party) :
    family party threads base = none := by
  simp [family, found, notMet]

theorem family_update (met : next.Met party) :
    family party (Function.update threads base (some next)) =
      Function.update (family party threads) base (some (next.state party)) := by
  funext other
  by_cases same : other = base
  · subst same
    simp [family, met]
  · simp [family, same]

/-- A party that does not act has the states that it had. -/
theorem family_update_elsewhere
    (same : ((some next).filter fun thread => thread.Met party).map (state party) =
      family party threads base) :
    family party (Function.update threads base (some next)) = family party threads := by
  funext other
  by_cases isBase : other = base
  · rw [isBase, ← same, family, Function.update_self]
  · rw [family, Function.update_of_ne isBase]
    rfl

theorem family_continues (found : threads base = some thread)
    (continues : thread.Continues party final next) :
    family party.other (Function.update threads base (some next)) = family party.other threads := by
  apply family_update_elsewhere
  rw [family, found]
  simp only [Option.filter_some, continues.met_elsewhere]
  split
  · rw [Option.map_some, Option.map_some, continues.elsewhere]
  · rfl

/-- A party has joined a thread with the one-time prekey of this number. -/
def Spent (party : Party) (threads : PublicKey → Option (Thread suite)) (id : UInt32) : Prop :=
  ∃ base thread, threads base = some thread ∧ thread.initiator = party.other ∧
    thread.script.hasJoined = true ∧ thread.opening.bundle.preKeyId = some id

structure Stocks (meeting : Meeting) (threads : PublicKey → Option (Thread suite)) (party : Party)
    (store : Store) : Prop where
  identity_eq : store.identities.find? (meeting.peer party) =
      (meeting.store party).identities.find? (meeting.peer party) ∨
    store.identities.find? (meeting.peer party) = some (meeting.store party.other).identity.publicKey
  lists : SessionRecord.Lists (family party threads) (store.session (meeting.peer party))
  kept : ∀ base known, family party threads base = some known →
    known ∈ (store.session (meeting.peer party)).states
  offers : ∀ id, ¬Spent party threads id →
    store.preKeys.find? id = (meeting.store party).preKeys.find? id

/-! ## Looking for a letter -/

/-- The record in which a party looks for a letter of a thread, the number of the one-time prekey that it
uses, and the store that it goes on from. -/
structure Seeks (config : Config) (meeting : Meeting) (threads : PublicKey → Option (Thread suite))
    (party : Party) (thread : Thread suite) (letter : Letter) (store : Store)
    (record : SessionRecord) (used : Option UInt32) (pinned : Store) : Prop where
  sought : Session.Sought suite config (meeting.peer party) letter.message store record used pinned
  lists : SessionRecord.Lists
    (Function.update (family party threads) thread.base (some (thread.state party))) record
  member : thread.state party ∈ record.states
  known : ∀ state ∈ record.states, state = thread.state party ∨
    state ∈ (store.session (meeting.peer party)).states
  pinned_eq : pinned = store ∨
    pinned = store.putIdentity (meeting.peer party) (meeting.store party.other).identity.publicKey
  used_eq : ∀ id, used = some id →
    thread.initiator = party.other ∧ thread.opening.bundle.preKeyId = some id

theorem Stocks.seeks_of_met (stocks : Stocks meeting threads party store)
    (found : threads thread.base = some thread) (met : thread.Met party)
    (sought : Session.Sought suite config (meeting.peer party) letter.message store
      (store.session (meeting.peer party)) none pinned)
    (pinned_eq : pinned = store ∨ pinned =
      store.putIdentity (meeting.peer party) (meeting.store party.other).identity.publicKey) :
    Seeks config meeting threads party thread letter store (store.session (meeting.peer party)) none
      pinned where
  sought := sought
  lists := by
    rw [← family_of_met found met, Function.update_eq_self]
    exact stocks.lists
  member := stocks.kept thread.base _ (family_of_met found met)
  known _ member := .inr member
  pinned_eq := pinned_eq
  used_eq _ impossible := nomatch impossible

section Stranger

variable {message : PreKeyMessage} (stocks : Stocks meeting threads party store)
  (notMet : ¬thread.Met party) (wrapped : message = thread.opening.wrap thread.base message.message)
include stocks notMet wrapped

/-- A party that was not there yet has no session under the base key of the thread. -/
theorem Stocks.hasSession_of_stranger (found : threads thread.base = some thread) :
    (store.session (meeting.peer party)).hasSession message.version message.baseKey = false := by
  have isNew : family party threads thread.base = none := family_of_not_met found notMet
  rw [SessionRecord.hasSession, List.any_eq_false]
  intro other member hasSession
  have baseKey_eq : other.initiatorBaseKey = some thread.base := by
    rw [wrapped] at hasSession
    exact eq_of_beq (Bool.and_eq_true_iff.mp hasSession).2
  rw [stocks.lists.lookup member baseKey_eq] at isNew
  cases isNew

variable (belongs : thread.Belongs config meeting keys read evicted)
  (isResponder : party = thread.initiator.other)
  (published_eq : Session.published store = Session.published (meeting.store party))
  (unspent : ∀ id, thread.opening.bundle.preKeyId = some id → ¬Spent party threads id)
include belongs isResponder published_eq unspent

/-- A party that was not there yet can join with the state that the thread has for it. -/
theorem Stocks.join_of_stranger (random : Randomness) :
    Session.join suite config (store.session (meeting.peer party)) message store random =
      ⟨.ok (thread.opening.bundle.preKeyId,
        (Session.makeRoom config (store.session (meeting.peer party))).setCurrent
          (thread.state party)), store, random⟩ := by
  have partyAt_eq : thread.initiator.partyAt .responder = party := isResponder.symm
  have state_eq : thread.state party = thread.script.states .responder := by
    rw [← partyAt_eq, state_partyAt]
  have store_eq : thread.opening.store .responder = meeting.store party := by
    rw [belongs.joins.store_eq, partyAt_eq]
  cases belongs.follows.keeps .responder with
  | sole met =>
      refine absurd ?_ notMet
      rcases met with impossible | hasJoined
      · cases impossible
      · exact .inr hasJoined
  | waiting notJoined untouched joins joined =>
      rw [← store_eq] at published_eq
      -- The thread was begun with the store of the meeting; what this store has kept of it will do.
      have offers : Session.Offers (thread.opening.wrap thread.base message.message)
          thread.opening.signedPreKey
          (thread.opening.oneTime.map fun offered => offered.2.keyPair) store := by
        apply Opening.offers published_eq
        intro id prekey offered
        have preKeyId_eq : thread.opening.bundle.preKeyId = some id := by
          rw [thread.opening.preKeyId_eq, offered]
          rfl
        rw [stocks.offers id (unspent id preKeyId_eq), ← store_eq]
        exact (thread.opening.oneTime_kept id prekey offered).1
      rw [← Opening.responderKeys_wrap published_eq _ message.message] at joined
      rw [wrapped, offers.join_eq joined, Opening.responderKeys_wrap published_eq,
        stocks.lists.current_makeRoom config, Opening.joinedState_wrap published_eq, state_eq, joins,
        thread.opening.preKeyId_eq]
      rfl

theorem Stocks.seeks_of_stranger (found : threads thread.base = some thread)
    (message_eq : letter.message = .preKey message)
    (trusted : store.trusts (meeting.peer party) message.identityKey = true)
    (identity_eq : message.identityKey = (meeting.store party.other).identity.publicKey) :
    Seeks config meeting threads party thread letter store
      ((Session.makeRoom config (store.session (meeting.peer party))).setCurrent (thread.state party))
      thread.opening.bundle.preKeyId
      (store.putIdentity (meeting.peer party) (meeting.store party.other).identity.publicKey) := by
  have isNew : family party threads thread.base = none := family_of_not_met found notMet
  constructor
  case sought =>
    rw [message_eq, ← identity_eq]
    exact Session.sought_of_accept fun random =>
      Session.accept_of_join trusted (stocks.hasSession_of_stranger notMet wrapped found)
        (stocks.join_of_stranger notMet wrapped belongs isResponder published_eq unspent random)
  case lists =>
    exact stocks.lists.begin isNew (belongs.baseKey_eq party) (belongs.isInitialized_eq party) config
  case member => exact List.mem_cons_self
  case known => exact fun other member => Session.mem_states_makeRoom member
  case pinned_eq => exact .inr rfl
  case used_eq =>
    intro id same
    refine ⟨?_, same⟩
    rw [isResponder, Party.other_other]

end Stranger

theorem Stocks.seeks (stocks : Stocks meeting threads party store)
    (found : threads thread.base = some thread)
    (belongs : thread.Belongs config meeting keys read evicted)
    (isSent : letter ∈ thread.conversation.sent)
    (addressed : thread.initiator.partyAt letter.addressee = party)
    (published_eq : Session.published store = Session.published (meeting.store party))
    (unspent : ¬thread.Met party → ∀ id, thread.opening.bundle.preKeyId = some id →
      ¬Spent party threads id) :
    ∃ record used pinned, Seeks config meeting threads party thread letter store record used pinned := by
  have follows := belongs.follows
  have wraps := follows.wraps letter isSent
  cases message_eq : letter.message with
  | signal message =>
      rw [message_eq] at wraps
      have met : thread.Met party := .inr wraps
      have isFamily := family_of_met found met
      have begun := stocks.lists.isFresh_eq isFamily (stocks.kept _ _ isFamily)
      refine ⟨_, _, _, stocks.seeks_of_met found met ?_ (.inl rfl)⟩
      rw [message_eq]
      exact Session.sought_of_session message begun
  | preKey message =>
      rw [message_eq] at wraps
      obtain ⟨isInitiator, wrapped⟩ := wraps
      have isResponder : party = thread.initiator.other := by
        rw [← addressed, Letter.addressee, isInitiator]
        rfl
      have identity_eq : message.identityKey = (meeting.store party.other).identity.publicKey := by
        have store_eq := belongs.joins.store_eq .initiator
        rw [isResponder, Party.other_other, wrapped]
        exact congrArg (fun store => store.identity.publicKey) store_eq
      have trusted : store.trusts (meeting.peer party) message.identityKey = true := by
        rw [Store.trusts_iff, identity_eq]
        exact stocks.identity_eq.imp_left fun same => same.trans (belongs.noIdentity party)
      by_cases met : thread.Met party
      · have isFamily := family_of_met found met
        have known : (store.session (meeting.peer party)).hasSession message.version
            message.baseKey = true := by
          rw [SessionRecord.hasSession, List.any_eq_true]
          refine ⟨_, stocks.kept _ _ isFamily, ?_⟩
          rw [belongs.baseKey_eq, wrapped, state, (follows.synced.holds _).version_eq]
          simp [Opening.wrap, PreKeyMessage.make, base]
        refine ⟨_, _, _, stocks.seeks_of_met found met ?_ (.inr rfl)⟩
        rw [message_eq, ← identity_eq]
        exact Session.sought_of_accept (Session.accept_of_session trusted known)
      · exact ⟨_, _, _, stocks.seeks_of_stranger met wrapped belongs isResponder published_eq
          (unspent met) found message_eq trusted identity_eq⟩

/-! ## What the threads do to the stocks -/

/-- The thread is a new one, or is the one of its base key, gone on. -/
structure Succeeds (threads : PublicKey → Option (Thread suite)) (next : Thread suite) : Prop where
  initiator_eq : ∀ thread, threads next.base = some thread → next.initiator = thread.initiator
  opening_eq : ∀ thread, threads next.base = some thread → next.opening = thread.opening
  joined : ∀ thread, threads next.base = some thread → thread.script.hasJoined = true →
    next.script.hasJoined = true
  sent : ∀ thread, threads next.base = some thread →
    thread.conversation.sent ⊆ next.conversation.sent

theorem Spent.later {id : UInt32} (spent : Spent party threads id)
    (succeeds : Succeeds threads next) :
    Spent party (Function.update threads next.base (some next)) id := by
  obtain ⟨other, thread, found, initiator_eq, hasJoined, preKeyId_eq⟩ := spent
  by_cases same : other = next.base
  · rw [same] at found
    refine ⟨next.base, next, Function.update_self .., ?_, succeeds.joined thread found hasJoined, ?_⟩
    · rw [succeeds.initiator_eq thread found]
      exact initiator_eq
    · rw [succeeds.opening_eq thread found]
      exact preKeyId_eq
  · refine ⟨other, thread, ?_, initiator_eq, hasJoined, preKeyId_eq⟩
    rw [Function.update_of_ne same]
    exact found

/-- The store of a party that does not act. -/
theorem Stocks.elsewhere (stocks : Stocks meeting threads party store)
    (succeeds : Succeeds threads next)
    (same : family party (Function.update threads next.base (some next)) = family party threads) :
    Stocks meeting (Function.update threads next.base (some next)) party store where
  identity_eq := stocks.identity_eq
  lists := same ▸ stocks.lists
  kept := same ▸ stocks.kept
  offers id unspent := stocks.offers id fun spent => unspent (spent.later succeeds)

/-- The store of the party that acts, with the new state of its thread in front. -/
theorem Stocks.moved {after : Store} (stocks : Stocks meeting threads party store)
    (met : next.Met party)
    (current_eq : (after.session (meeting.peer party)).current = next.state party)
    (lists : SessionRecord.Lists
      (Function.update (family party threads) next.base (some (next.state party)))
      (after.session (meeting.peer party)))
    (keeps : SessionRecord.KeepsSessions (store.session (meeting.peer party))
      (after.session (meeting.peer party)))
    (identity_eq : after.identities.find? (meeting.peer party) =
        (meeting.store party).identities.find? (meeting.peer party) ∨
      after.identities.find? (meeting.peer party) =
        some (meeting.store party.other).identity.publicKey)
    (offers : ∀ id, ¬Spent party (Function.update threads next.base (some next)) id →
      after.preKeys.find? id = (meeting.store party).preKeys.find? id) :
    Stocks meeting (Function.update threads next.base (some next)) party after where
  identity_eq := identity_eq
  lists := by
    rw [family_update met]
    exact lists
  kept := by
    rw [family_update met]
    rw [← current_eq] at lists ⊢
    exact stocks.lists.kept stocks.kept lists keeps
  offers := offers

/-- A party that pins the identity of the other has lost nothing. -/
theorem Stocks.pinning (stocks : Stocks meeting threads party store)
    (pinned_eq : pinned = store ∨
      pinned = store.putIdentity (meeting.peer party) (meeting.store party.other).identity.publicKey) :
    Stocks meeting threads party pinned := by
  rcases pinned_eq with rfl | rfl
  · exact stocks
  · exact
      { identity_eq := .inr (Table.find?_insert_self _ _ _)
        lists := stocks.lists
        kept := stocks.kept
        offers := stocks.offers }

theorem Continues.succeeds (found : threads thread.base = some thread)
    (continues : thread.Continues party final next)
    (joined : thread.script.hasJoined = true → next.script.hasJoined = true)
    (sent_subset : thread.conversation.sent ⊆ next.conversation.sent) :
    Succeeds threads next := by
  rw [← continues.base_eq] at found
  constructor
  all_goals
    intro other isFound
    cases found.symm.trans isFound
  case initiator_eq => exact continues.initiator_eq
  case opening_eq => exact continues.opening_eq
  case joined => exact joined
  case sent => exact sent_subset

/-- What a party holds once a session has gone on with a new state. -/
theorem Stocks.answered {after : Store} {answer : SessionRecord.Answer}
    (stocks : Stocks meeting threads party store)
    (continues : thread.Continues party answer.state next)
    (belongs : next.Belongs config meeting keys read evicted)
    (baseKey_eq : (thread.state party).initiatorBaseKey = some thread.base)
    (lists : SessionRecord.Lists
      (Function.update (family party threads) thread.base (some (thread.state party))) record)
    (at_index : record.states[answer.index]? = some (thread.state party))
    (session_eq : after.session (meeting.peer party) = record.answered config answer)
    (keeps : SessionRecord.KeepsSessions (store.session (meeting.peer party))
      (after.session (meeting.peer party)))
    (identity_eq : after.identities.find? (meeting.peer party) =
        (meeting.store party).identities.find? (meeting.peer party) ∨
      after.identities.find? (meeting.peer party) =
        some (meeting.store party.other).identity.publicKey)
    (offers : ∀ id, ¬Spent party (Function.update threads next.base (some next)) id →
      after.preKeys.find? id = (meeting.store party).preKeys.find? id) :
    Stocks meeting (Function.update threads next.base (some next)) party after := by
  have same : answer.state.initiatorBaseKey = some thread.base := by
    rw [← continues.state_eq, ← continues.base_eq]
    exact belongs.baseKey_eq party
  have begun : answer.state.isInitialized = true := by
    rw [← continues.state_eq]
    exact belongs.isInitialized_eq party
  apply stocks.moved continues.met _ _ keeps identity_eq offers
  · rw [session_eq, SessionRecord.current_answered, continues.state_eq]
  · have answered := lists.answered at_index baseKey_eq same begun config
    rw [Function.update_idem] at answered
    rw [session_eq, continues.state_eq, continues.base_eq]
    exact answered

/-- What a party holds once it has sent with the session in front. -/
theorem Stocks.sent (stocks : Stocks meeting threads party store)
    (found : threads thread.base = some thread) (met : thread.Met party)
    (state_eq : thread.state party = (store.session (meeting.peer party)).current)
    (continues : thread.Continues party final next)
    (belongs : next.Belongs config meeting keys read evicted) (succeeds : Succeeds threads next)
    (keeps : SessionRecord.KeepsSessions (store.session (meeting.peer party))
      ((store.session (meeting.peer party)).setCurrent final)) :
    Stocks meeting (Function.update threads next.base (some next)) party
      (store.putSession (meeting.peer party)
        ((store.session (meeting.peer party)).setCurrent final)) := by
  let record := store.session (meeting.peer party)
  have isFamily := family_of_met found met
  have session_eq : (store.putSession (meeting.peer party) (record.setCurrent final)).session
      (meeting.peer party) = record.setCurrent final := Store.session_putSession _ _ _
  rw [← session_eq] at keeps
  have lists : SessionRecord.Lists
      (Function.update (family party threads) thread.base (some (thread.state party))) record := by
    rw [← isFamily, Function.update_eq_self]
    exact stocks.lists
  -- To send is to answer with the session in front: it stays there.
  let answer : SessionRecord.Answer := { index := 0, state := final, plaintext := [] }
  have at_index : record.states[answer.index]? = some (thread.state party) := by
    rw [state_eq]
    rfl
  apply stocks.answered continues belongs _ lists at_index session_eq keeps
    stocks.identity_eq
  · exact fun id unspent => stocks.offers id fun spent => unspent (spent.later succeeds)
  · exact (stocks.lists.named _ _ isFamily).1

/-- What a party holds once it has opened a letter of a thread. -/
theorem Stocks.opened {answer : SessionRecord.Answer} (stocks : Stocks meeting threads party store)
    (seeks : Seeks config meeting threads party thread letter store record used pinned)
    (continues : thread.Continues party answer.state next)
    (belongs : next.Belongs config meeting keys read evicted) (succeeds : Succeeds threads next)
    (hasJoined : next.script.hasJoined = true)
    (at_index : record.states[answer.index]? = some (thread.state party))
    (keeps : SessionRecord.KeepsSessions (store.session (meeting.peer party))
      (record.answered config answer)) :
    Stocks meeting (Function.update threads next.base (some next)) party
      (Session.withoutUsed used
        (pinned.putSession (meeting.peer party) (record.answered config answer))) := by
  let after := Session.withoutUsed used
    (pinned.putSession (meeting.peer party) (record.answered config answer))
  have session_eq : after.session (meeting.peer party) = record.answered config answer := by
    dsimp only [after]
    rw [Session.session_withoutUsed, Store.session_putSession]
  rw [← session_eq] at keeps
  have pinnedStocks := stocks.pinning seeks.pinned_eq
  apply stocks.answered continues belongs _ seeks.lists at_index session_eq keeps
  · rw [Session.identities_withoutUsed]
    exact pinnedStocks.identity_eq
  · -- The one-time prekey that is used up is spent: the party has joined the thread with it.
    intro id unspent
    have notUsed : used ≠ some id := by
      intro isUsed
      obtain ⟨initiator_eq, preKeyId_eq⟩ := seeks.used_eq id isUsed
      refine unspent ⟨next.base, next, Function.update_self .., ?_, hasJoined, ?_⟩
      · rw [continues.initiator_eq]
        exact initiator_eq
      · rw [continues.opening_eq]
        exact preKeyId_eq
    rw [Session.find?_withoutUsed_of_ne notUsed]
    exact pinnedStocks.offers id fun spent => unspent (spent.later succeeds)
  · exact (seeks.lists.named _ _ (Function.update_self ..)).1

section Begin

variable {opening : Opening suite} {secret : Bytes} {sending : RootStep} {random : Randomness}

theorem succeeds_begun (missing : threads (KeyPair.generate suite random).1.publicKey = none) :
    Succeeds threads (begun config party opening secret sending random) := by
  constructor
  all_goals
    intro thread found
    cases missing.symm.trans found

theorem family_begun_elsewhere
    (missing : threads (KeyPair.generate suite random).1.publicKey = none) :
    let next := begun config party opening secret sending random
    family party.other (Function.update threads next.base (some next)) =
      family party.other threads := by
  intro next
  have unmet : decide (next.Met party.other) = false := decide_eq_false not_met_begun
  apply family_update_elsewhere
  rw [family, show threads next.base = none from missing, Option.filter_some, unmet]
  rfl

/-- What a party stores once it has begun a session. -/
def beginning (config : Config) (meeting : Meeting) (party : Party) (begun : SessionState)
    (store : Store) : Store :=
  (store.putIdentity (meeting.peer party) (meeting.store party.other).identity.publicKey).putSession
    (meeting.peer party)
    ((Session.makeRoom config (store.session (meeting.peer party))).setCurrent begun)

/-- A party can always begin a session with a bundle of the other. -/
theorem Stocks.processBundle_eq (stocks : Stocks meeting threads party store)
    (lawful : suite.Lawful) (joins : opening.Joins meeting party)
    (published_eq : Session.published store = Session.published (meeting.store party))
    (config : Config) (random : Randomness) :
    ∃ secret sending rest,
      (opening.responder (KeyPair.generate suite random).1.publicKey).secret suite = .ok secret ∧
      (Handshake.firstStep suite secret []).root.step suite opening.signedPreKey.keyPair.publicKey
        (KeyPair.generate suite (KeyPair.generate suite random).2).1 = .ok sending ∧
      Session.processBundle suite config (meeting.peer party) opening.bundle store random =
        ⟨.ok (), beginning config meeting party (opening.begun config
          (KeyPair.generate suite random).1
          (KeyPair.generate suite (KeyPair.generate suite random).2).1 secret sending) store, rest⟩ := by
  have peer_eq : opening.peer .initiator = meeting.peer party := joins.peer_eq .initiator
  have store_eq : opening.store .initiator = meeting.store party := joins.store_eq .initiator
  have theirs_eq : opening.bundle.identityKey =
      (meeting.store party.other).identity.publicKey := by
    rw [opening.identityKey_eq, joins.store_eq .responder]
    rfl
  have trusted : store.trusts (meeting.peer party) opening.bundle.identityKey = true := by
    have unknown := opening.noIdentity .initiator
    rw [store_eq, peer_eq] at unknown
    rw [Store.trusts_iff, theirs_eq]
    exact stocks.identity_eq.imp_left fun same => same.trans unknown
  have blank := stocks.lists.current_makeRoom config
  rw [← store_eq] at published_eq
  rw [← peer_eq] at trusted blank
  obtain ⟨secret, sending, found, stepped, processed⟩ :=
    opening.processBundle_of_trusted config lawful published_eq blank trusted random
  rw [peer_eq, theirs_eq] at processed
  exact ⟨secret, sending, _, found, stepped, processed⟩

/-- What a party holds once it has begun a thread. -/
theorem Stocks.initiate (stocks : Stocks meeting threads party store) (lawful : suite.Lawful)
    (joins : opening.Joins meeting party)
    (found : (opening.responder (KeyPair.generate suite random).1.publicKey).secret suite =
      .ok secret)
    (stepped : (Handshake.firstStep suite secret []).root.step suite
      opening.signedPreKey.keyPair.publicKey
      (KeyPair.generate suite (KeyPair.generate suite random).2).1 = .ok sending)
    (missing : threads (KeyPair.generate suite random).1.publicKey = none)
    (keeps : SessionRecord.KeepsSessions (store.session (meeting.peer party))
      ((beginning config meeting party
        ((begun config party opening secret sending random).state party) store).session
          (meeting.peer party))) :
    let next := begun config party opening secret sending random
    Stocks meeting (Function.update threads next.base (some next)) party
      (beginning config meeting party (next.state party) store) := by
  intro next
  have isNew : family party threads next.base = none := by
    rw [family, show threads next.base = none from missing]
    rfl
  have belongs : next.Belongs config meeting (Correspondence.begunKeys suite random) []
      (fun _ => []) := belongs_begun lawful joins found stepped (List.Subset.refl _)
  have session_eq : (beginning config meeting party (next.state party) store).session
      (meeting.peer party) = (Session.makeRoom config (store.session
        (meeting.peer party))).setCurrent (next.state party) := Store.session_putSession _ _ _
  apply stocks.moved met_begun _ _ keeps
  · exact .inr (Table.find?_insert_self _ _ _)
  · exact fun id unspent => stocks.offers id fun spent =>
      unspent (spent.later (succeeds_begun missing))
  · rw [session_eq]
    rfl
  · rw [session_eq]
    exact stocks.lists.begin isNew (belongs.baseKey_eq party) (belongs.isInitialized_eq party) config

end Begin

end Thread
end DoubleRatchet
