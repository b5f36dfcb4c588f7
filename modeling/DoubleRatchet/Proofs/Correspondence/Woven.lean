import DoubleRatchet.Proofs.Correspondence.Regular
import DoubleRatchet.Proofs.Correspondence.Stocks

/-!
# A correspondence is woven of its threads

At any time an orderly correspondence is a family of threads, one for each session that was begun. No two
threads share a ratchet key or a one-time prekey, every dispatch is a letter of one of them, and what a
party holds is its states in the threads that it has met. Every action goes on with one thread or begins
a new one, and leaves the others as they are.
-/

namespace DoubleRatchet
namespace Correspondence

variable {suite : Suite} {config : Config} {meeting : Meeting} {random rest : Randomness}
  {threads : PublicKey → Option (Thread suite)} {thread next : Thread suite} {party : Party}
  {correspondence later : Correspondence} {dispatch : Dispatch} {letter : Letter}

structure Woven (config : Config) (meeting : Meeting) (threads : PublicKey → Option (Thread suite))
    (correspondence : Correspondence) : Prop where
  base_eq : ∀ base thread, threads base = some thread → thread.base = base
  belongs : ∀ base thread, threads base = some thread → thread.Belongs config meeting
    correspondence.keys correspondence.read correspondence.evicted
  apart : ∀ base thread, threads base = some thread → ∀ other stranger,
    threads other = some stranger → other ≠ base → ∀ key ∈ correspondence.keys,
      thread.Owns key → ¬stranger.Owns key
  unshared : ∀ base thread, threads base = some thread → ∀ other stranger,
    threads other = some stranger → stranger.initiator = thread.initiator → ∀ id,
      thread.opening.bundle.preKeyId = some id → stranger.opening.bundle.preKeyId = some id →
        other = base
  offered : ∀ base thread, threads base = some thread →
    thread.opening.bundle ∈ correspondence.bundles thread.initiator
  posted : ∀ dispatch ∈ correspondence.sent, ∃ thread : Thread suite, ∃ letter,
    threads thread.base = some thread ∧ letter ∈ thread.conversation.sent ∧
      dispatch = thread.post letter
  few : ∀ base thread, threads base = some thread →
    thread.conversation.sent.length ≤ correspondence.sent.length
  stocks : ∀ party, Thread.Stocks meeting threads party (correspondence.parties party).content

theorem woven_start (suite : Suite) (config : Config) (meeting : Meeting) :
    Woven config meeting (fun _ => (none : Option (Thread suite))) (start meeting) where
  base_eq _ _ found := nomatch found
  belongs _ _ found := nomatch found
  apart _ _ found := nomatch found
  unshared _ _ found := nomatch found
  offered _ _ found := nomatch found
  posted _ isSent := nomatch isSent
  few _ _ found := nomatch found
  stocks party :=
    { identity_eq := .inl rfl
      lists := by
        change SessionRecord.Lists _ ((meeting.store party).session (meeting.peer party))
        rw [meeting.session_eq]
        exact SessionRecord.lists_blank
      kept := fun _ _ found => nomatch found
      offers := fun _ _ => rfl }

/-- What a party stores without any effect on its sessions, it may store at any time. -/
theorem Woven.storing (woven : Woven config meeting threads correspondence) {lock : Locked Store}
    (stocks : Thread.Stocks meeting threads party lock.content) :
    Woven config meeting threads (correspondence.storing party lock) :=
  { woven with
    stocks := fun each => by
      by_cases same : each = party
      · rw [same]
        simp only [Correspondence.storing, Function.update_self]
        exact stocks
      · simp only [Correspondence.storing, Function.update_of_ne same]
        exact woven.stocks each }

/-- A ratchet key of a thread that is among the drawn keys later was among them already. -/
theorem Woven.drawn_before (woven : Woven config meeting threads correspondence) {base : PublicKey}
    (found : threads base = some thread) {key : PublicKey} (owns : thread.Owns key)
    (unsigned : ∀ party, ∀ key ∈ meeting.signedPreKeys party, key ∉ later.keys)
    (isDrawn : key ∈ later.keys) : key ∈ correspondence.keys := by
  have belongs := woven.belongs base thread found
  rcases belongs.owned key owns with rfl | before
  · exact absurd isDrawn (unsigned _ _ belongs.signedPreKey_kept)
  · exact before

/-! ## One thread moves -/

/-- What an action does to the threads when one of them goes on as `next`, or when `next` begins: of the
keys that were drawn before, and of the prekeys, it has those that were its own. -/
structure Moves (config : Config) (meeting : Meeting) (threads : PublicKey → Option (Thread suite))
    (next : Thread suite) (correspondence later : Correspondence) : Prop where
  grows : Grows correspondence later
  unsigned : ∀ party, ∀ key ∈ meeting.signedPreKeys party, key ∉ later.keys
  succeeds : Thread.Succeeds threads next
  belongs : next.Belongs config meeting later.keys later.read later.evicted
  owned : ∀ key ∈ correspondence.keys, next.Owns key →
    ∃ thread, threads next.base = some thread ∧ thread.Owns key
  unshared : ∀ other stranger, threads other = some stranger →
    stranger.initiator = next.initiator → ∀ id, next.opening.bundle.preKeyId = some id →
      stranger.opening.bundle.preKeyId = some id → other = next.base
  offered : next.opening.bundle ∈ later.bundles next.initiator
  posted : ∀ dispatch ∈ later.sent, dispatch ∈ correspondence.sent ∨
    ∃ letter ∈ next.conversation.sent, dispatch = next.post letter
  few : next.conversation.sent.length ≤ later.sent.length

/-- Every thread is the one that moves, or was there before. -/
theorem eq_next_or_found {base : PublicKey}
    (found : Function.update threads next.base (some next) base = some thread) :
    base = next.base ∧ thread = next ∨ base ≠ next.base ∧ threads base = some thread := by
  by_cases same : base = next.base
  · rw [same, Function.update_self] at found
    exact .inl ⟨same, (Option.some.inj found).symm⟩
  · rw [Function.update_of_ne same] at found
    exact .inr ⟨same, found⟩

/-- No other thread has a ratchet key of the one that moves. -/
theorem Moves.apart (moves : Moves config meeting threads next correspondence later)
    (woven : Woven config meeting threads correspondence) {base : PublicKey}
    (found : threads base = some thread) (different : base ≠ next.base) {key : PublicKey}
    (isDrawn : key ∈ later.keys) (owns : next.Owns key) : ¬thread.Owns key := by
  intro shared
  have drawnBefore := woven.drawn_before found shared moves.unsigned isDrawn
  obtain ⟨former, formerFound, ownedBefore⟩ := moves.owned key drawnBefore owns
  exact woven.apart _ former formerFound base thread found different key drawnBefore ownedBefore
    shared

/-- A dispatch that was posted is a letter of its thread still. -/
theorem Moves.exists_letter (moves : Moves config meeting threads next correspondence later)
    (woven : Woven config meeting threads correspondence) (isSent : dispatch ∈ later.sent) :
    ∃ thread letter, Function.update threads next.base (some next) thread.base = some thread ∧
      letter ∈ thread.conversation.sent ∧ dispatch = thread.post letter := by
  rcases moves.posted dispatch isSent with before | ⟨letter, isLetter, rfl⟩
  · obtain ⟨thread, letter, found, isLetter, rfl⟩ := woven.posted dispatch before
    by_cases same : thread.base = next.base
    · rw [same] at found
      refine ⟨next, letter, Function.update_self .., moves.succeeds.sent thread found isLetter, ?_⟩
      rw [Thread.post, Thread.post, moves.succeeds.initiator_eq thread found, same]
    · refine ⟨thread, letter, ?_, isLetter, rfl⟩
      rw [Function.update_of_ne same]
      exact found
  · exact ⟨next, letter, Function.update_self .., isLetter, rfl⟩

/-- The threads stay woven when one of them moves, if the party that acts keeps what it has of them. -/
theorem Woven.move (woven : Woven config meeting threads correspondence)
    (moves : Moves config meeting threads next correspondence later) {lock : Locked Store}
    (parties_eq : later.parties = Function.update correspondence.parties party lock)
    (stocks : Thread.Stocks meeting (Function.update threads next.base (some next)) party
      lock.content)
    (elsewhere : Thread.family party.other (Function.update threads next.base (some next)) =
      Thread.family party.other threads) :
    Woven config meeting (Function.update threads next.base (some next)) later := by
  have grows := moves.grows
  constructor
  case base_eq =>
    intro base thread found
    rcases eq_next_or_found found with ⟨rfl, rfl⟩ | ⟨_, before⟩
    · rfl
    · exact woven.base_eq base thread before
  case belongs =>
    intro base thread found
    rcases eq_next_or_found found with ⟨_, rfl⟩ | ⟨_, before⟩
    · exact moves.belongs
    · exact (woven.belongs base thread before).mono grows.keys.subset grows.read.subset
        fun each => (grows.evicted each).subset
  case apart =>
    intro base thread found other stranger foundStranger different key isDrawn owns
    rcases eq_next_or_found found with ⟨rfl, rfl⟩ | ⟨notNext, before⟩
    · rcases eq_next_or_found foundStranger with ⟨rfl, _⟩ | ⟨_, strangerBefore⟩
      · exact absurd rfl different
      · exact moves.apart woven strangerBefore different isDrawn owns
    · rcases eq_next_or_found foundStranger with ⟨rfl, rfl⟩ | ⟨_, strangerBefore⟩
      · exact fun shared => moves.apart woven before notNext isDrawn shared owns
      · exact woven.apart base thread before other stranger strangerBefore different key
          (woven.drawn_before before owns moves.unsigned isDrawn) owns
  case unshared =>
    intro base thread found other stranger foundStranger sameInitiator id own theirs
    rcases eq_next_or_found found with ⟨rfl, rfl⟩ | ⟨_, before⟩
    · rcases eq_next_or_found foundStranger with ⟨rfl, _⟩ | ⟨_, strangerBefore⟩
      · rfl
      · exact moves.unshared other stranger strangerBefore sameInitiator id own theirs
    · rcases eq_next_or_found foundStranger with ⟨rfl, rfl⟩ | ⟨_, strangerBefore⟩
      · exact (moves.unshared base thread before sameInitiator.symm id theirs own).symm
      · exact woven.unshared base thread before other stranger strangerBefore sameInitiator id own
          theirs
  case offered =>
    intro base thread found
    rcases eq_next_or_found found with ⟨_, rfl⟩ | ⟨_, before⟩
    · exact moves.offered
    · exact (grows.bundles _).subset (woven.offered base thread before)
  case posted => exact fun dispatch isSent => moves.exists_letter woven isSent
  case few =>
    intro base thread found
    rcases eq_next_or_found found with ⟨_, rfl⟩ | ⟨_, before⟩
    · exact moves.few
    · exact Nat.le_trans (woven.few base thread before) grows.sent.length_le
  case stocks =>
    intro each
    rw [parties_eq]
    rcases Party.eq_or_eq_other each party with rfl | rfl
    · rw [Function.update_self]
      exact stocks
    · rw [Function.update_of_ne (Party.other_ne party)]
      exact (woven.stocks party.other).elsewhere moves.succeeds elsewhere

/-! ## Beginning a thread -/

theorem Woven.missing_of_drawn (woven : Woven config meeting threads correspondence)
    {key : PublicKey} (isFresh : key ∉ correspondence.keys) : threads key = none := by
  cases found : threads key with
  | none => rfl
  | some thread =>
      have isDrawn := (woven.belongs key thread found).begun
      rw [woven.base_eq key thread found] at isDrawn
      exact absurd isDrawn isFresh

section Begin

variable {opening : Opening suite} {secret : Bytes} {sending : RootStep}
  (lawful : suite.Lawful) (joins : opening.Joins meeting party)
  (found : (opening.responder (KeyPair.generate suite random).1.publicKey).secret suite = .ok secret)
  (stepped : (Handshake.firstStep suite secret []).root.step suite
    opening.signedPreKey.keyPair.publicKey
    (KeyPair.generate suite (KeyPair.generate suite random).2).1 = .ok sending)
include lawful joins found stepped

/-- A thread that begins has keys that were just drawn, and a one-time prekey that no thread has. -/
theorem Woven.moves_begun (woven : Woven config meeting threads correspondence) {lock : Locked Store}
    (unused : ∀ earlier ∈ correspondence.bundles party, ∀ id, opening.bundle.preKeyId = some id →
      earlier.preKeyId ≠ some id)
    (distinct : (correspondence.begun suite party opening.bundle random lock).keys.Nodup)
    (unsigned : ∀ each, ∀ key ∈ meeting.signedPreKeys each,
      key ∉ (correspondence.begun suite party opening.bundle random lock).keys) :
    Moves config meeting threads (.begun config party opening secret sending random) correspondence
      (correspondence.begun suite party opening.bundle random lock) := by
  let later := correspondence.begun suite party opening.bundle random lock
  have isFresh (key : PublicKey) (isBegun : key ∈ begunKeys suite random) :
      key ∉ correspondence.keys := fun wasDrawn =>
    (List.nodup_append.mp distinct).2.2 key wasDrawn key isBegun rfl
  have belongs : (Thread.begun config party opening secret sending random).Belongs config meeting
      later.keys later.read later.evicted :=
    Thread.belongs_begun lawful joins found stepped (List.subset_append_right _ _)
  constructor
  case grows => exact grows_begun party opening.bundle random lock correspondence
  case unsigned => exact unsigned
  case succeeds =>
    exact Thread.succeeds_begun (woven.missing_of_drawn (isFresh _ (mem_begunKeys_base suite random)))
  case belongs => exact belongs
  case owned =>
    intro key wasDrawn owns
    exfalso
    rcases Thread.owns_begun owns with rfl | rfl
    · exact unsigned _ _ belongs.signedPreKey_kept (List.mem_append_left _ wasDrawn)
    · exact isFresh _ (mem_begunKeys_ratchet suite random) wasDrawn
  case unshared =>
    intro other stranger isFound sameInitiator id own theirs
    have offered := woven.offered other stranger isFound
    rw [sameInitiator] at offered
    exact absurd theirs (unused _ offered id own)
  case offered =>
    change opening.bundle ∈ Function.update correspondence.bundles party _ party
    rw [Function.update_self]
    exact List.mem_append_right _ List.mem_cons_self
  case posted => exact fun _ isSent => .inl isSent
  case few => exact Nat.zero_le _

end Begin

theorem Woven.initiate (woven : Woven config meeting threads correspondence)
    (regular : Regular config meeting correspondence) (lawful : suite.Lawful)
    (party : Party) (bundle : PreKeyBundle) (random : Randomness)
    (orderly : Orderly suite config meeting correspondence (.initiate party bundle) random) :
    ∃ threads : PublicKey → Option (Thread suite), Woven config meeting threads
      (correspondence.initiate suite config meeting party bundle random) := by
  have distinct := orderly.distinct
  have unsigned := orderly.unsigned
  have keeps := orderly.keeps party
  have stocks := woven.stocks party
  obtain ⟨⟨opening, rfl, joins⟩, unused⟩ := orderly.published party bundle rfl
  rw [after] at distinct unsigned keeps
  rcases initiate_cases party opening.bundle random correspondence with
    ⟨lock, content_eq, initiate_eq⟩ | ⟨lock, rest, processed, initiate_eq⟩
  · rw [initiate_eq]
    exact ⟨threads, woven.storing (content_eq ▸ stocks)⟩
  · rw [initiate_eq] at distinct unsigned keeps ⊢
    obtain ⟨secret, sending, _, found, stepped, again⟩ :=
      stocks.processBundle_eq lawful joins (regular.fits party).published_eq config random
    let next := Thread.begun config party opening secret sending random
    have moves := woven.moves_begun lawful joins found stepped unused distinct unsigned
    have missing : threads (KeyPair.generate suite random).1.publicKey = none :=
      woven.missing_of_drawn fun wasDrawn =>
        (List.nodup_append.mp distinct).2.2 _ wasDrawn _ (mem_begunKeys_base suite random) rfl
    have lock_eq : lock.content = Thread.beginning config meeting party (next.state party)
        (correspondence.parties party).content := by
      rw [Thread.state_begun]
      exact congrArg Outcome.state (processed.symm.trans again)
    change SessionRecord.KeepsSessions _ ((correspondence.storing party lock).record meeting party)
      at keeps
    rw [record_storing_self, lock_eq] at keeps
    have moved : Thread.Stocks meeting (Function.update threads next.base (some next)) party
        lock.content := by
      rw [lock_eq]
      exact stocks.initiate lawful joins found stepped missing keeps
    exact ⟨_, woven.move moves rfl moved (Thread.family_begun_elsewhere missing)⟩

/-! ## Going on with a thread -/

section Continue

variable {final : SessionState} (found : threads thread.base = some thread)
  (continues : thread.Continues party final next)
include found continues

theorem Woven.moves_of_continues (woven : Woven config meeting threads correspondence)
    (grows : Grows correspondence later)
    (unsigned : ∀ party, ∀ key ∈ meeting.signedPreKeys party, key ∉ later.keys)
    (succeeds : Thread.Succeeds threads next)
    (belongs : next.Belongs config meeting later.keys later.read later.evicted)
    (owned : ∀ key ∈ correspondence.keys, next.Owns key → thread.Owns key)
    (posted : ∀ dispatch ∈ later.sent, dispatch ∈ correspondence.sent ∨
      ∃ letter ∈ next.conversation.sent, dispatch = next.post letter)
    (few : next.conversation.sent.length ≤ later.sent.length) :
    Moves config meeting threads next correspondence later := by
  rw [← continues.base_eq] at found
  constructor
  case grows => exact grows
  case unsigned => exact unsigned
  case succeeds => exact succeeds
  case belongs => exact belongs
  case owned => exact fun key wasDrawn owns => ⟨thread, found, owned key wasDrawn owns⟩
  case unshared =>
    rw [continues.initiator_eq, continues.opening_eq]
    exact woven.unshared next.base thread found
  case offered =>
    rw [continues.initiator_eq, continues.opening_eq]
    exact (grows.bundles _).subset (woven.offered next.base thread found)
  case posted => exact posted
  case few => exact few

theorem Woven.continue (woven : Woven config meeting threads correspondence) {lock : Locked Store}
    (moves : Moves config meeting threads next correspondence later)
    (parties_eq : later.parties = Function.update correspondence.parties party lock)
    (stocks : Thread.Stocks meeting (Function.update threads next.base (some next)) party
      lock.content) :
    Woven config meeting (Function.update threads next.base (some next)) later := by
  have elsewhere := Thread.family_continues found continues
  rw [← continues.base_eq] at elsewhere
  exact woven.move moves parties_eq stocks elsewhere

end Continue

/-- The session in front of a party is one of the threads that it has met. -/
theorem Woven.exists_current (woven : Woven config meeting threads correspondence) {party : Party}
    (begun : (correspondence.record meeting party).isFresh = false) :
    ∃ thread : Thread suite, threads thread.base = some thread ∧ thread.Met party ∧
      thread.state party = (correspondence.record meeting party).current := by
  have stocks := woven.stocks party
  rcases stocks.lists.known with isBlank | known
  · change correspondence.record meeting party = {} at isBlank
    rw [isBlank] at begun
    cases begun
  · obtain ⟨base, isFamily⟩ := known _ List.mem_cons_self
    obtain ⟨thread, found, met, state_eq⟩ := Thread.family_eq_some.mp isFamily
    obtain rfl := woven.base_eq base thread found
    exact ⟨thread, found, met, state_eq⟩

theorem Woven.send (woven : Woven config meeting threads correspondence) (lawful : suite.Lawful)
    (short : config.macLength ≤ 32) (party : Party) (plaintext : Bytes) (random : Randomness)
    (orderly : Orderly suite config meeting correspondence (.send party plaintext) random) :
    ∃ threads : PublicKey → Option (Thread suite), Woven config meeting threads
      (correspondence.send suite config meeting party plaintext random) := by
  have unsigned := orderly.unsigned
  have keeps := orderly.keeps party
  have stocks := woven.stocks party
  rw [after] at unsigned keeps
  rcases send_cases party plaintext random correspondence with
    ⟨lock, content_eq, send_eq⟩ | ⟨message, lock, rest, encrypted, send_eq⟩
  · rw [send_eq]
    exact ⟨threads, woven.storing (content_eq ▸ stocks)⟩
  · rw [send_eq] at unsigned keeps ⊢
    obtain ⟨ours, theirs, final, begun, identified, _, made, stored⟩ :=
      Session.encrypt_eq_ok.mp encrypted
    let record := correspondence.record meeting party
    obtain ⟨thread, found, met, state_eq⟩ := woven.exists_current begun
    have belongs := woven.belongs thread.base thread found
    change record.current.identities = _ at identified
    change SessionState.encrypt suite config ours theirs plaintext record.current random = _ at made
    rw [← state_eq] at identified made
    obtain ⟨next, continues, owned, joined, letters_eq, belongsNext⟩ :=
      belongs.exists_sent lawful short met identified made
    have succeeds : Thread.Succeeds threads next := continues.succeeds found
      (fun before => joined.trans before) (by
        rw [letters_eq]
        exact List.subset_append_left _ _)
    have grows : Grows correspondence (correspondence.posting meeting party lock message plaintext) :=
      grows_posting party lock message plaintext correspondence
    have posted : Dispatch.mk party record.current.initiatorBaseKey message plaintext =
        next.post { sender := thread.initiator.sideOf party, message, plaintext } := by
      rw [Thread.post, continues.initiator_eq, continues.base_eq, Party.partyAt_sideOf, ← state_eq,
        belongs.baseKey_eq]
    change SessionRecord.KeepsSessions record ((correspondence.storing party lock).record meeting party)
      at keeps
    rw [record_storing_self, stored, Store.session_putSession] at keeps
    have moved := stocks.sent found met state_eq continues belongsNext succeeds keeps
    rw [← stored] at moved
    refine ⟨_, woven.continue found continues (woven.moves_of_continues found continues grows unsigned
      succeeds belongsNext (fun key _ => owned key) ?posted ?few) rfl moved⟩
    case posted =>
      intro dispatch isSent
      refine (List.mem_append.mp isSent).imp_right fun new => ?_
      rw [List.mem_singleton.mp new, letters_eq]
      exact ⟨_, List.mem_append_right _ List.mem_cons_self, posted⟩
    case few =>
      change _ ≤ (correspondence.sent ++ [_]).length
      rw [letters_eq, List.length_append, List.length_append]
      exact Nat.add_le_add_right (woven.few _ thread found) 1

/-! ## Reading a letter of a thread -/

/-- A dispatch is a letter of a thread, and its addressee looks for the session among its states in the
threads. -/
structure Routed (config : Config) (meeting : Meeting) (threads : PublicKey → Option (Thread suite))
    (correspondence : Correspondence) (dispatch : Dispatch) (thread : Thread suite) (letter : Letter)
    (record : SessionRecord) (used : Option UInt32) (pinned : Store) : Prop where
  found : threads thread.base = some thread
  isSent : letter ∈ thread.conversation.sent
  posted : dispatch = thread.post letter
  seeks : Thread.Seeks config meeting threads dispatch.addressee thread letter
    (correspondence.parties dispatch.addressee).content record used pinned

theorem Woven.routed (woven : Woven config meeting threads correspondence)
    (regular : Regular config meeting correspondence) (isSent : dispatch ∈ correspondence.sent) :
    ∃ thread letter record used pinned,
      Routed config meeting threads correspondence dispatch thread letter record used pinned := by
  obtain ⟨thread, letter, found, isLetter, rfl⟩ := woven.posted dispatch isSent
  have belongs := woven.belongs _ thread found
  have unspent (notMet : ¬thread.Met (thread.post letter).addressee) (id : UInt32)
      (own : thread.opening.bundle.preKeyId = some id) :
      ¬Thread.Spent (thread.post letter).addressee threads id := by
    rintro ⟨other, joined, isFound, initiator_eq, hasJoined, theirs⟩
    have sameInitiator : joined.initiator = thread.initiator := by
      rcases Party.eq_or_eq_other thread.initiator (thread.post letter).addressee with same | same
      · exact absurd (.inl (same ▸ Party.sideOf_self _)) notMet
      · exact initiator_eq.trans same.symm
    cases woven.unshared _ thread found other joined isFound sameInitiator id own theirs
    cases found.symm.trans isFound
    exact notMet (.inr hasJoined)
  obtain ⟨record, used, pinned, seeks⟩ :=
    (woven.stocks (thread.post letter).addressee).seeks found belongs isLetter
      (Thread.addressee_post letter thread).symm (regular.fits _).published_eq unspent
  exact ⟨thread, letter, record, used, pinned, found, isLetter, rfl, seeks⟩

section Routed

variable {record : SessionRecord} {used : Option UInt32} {pinned : Store} {state : SessionState}
  (routed : Routed config meeting threads correspondence dispatch thread letter record used pinned)
include routed

theorem Routed.message_eq : dispatch.message = letter.message := by
  rw [routed.posted]
  rfl

theorem Routed.sought : Session.Sought suite config (meeting.peer dispatch.addressee)
    dispatch.message (correspondence.parties dispatch.addressee).content record used pinned := by
  rw [routed.message_eq]
  exact routed.seeks.sought

theorem Routed.key_eq : dispatch.key = letter.key := by
  rw [routed.posted]
  rfl

theorem Routed.base_eq : dispatch.base = some thread.base := by
  rw [routed.posted]
  rfl

theorem Routed.addressed : thread.initiator.partyAt letter.addressee = dispatch.addressee := by
  rw [routed.posted]
  exact (Thread.addressee_post letter thread).symm

theorem Routed.state_eq :
    thread.script.states letter.addressee = thread.state dispatch.addressee := by
  rw [← routed.addressed, Thread.state_partyAt]

/-- The state of another session does not take the dispatch for its own. -/
theorem Routed.unverified (authentic : Authentic suite config meeting dispatch correspondence)
    (member : state ∈ record.states) (different : state ≠ thread.state dispatch.addressee) :
    state.verifies suite config dispatch.message.inner = false := by
  cases verified : state.verifies suite config dispatch.message.inner with
  | false => rfl
  | true =>
      have old := (routed.seeks.known state member).resolve_left different
      have baseKey_eq := (authentic state old verified).1
      rw [routed.base_eq] at baseKey_eq
      have isFamily := routed.seeks.lists.lookup member baseKey_eq
      rw [Function.update_self] at isFamily
      exact absurd (Option.some.inj isFamily).symm different

theorem Routed.belongs (woven : Woven config meeting threads correspondence) :
    thread.Belongs config meeting correspondence.keys correspondence.read correspondence.evicted :=
  woven.belongs _ thread routed.found

/-- The addressee looks for the session among its states in the threads. -/
theorem Routed.exists_thread (woven : Woven config meeting threads correspondence)
    (member : state ∈ record.states) :
    ∃ base, ∃ other : Thread suite, threads base = some other ∧
      other.state dispatch.addressee = state := by
  have lists := routed.seeks.lists
  rcases lists.known with isBlank | known
  · have inBlank := routed.seeks.member
    rw [isBlank] at inBlank
    have named := (routed.belongs woven).baseKey_eq dispatch.addressee
    rw [List.mem_singleton.mp inBlank] at named
    cases named
  · obtain ⟨base, isFamily⟩ := known state member
    by_cases same : base = thread.base
    · rw [same, Function.update_self] at isFamily
      exact ⟨_, thread, routed.found, Option.some.inj isFamily⟩
    · rw [Function.update_of_ne same] at isFamily
      obtain ⟨other, found, _, state_eq⟩ := Thread.family_eq_some.mp isFamily
      exact ⟨base, other, found, state_eq⟩

/-- A chain that the session has, or that it can keep and never received on. -/
theorem Routed.keeps (woven : Woven config meeting threads correspondence)
    (unsigned : thread.signedPreKey ∉ correspondence.keys)
    (reachable : ((thread.state dispatch.addressee).receiverChain? dispatch.key).isSome = true ∨
      0 < config.maxReceiverChains ∧ (thread.Met dispatch.addressee →
        ∀ other ∈ correspondence.read, other.key ≠ dispatch.key)) :
    (thread.conversation.books letter.addressee).Keeps config letter.key := by
  have belongs := routed.belongs woven
  apply belongs.keeps routed.isSent unsigned
  rw [routed.state_eq, ← routed.key_eq]
  refine reachable.imp_right fun ⟨room, unread⟩ => ⟨room, fun other isRead => ?_⟩
  have met : thread.Met dispatch.addressee := by
    right
    cases hasJoined : thread.script.hasJoined with
    | true => rfl
    | false =>
        rw [belongs.follows.unread hasJoined] at isRead
        cases isRead
  exact unread met _ (belongs.wasRead other isRead)

/-- The state that opens a dispatch is the one of its thread. -/
theorem Routed.eq_of_opened (authentic : Authentic suite config meeting dispatch correspondence)
    (member : state ∈ record.states) {text : Bytes} {final : SessionState}
    (opened : SessionState.decrypt suite config dispatch.message.inner state random =
      ⟨.ok text, final, rest⟩) : state = thread.state dispatch.addressee := by
  by_contra different
  have unverified := routed.unverified authentic member different
  rw [SessionState.verifies_of_decrypt opened] at unverified
  cases unverified

/-- The session of a dispatch that is opened keeps the chain of the dispatch. -/
theorem Routed.keeps_of_opened (woven : Woven config meeting threads correspondence)
    (unsigned : thread.signedPreKey ∉ correspondence.keys)
    (authentic : Authentic suite config meeting dispatch correspondence)
    {text : Bytes} {final : SessionState}
    (opened : SessionState.decrypt suite config dispatch.message.inner
      (thread.state dispatch.addressee) random = ⟨.ok text, final, rest⟩) :
    (thread.conversation.books letter.addressee).Keeps config letter.key := by
  apply routed.keeps woven unsigned
  cases known : ((thread.state dispatch.addressee).receiverChain? dispatch.key).isSome with
  | true => exact .inl rfl
  | false =>
      refine .inr ⟨?_, fun met => ?_⟩
      · rcases SessionState.known_or_room_of_decrypt opened with isKnown | room
        · exact absurd (known.symm.trans isKnown) Bool.false_ne_true
        · exact room
      · have member := (woven.stocks dispatch.addressee).kept _ _
          (Thread.family_of_met routed.found met)
        have verified := SessionState.verifies_of_decrypt opened
        refine (authentic _ member verified).2.resolve_left fun isKnown => ?_
        rw [known] at isKnown
        cases isKnown

/-- What the addressee has done when it has read a dispatch. -/
theorem Routed.opened (authentic : Authentic suite config meeting dispatch correspondence)
    {text : Bytes} {lock : Locked Store}
    (read : correspondence.decrypted suite config meeting dispatch random =
      ⟨.ok text, lock, rest⟩) :
    ∃ (answer : SessionRecord.Answer) (drawn left : Randomness),
      correspondence.opener suite config meeting dispatch random = thread.state dispatch.addressee ∧
      record.states[answer.index]? = some (thread.state dispatch.addressee) ∧
      SessionState.decrypt suite config dispatch.message.inner (thread.state dispatch.addressee) drawn =
        ⟨.ok text, answer.state, left⟩ ∧
      lock.content = Session.withoutUsed used
        (pinned.putSession (meeting.peer dispatch.addressee) (record.answered config answer)) := by
  obtain ⟨_, _, decrypted⟩ := Locked.run_eq_ok read
  obtain ⟨index, drawn, final, left, found, opened, session_eq⟩ :=
    (Session.opened_of_decrypt decrypted).opened
  rw [routed.sought.prepared_eq] at found session_eq
  have isThread := routed.eq_of_opened authentic (List.mem_of_getElem? found) opened
  rw [isThread] at found opened
  rw [routed.sought.decrypt_eq] at decrypted
  obtain ⟨later, _, stored⟩ := Outcome.keeping_eq_ok.mp decrypted
  have later_eq : later = record.answered config { index, state := final, plaintext := text } := by
    rw [← session_eq, stored, Session.session_withoutUsed, Store.session_putSession]
  exact ⟨_, drawn, left, isThread, found, opened, later_eq ▸ stored⟩

/-- The thread of a dispatch goes on once the addressee has opened the dispatch. -/
theorem Routed.exists_next (woven : Woven config meeting threads correspondence)
    (lawful : suite.Lawful)
    (authentic : Authentic suite config meeting dispatch correspondence)
    {text : Bytes} {final : SessionState} {lock : Locked Store}
    (opened : SessionState.decrypt suite config dispatch.message.inner
      (thread.state dispatch.addressee) random = ⟨.ok text, final, rest⟩)
    (later_eq : later = correspondence.reading config dispatch lock
      (thread.state dispatch.addressee) final)
    (distinct : later.keys.Nodup)
    (unsigned : ∀ party, ∀ key ∈ meeting.signedPreKeys party, key ∉ later.keys) :
    ∃ next : Thread suite, thread.Continues dispatch.addressee final next ∧
      next.script.hasJoined = true ∧ Moves config meeting threads next correspondence later := by
  have belongs := routed.belongs woven
  have grows : Grows correspondence later := later_eq ▸ grows_reading dispatch lock _ _ correspondence
  have signed : thread.signedPreKey ∉ later.keys := unsigned _ _ belongs.signedPreKey_kept
  have kept := routed.keeps_of_opened woven (fun wasDrawn => signed (grows.keys.subset wasDrawn))
    authentic opened
  -- `exists_read` speaks of the letter and of the side that reads it.
  rw [routed.message_eq, ← routed.state_eq] at opened
  have keys_eq : later.keys = (thread.script.states letter.addressee).keysAfter letter.key final
      correspondence.keys := by
    rw [later_eq, routed.state_eq, ← routed.key_eq]
    rfl
  have isRead : thread.post letter ∈ later.read := by
    rw [← routed.posted, later_eq]
    exact List.mem_append_right _ List.mem_cons_self
  have isGone (counter : Nat) (isEvicted : counter ∈
      (thread.script.states letter.addressee).evictions config letter.message.inner) :
      (letter.key, counter) ∈ later.evicted (thread.initiator.partyAt letter.addressee) := by
    rw [routed.state_eq, ← routed.message_eq] at isEvicted
    rw [routed.addressed, ← routed.key_eq, later_eq]
    exact mem_evicted_reading isEvicted
  obtain ⟨next, continues, owned, hasJoined, letters_eq, belongsNext⟩ :=
    belongs.exists_read lawful routed.isSent kept opened keys_eq distinct signed grows.read.subset
      isRead (fun each => (grows.evicted each).subset) isGone
  rw [routed.addressed] at continues
  have succeeds : Thread.Succeeds threads next :=
    continues.succeeds routed.found (fun _ => hasJoined) (by
      rw [letters_eq]
      exact List.Subset.refl _)
  have sent_eq : later.sent = correspondence.sent := by
    rw [later_eq]
    rfl
  refine ⟨next, continues, hasJoined, woven.moves_of_continues routed.found continues grows unsigned
    succeeds belongsNext ?owned ?posted ?few⟩
  case owned =>
    intro key wasDrawn owns
    exact (owned key owns).resolve_right fun isFresh => isFresh.2 wasDrawn
  case posted =>
    rw [sent_eq]
    exact fun _ isSent => .inl isSent
  case few =>
    rw [letters_eq, sent_eq]
    exact woven.few _ thread routed.found

end Routed

theorem Woven.deliver (woven : Woven config meeting threads correspondence)
    (regular : Regular config meeting correspondence) (lawful : suite.Lawful) (dispatch : Dispatch)
    (random : Randomness)
    (orderly : Orderly suite config meeting correspondence (.deliver dispatch) random) :
    ∃ threads : PublicKey → Option (Thread suite), Woven config meeting threads
      (correspondence.deliver suite config meeting dispatch random) := by
  have distinct := orderly.distinct
  have unsigned := orderly.unsigned
  have keeps := orderly.keeps dispatch.addressee
  have authentic := orderly.authentic dispatch rfl
  have stocks := woven.stocks dispatch.addressee
  obtain ⟨thread, letter, record, used, pinned, routed⟩ := woven.routed regular orderly.genuine
  rw [after] at distinct unsigned keeps
  rcases deliver_cases dispatch random correspondence with
    ⟨lock, left, deliver_eq⟩ | ⟨plaintext, lock, rest, outcome, deliver_eq⟩
  · rw [deliver_eq]
    refine ⟨threads, woven.storing ?_⟩
    rcases left with rfl | ⟨failure, rest, failed⟩
    · exact stocks
    · rw [routed.sought.decrypt_eq] at failed
      rw [Outcome.keeping_eq_error failed]
      exact stocks.pinning routed.seeks.pinned_eq
  · rw [deliver_eq] at distinct unsigned keeps ⊢
    obtain ⟨answer, drawn, left, opener_eq, at_index, opened, stored⟩ :=
      routed.opened authentic outcome
    have session_eq : lock.content.session (meeting.peer dispatch.addressee) =
        record.answered config answer := by
      rw [stored, Session.session_withoutUsed, Store.session_putSession]
    rw [opener_eq, session_eq, SessionRecord.current_answered] at distinct unsigned ⊢
    obtain ⟨next, continues, hasJoined, moves⟩ :=
      routed.exists_next woven lawful authentic opened rfl distinct unsigned
    change SessionRecord.KeepsSessions _
      ((correspondence.storing dispatch.addressee lock).record meeting dispatch.addressee) at keeps
    rw [record_storing_self, session_eq] at keeps
    have moved := stocks.opened routed.seeks continues moves.belongs moves.succeeds hasJoined at_index
      keeps
    rw [← stored] at moved
    exact ⟨_, woven.continue routed.found continues moves rfl moved⟩

theorem Woven.step (woven : Woven config meeting threads correspondence)
    (regular : Regular config meeting correspondence) (lawful : suite.Lawful)
    (short : config.macLength ≤ 32) (action : Action) (random : Randomness)
    (orderly : Orderly suite config meeting correspondence action random) :
    ∃ threads : PublicKey → Option (Thread suite), Woven config meeting threads
      (correspondence.after suite config meeting action random) := by
  cases action with
  | initiate party bundle => exact woven.initiate regular lawful party bundle random orderly
  | accept party message => exact absurd rfl (orderly.joinsByReading party message)
  | send party plaintext => exact woven.send lawful short party plaintext random orderly
  | deliver dispatch => exact woven.deliver regular lawful dispatch random orderly

theorem Run.honest (run : Run suite config meeting (Orderly suite config meeting) correspondence) :
    Run suite config meeting (Honest suite config meeting) correspondence :=
  run.mono fun _ _ _ orderly => orderly.toHonest

theorem Run.woven (lawful : suite.Lawful) (short : config.macLength ≤ 32)
    (run : Run suite config meeting (Orderly suite config meeting) correspondence) :
    ∃ threads : PublicKey → Option (Thread suite), Woven config meeting threads correspondence := by
  induction run with
  | start => exact ⟨_, woven_start suite config meeting⟩
  | step run action random orderly ih =>
      obtain ⟨threads, woven⟩ := ih
      exact woven.step run.honest.regular lawful short action random orderly

end Correspondence
end DoubleRatchet
