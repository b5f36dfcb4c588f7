import DoubleRatchet.Proofs.Conversation.Delivery
import DoubleRatchet.Proofs.Handshake.Agreement
import DoubleRatchet.Proofs.Session.Verify

/-!
# One link ahead

The two sides of a session link their ratchet keys to one chain of hashes. Whoever took the last step
of the ratchet is one link ahead of the other side, however letters are delayed, lost and repeated: a
letter that takes no step adds no link, and a step is taken by the side that is behind.
-/

namespace DoubleRatchet

variable {suite : Suite} {config : Config} {opening : Opening suite}

/-! ## Links -/

/-- The side that took the last of these steps. Before all others the initiator takes one, when it
begins. -/
def latest (turns : List Side) : Side :=
  turns.getLast?.getD .initiator

@[simp] theorem latest_concat (turns : List Side) (side : Side) : latest (turns ++ [side]) = side := by
  simp [latest]

/-- What a state tells of the steps of the ratchet. -/
def SessionState.links (state : SessionState) : Bytes × Bytes × AuthKey :=
  (state.lastFingerprintHash, state.fingerprintHash, state.authKey)

structure Linked (suite : Suite) (halves : Side → Half) (states : Side → SessionState)
    (turns : List Side) : Prop where
  offset : (states (latest turns)).lastFingerprintHash =
    (states (latest turns).other).fingerprintHash
  link : (states (latest turns)).fingerprintHash = Handshake.linkHash suite
    (states (latest turns)).lastFingerprintHash (halves (latest turns)).last.publicKey
  auth : turns ≠ [] → ∀ step, (halves (latest turns).other).root.step suite
      (halves (latest turns)).last.publicKey (halves (latest turns).other).last = .ok step →
    (states (latest turns)).authKey.key = step.auth.key
  lastAuth : .initiator ∈ turns →
    (states (latest turns)).authKey.lastKey = (states (latest turns).other).authKey.key

namespace Linked

variable {identity : Side → PublicKey} {halves next : Side → Half} {books : Side → Book}
  {states after : Side → SessionState} {turns : List Side} {final : SessionState}

/-- What takes no step adds no link. -/
theorem congr (linked : Linked suite halves states turns)
    (last_eq : ∀ side, (next side).last = (halves side).last)
    (root_eq : ∀ side, (next side).root = (halves side).root)
    (links_eq : ∀ side, (after side).links = (states side).links) :
    Linked suite next after turns := by
  have lastHash_eq (side : Side) :
      (after side).lastFingerprintHash = (states side).lastFingerprintHash :=
    congrArg (fun links => links.1) (links_eq side)
  have hash_eq (side : Side) : (after side).fingerprintHash = (states side).fingerprintHash :=
    congrArg (fun links => links.2.1) (links_eq side)
  have auth_eq (side : Side) : (after side).authKey = (states side).authKey :=
    congrArg (fun links => links.2.2) (links_eq side)
  constructor
  case offset =>
    rw [lastHash_eq, hash_eq]
    exact linked.offset
  case link =>
    rw [lastHash_eq, hash_eq, last_eq]
    exact linked.link
  case auth =>
    intro notFirst step
    rw [auth_eq, root_eq, last_eq, last_eq]
    exact linked.auth notFirst step
  case lastAuth =>
    rw [auth_eq, auth_eq]
    exact linked.lastAuth

/-- The side behind takes two links: the last one of the side ahead, and one of its own. The first of
its two steps is the one that the side ahead took, so that they have met on its authentication key. -/
theorem turned (linked : Linked suite halves states turns)
    (synced : Synced suite config identity halves books states (latest turns))
    (bothWays : suite.AgreesBothWays) {fresh : KeyPair} (freshMatches : fresh.Matches suite)
    {key : PublicKey} (isLast : key = (halves (latest turns)).last.publicKey)
    (turn : SessionState.Turn suite key fresh (states (latest turns).other))
    (sender : RootStep) (links_eq : final.links = (turn.turned suite config).links) :
    Linked suite
      ((latest turns).other.update ((halves (latest turns).other).turned fresh sender) halves)
      ((latest turns).other.update final states) (turns ++ [(latest turns).other]) := by
  subst isLast
  have holds := synced.holds (latest turns).other
  obtain ⟨_, sends⟩ := synced.receiver_of_turn turn
  obtain ⟨middle, first, second⟩ := turn.advances
  obtain ⟨_, rfl⟩ := AuthKey.advance_eq_ok.mp first
  obtain ⟨_, auth_eq⟩ := AuthKey.advance_eq_ok.mp second
  obtain ⟨lastHash_eq, hash_eq, finalAuth_eq⟩ :
      final.lastFingerprintHash = Handshake.linkHash suite
          (states (latest turns).other).fingerprintHash (halves (latest turns)).last.publicKey ∧
        final.fingerprintHash = Handshake.linkHash suite final.lastFingerprintHash
          fresh.publicKey ∧
        final.authKey = turn.auth := by
    simp only [SessionState.links, Prod.mk.injEq] at links_eq
    obtain ⟨lastHash_eq, hash_eq, finalAuth_eq⟩ := links_eq
    exact ⟨lastHash_eq, by rw [lastHash_eq]; exact hash_eq, finalAuth_eq⟩
  constructor
  case offset =>
    simp only [latest_concat, Side.other_other, Side.update_self, Side.other_update_self]
    rw [lastHash_eq, ← linked.offset]
    exact linked.link.symm
  case link =>
    simp only [latest_concat, Side.update_self]
    exact hash_eq
  case auth =>
    intro _ step stepped
    simp only [latest_concat, Side.other_other, Side.update_self, Side.other_update_self] at stepped ⊢
    change (halves (latest turns)).root.step suite fresh.publicKey _ = _ at stepped
    rw [RootKey.step_comm bothWays _ (synced.proper (latest turns)).last_matches freshMatches,
      sends] at stepped
    rw [finalAuth_eq, auth_eq, ← Except.ok.inj stepped]
  case lastAuth =>
    intro taken
    simp only [latest_concat, Side.other_other, Side.update_self, Side.other_update_self]
    have notFirst : turns ≠ [] := by
      rintro rfl
      cases List.mem_singleton.mp taken
    have receives := turn.receives
    rw [← Option.some.inj (holds.rootKey_eq.symm.trans turn.hasRoot),
      ← Option.some.inj (holds.senderChain_eq.symm.trans turn.hasSending)] at receives
    rw [finalAuth_eq, auth_eq]
    exact (linked.auth notFirst _ receives).symm

/-- Whatever a side reads, the side that then took the last step is one link ahead. -/
theorem read (linked : Linked suite halves states turns)
    (synced : Synced suite config identity halves books states (latest turns))
    (bothWays : suite.AgreesBothWays) {side ahead : Side} {message : SignalMessage}
    (drawn : message.ratchetKey ∈ (halves side.other).keys)
    (kept : (books side).Keeps config message.ratchetKey) {random rest : Randomness} {text : Bytes}
    (opened : SessionState.decrypt suite config message (states side) random =
      ⟨.ok text, final, rest⟩)
    (readied : Synced.Readied suite (KeyPair.generate suite random).1 side halves (latest turns)
      (message.ratchetKey ∈ (books side).keys) next ahead) :
    let taken := if message.ratchetKey ∈ (books side).keys then turns else turns ++ [side]
    ahead = latest taken ∧ Linked suite next (side.update final states) taken := by
  intro taken
  obtain ⟨ready, isReady, decryption, rfl⟩ := SessionState.decrypt_eq_ok opened
  have ready_cases := synced.ready_cases drawn isReady kept
  cases readied with
  | same noted =>
      have taken_eq : taken = turns := if_pos noted
      rw [taken_eq]
      refine ⟨rfl, linked.congr (fun _ => rfl) (fun _ => rfl) ?_⟩
      intro each
      apply Side.update_congr SessionState.links
      change ready.links = (states side).links
      rcases ready_cases with ⟨_, same⟩ | ⟨unseen, _⟩
      · rw [same]
      · exact absurd noted unseen
  | turned unseen sender =>
      have taken_eq : taken = turns ++ [side] := if_neg unseen
      rw [taken_eq]
      refine ⟨(latest_concat turns side).symm, ?_⟩
      rcases ready_cases with ⟨noted, _⟩ | ⟨_, rfl, isLast, turn, turned_eq⟩
      · exact absurd noted unseen
      · apply linked.turned synced bothWays (KeyPair.matches_generate suite random) isLast turn sender
        change ready.links = _
        rw [turned_eq]

end Linked

/-! ## Courses -/

namespace Conversation

variable (config opening)

/-- The session of a side. -/
def state (side : Side) (conversation : Conversation) : SessionState :=
  ((conversation.parties side).content.session (opening.peer side)).current

/-- A MAC fits only the keys that its letter was made with: those of the chain that the addressee has
under the ratchet key of the letter, or finds when it meets the ratchet key. A side that has dropped
this chain derives another one, which does not give them. -/
def Authentic (letter : Letter) (conversation : Conversation) : Prop :=
  (conversation.state opening letter.addressee).verifies suite config letter.message.inner = true →
    ((conversation.state opening letter.addressee).receiverChain? letter.key).isSome = true ∨
      letter.key ∉ (conversation.books letter.addressee).keys

/-- The responder joins the session of a first message and leaves the text for later. -/
def accept (message : PreKeyMessage) (random : Randomness) (conversation : Conversation) :
    Conversation :=
  let outcome := Locked.run
    (Session.processPreKeyMessage suite config (opening.peer .responder) message)
    (conversation.parties .responder) random
  { conversation with parties := Side.responder.update outcome.state conversation.parties }

/-- The turns with that of a side, if the side sends under another ratchet key than before. -/
def turnsAfter (side : Side) (before after : Conversation) (turns : List Side) : List Side :=
  if (after.state opening side).sendingKey? = (before.state opening side).sendingKey? then turns
  else turns ++ [side]

/-- What can happen to a session, and whose turns of the ratchet it took. Every letter may come at any
time and any number of times. -/
inductive Course : List Side → Conversation → Prop where
  | start (random : Randomness)
      (begins : (Session.processBundle suite config (opening.peer .initiator) opening.bundle
        (opening.store .initiator) random).result = .ok ()) :
      Course [] (begun config opening random)
  | send {turns : List Side} {conversation : Conversation} (course : Course turns conversation)
      (side : Side) (plaintext : Bytes) (random : Randomness) :
      Course turns (conversation.send config opening side plaintext random)
  | deliver {turns : List Side} {conversation : Conversation} (course : Course turns conversation)
      (letter : Letter) (random : Randomness) (isSent : letter ∈ conversation.sent)
      (authentic : conversation.Authentic config opening letter)
      (fresh : letter.key ∉ (conversation.books letter.addressee).keys →
        (KeyPair.generate suite random).1.publicKey ∉
          conversation.ratchetKeys letter.addressee) :
      Course (turnsAfter opening letter.addressee conversation
          (conversation.deliver config opening letter random) turns)
        (conversation.deliver config opening letter random)
  | accept {turns : List Side} {conversation : Conversation} (course : Course turns conversation)
      (letter : Letter) (message : PreKeyMessage) (random : Randomness)
      (isSent : letter ∈ conversation.sent) (isFirst : letter.message = .preKey message) :
      Course turns (conversation.accept config opening message random)

end Conversation

namespace Script

variable {script : Script} {conversation : Conversation} {turns : List Side} {side : Side}
  {letter : Letter} {random : Randomness}

/-! ## The session that a side has -/

/-- The state that a side shows: none before it has met the other side. -/
def shown (script : Script) (side : Side) : SessionState :=
  if side = .initiator ∨ script.hasJoined = true then script.states side else {}

theorem shown_of_met (met : side = .initiator ∨ script.hasJoined = true) :
    script.shown side = script.states side := if_pos met

theorem Keeps.current_eq {store : Store} (keeps : Keeps opening script side store) :
    (store.session (opening.peer side)).current = script.shown side := by
  cases keeps with
  | sole met sole =>
      rw [sole.session_eq, shown_of_met met]
      rfl
  | waiting notJoined untouched =>
      rw [(Opening.unmet untouched).session_eq, shown, if_neg]
      simp [notJoined]

theorem Tracks.state_eq (tracks : script.Tracks config opening conversation) (side : Side) :
    conversation.state opening side = script.shown side :=
  (tracks.keeps side).current_eq

/-! ## What a course leaves linked -/

/-- The script has the links of the turns. -/
structure Traced (config : Config) (opening : Opening suite) (turns : List Side) (script : Script)
    (conversation : Conversation) : Prop extends Tracks config opening script conversation where
  ahead_eq : script.ahead = latest turns
  linked : Linked suite script.halves script.states turns
  unread_book : script.hasJoined = false → conversation.books .responder = []

theorem linked_begun {base ratchet : KeyPair} {secret : Bytes} {sending : RootStep}
    (baseMatches : base.Matches suite) :
    Linked suite (begun config opening base ratchet secret sending).halves
      (begun config opening base ratchet secret sending).states [] where
  offset := by
    have initial_eq := (opening.mirrored baseMatches).initialHash_eq
    change Handshake.linkHash suite (Handshake.initialHash suite _ _ _ _) _ = _
    rw [initial_eq]
    rfl
  link := rfl
  auth notFirst := absurd rfl notFirst
  lastAuth taken := nomatch taken

theorem Traced.book_of_unmet (traced : Traced config opening turns script conversation)
    (unmet : ¬(side = .initiator ∨ script.hasJoined = true)) : conversation.books side = [] := by
  obtain ⟨notInitiator, notJoined⟩ := not_or.mp unmet
  cases side with
  | initiator => exact absurd rfl notInitiator
  | responder => exact traced.unread_book (Bool.eq_false_iff.mpr notJoined)

/-- A side that has read a letter sends under another ratchet key if it met a new one. -/
theorem Traced.turnsAfter_eq (traced : Traced config opening turns script conversation)
    {next : Conversation} {halves : Side → Half} {ahead : Side} {final : SessionState}
    (tracks : (script.answered side halves ahead final).Tracks config opening next)
    {key : PublicKey}
    (readied : Synced.Readied suite (KeyPair.generate suite random).1 side script.halves
      (latest turns) (key ∈ (conversation.books side).keys) halves ahead)
    (fresh : key ∉ (conversation.books side).keys →
      (KeyPair.generate suite random).1.publicKey ∉ conversation.ratchetKeys side) :
    Conversation.turnsAfter opening side conversation next turns =
      if key ∈ (conversation.books side).keys then turns else turns ++ [side] := by
  unfold Conversation.turnsAfter
  rw [tracks.state_eq, traced.state_eq, shown_of_met (.inr rfl),
    (tracks.synced.holds side).sendingKey?_eq]
  cases readied with
  | same noted =>
      have met : side = .initiator ∨ script.hasJoined = true := by
        by_contra unmet
        rw [traced.book_of_unmet unmet] at noted
        cases noted
      rw [if_pos noted, shown_of_met met, (traced.synced.holds side).sendingKey?_eq]
      exact if_pos rfl
  | turned unseen sender =>
      rw [if_neg unseen]
      apply if_neg
      simp only [answered, Side.update_self, Half.turned]
      intro same
      by_cases met : side = .initiator ∨ script.hasJoined = true
      · rw [shown_of_met met, (traced.synced.holds side).sendingKey?_eq] at same
        apply fresh unseen
        rw [traced.drawn, Option.some.inj same]
        exact (script.halves side).last_mem_keys
      · rw [shown, if_neg met] at same
        cases same

theorem Traced.of_content (traced : Traced config opening turns script conversation)
    {lock : Locked Store} (keeps : Keeps opening script side lock.content) :
    Traced config opening turns script
      { conversation with parties := side.update lock conversation.parties } :=
  { traced with toTracks := traced.toTracks.of_content keeps }

theorem Traced.send (traced : Traced config opening turns script conversation) (side : Side)
    (plaintext : Bytes) (random : Randomness) :
    ∃ next, Traced config opening turns next
      (conversation.send config opening side plaintext random) := by
  rcases traced.send_cases side plaintext random with ⟨lock, keeps, sent_eq⟩ |
    ⟨message, after, rest, encrypted, sent_eq⟩
  · rw [sent_eq]
    exact ⟨script, traced.of_content keeps⟩
  · rw [sent_eq]
    refine ⟨script.sent suite side, ?_⟩
    constructor
    case toTracks => exact traced.toTracks.sent encrypted
    case ahead_eq => exact traced.ahead_eq
    case linked =>
      apply traced.linked.congr
      · exact fun each => last_sent side each script
      · exact fun each => Side.update_congr Half.root rfl
      · exact fun each => Side.update_congr SessionState.links rfl
    case unread_book => exact traced.unread_book

/-- Only letters whose chain the addressee keeps, or finds anew, are opened. -/
theorem Traced.keeps_of_opened (traced : Traced config opening turns script conversation)
    (authentic : conversation.Authentic config opening letter) {text : Bytes} {final : SessionState}
    {rest : Randomness}
    (opened : SessionState.decrypt suite config letter.message.inner
      (script.states letter.addressee) random = ⟨.ok text, final, rest⟩) :
    (conversation.books letter.addressee).Keeps config letter.key := by
  have holds := traced.synced.holds letter.addressee
  have keeps_of_unseen (unseen : letter.key ∉ (conversation.books letter.addressee).keys) :
      (conversation.books letter.addressee).Keeps config letter.key := by
    rcases SessionState.known_or_room_of_decrypt opened with known | room
    · exact holds.keeps_of_known known
    · exact Book.keeps_of_unseen unseen room
  by_cases met : letter.addressee = .initiator ∨ script.hasJoined = true
  · unfold Conversation.Authentic at authentic
    rw [traced.state_eq, shown_of_met met] at authentic
    rcases authentic (SessionState.verifies_of_decrypt opened) with known | unseen
    · exact holds.keeps_of_known known
    · exact keeps_of_unseen unseen
  · apply keeps_of_unseen
    rw [traced.book_of_unmet met]
    exact List.not_mem_nil

theorem Traced.deliver (traced : Traced config opening turns script conversation)
    (bothWays : suite.AgreesBothWays) (isSent : letter ∈ conversation.sent)
    (authentic : conversation.Authentic config opening letter) (random : Randomness)
    (fresh : letter.key ∉ (conversation.books letter.addressee).keys →
      (KeyPair.generate suite random).1.publicKey ∉ conversation.ratchetKeys letter.addressee) :
    ∃ next, Traced config opening
      (Conversation.turnsAfter opening letter.addressee conversation
        (conversation.deliver config opening letter random) turns) next
      (conversation.deliver config opening letter random) := by
  rcases traced.deliver_cases isSent random with ⟨lock, keeps, delivered_eq⟩ |
    ⟨text, final, rest, lock, opened, sole, delivered_eq⟩
  · have next := traced.of_content keeps
    rw [← delivered_eq] at next
    unfold Conversation.turnsAfter
    rw [next.state_eq, traced.state_eq, if_pos rfl]
    exact ⟨script, next⟩
  · have kept := traced.keeps_of_opened authentic opened
    have drawn : letter.key ∈ (script.halves letter.addressee.other).keys := by
      unfold Letter.addressee
      rw [Side.other_other]
      exact traced.keyed letter isSent
    obtain ⟨halves, ahead, readied, tracks⟩ :=
      traced.toTracks.read isSent kept fresh bothWays opened sole
    have synced := traced.synced
    rw [traced.ahead_eq] at synced readied
    rw [← delivered_eq] at tracks
    have turns_eq := traced.turnsAfter_eq tracks readied fresh
    obtain ⟨ahead_eq, linked⟩ := traced.linked.read synced bothWays drawn kept opened readied
    rw [turns_eq]
    exact ⟨_, tracks, ahead_eq, linked, nofun⟩

/-- The script once both sides have the session. -/
def joined (script : Script) : Script :=
  { script with hasJoined := true }

theorem Tracks.join (tracks : script.Tracks config opening conversation) {lock : Locked Store}
    (sole : Session.Sole (opening.peer .responder) (opening.identity .initiator)
      (script.states .responder) lock.content) :
    script.joined.Tracks config opening
      { conversation with parties := Side.responder.update lock conversation.parties } where
  toIntroduced := tracks.toIntroduced.moved script.joined rfl (fun _ => rfl) (fun _ => rfl)
    (fun _ => rfl) (fun _ => .inl rfl)
  toPosted := tracks.toPosted.extended script.joined rfl (fun _ => rfl)
    (fun side => .refl (script.halves side))
  synced := tracks.synced
  drawn := tracks.drawn
  keeps := by
    intro side
    cases side with
    | initiator => exact .sole (.inl rfl) ((tracks.keeps .initiator).sole_of_met (.inl rfl))
    | responder => exact .sole (.inr rfl) sole
  unread := nofun
  recorded := tracks.recorded

theorem Traced.accept (traced : Traced config opening turns script conversation)
    {message : PreKeyMessage} (isSent : letter ∈ conversation.sent)
    (isFirst : letter.message = .preKey message) (random : Randomness) :
    ∃ next, Traced config opening turns next
      (conversation.accept config opening message random) := by
  unfold Conversation.accept
  cases poisoned : (conversation.parties .responder).poisoned with
  | true =>
      rw [Locked.run_of_poisoned poisoned]
      exact ⟨script, traced.of_content (traced.keeps .responder)⟩
  | false =>
      have wraps := traced.wraps letter isSent
      rw [isFirst] at wraps
      obtain ⟨used, after, accepted, sole⟩ := (traced.keeps .responder).accept_eq
        (traced.synced.holds .responder).version_eq (traced.baseKey_eq .responder)
        ⟨rfl, wraps.2⟩ config random
      rw [Locked.run_of_free poisoned, accepted]
      refine ⟨script.joined, ?_, traced.ahead_eq, traced.linked, nofun⟩
      apply traced.toTracks.join
      exact sole

end Script

namespace Conversation

variable {turns : List Side} {conversation : Conversation}

theorem Course.traced (bothWays : suite.AgreesBothWays)
    (course : Course config opening turns conversation) :
    ∃ script, Script.Traced config opening turns script conversation := by
  induction course with
  | start random begins =>
      obtain ⟨secret, sending, found, stepped⟩ := opening.steps_of_processBundle bothWays begins
      exact ⟨_, Script.tracks_begun found stepped bothWays, rfl,
        Script.linked_begun (KeyPair.matches_generate suite random), fun _ => rfl⟩
  | send course side plaintext random ih =>
      obtain ⟨script, traced⟩ := ih
      exact traced.send side plaintext random
  | deliver course letter random isSent authentic fresh ih =>
      obtain ⟨script, traced⟩ := ih
      exact traced.deliver bothWays isSent authentic random fresh
  | accept course letter message random isSent isFirst ih =>
      obtain ⟨script, traced⟩ := ih
      exact traced.accept isSent isFirst random

/-- Once both sides have the session, the one that took the last step of the ratchet is one link ahead:
it has linked one ratchet key, its own, to the hash of the other side. From the first turn of the
initiator on, the sides meet on the authentication keys as well. -/
theorem latest_is_one_link_ahead (bothWays : suite.AgreesBothWays)
    (course : Course config opening turns conversation)
    (begun : ((conversation.parties .responder).content.session
      (opening.peer .responder)).isFresh = false) :
    (conversation.state opening (latest turns)).lastFingerprintHash =
        (conversation.state opening (latest turns).other).fingerprintHash ∧
      (∃ chain, (conversation.state opening (latest turns)).senderChain = some chain ∧
        (conversation.state opening (latest turns)).fingerprintHash =
          (suite.hash ((conversation.state opening (latest turns)).lastFingerprintHash ++
            chain.ratchetKey.publicKey.encode)).bytes) ∧
      (.initiator ∈ turns → (conversation.state opening (latest turns)).authKey.lastKey =
        (conversation.state opening (latest turns).other).authKey.key) := by
  obtain ⟨script, traced⟩ := course.traced bothWays
  obtain ⟨met, _⟩ := (traced.keeps .responder).sole_of_begun begun
  have state_eq (side : Side) : conversation.state opening side = script.states side := by
    rw [traced.state_eq, Script.shown_of_met (.inr (met.resolve_left nofun))]
  rw [state_eq, state_eq]
  exact ⟨traced.linked.offset,
    ⟨_, (traced.synced.holds (latest turns)).senderChain_eq, traced.linked.link⟩,
    traced.linked.lastAuth⟩

/-- The newcomer has answered the second of two calls. -/
def answered : Conversation :=
  overtaken.send {} newcomers .responder [6] (.repeated 0)

def answer : Letter :=
  answered.sent.get ⟨2, by decide +kernel⟩

/-- The caller has read the answer. -/
def settled : Conversation :=
  answered.deliver {} newcomers answer (.repeated 24)

theorem course_overtaken : Course {} newcomers [.responder] overtaken := by
  have begins : (Session.processBundle Suite.additive {} (newcomers.peer .initiator)
      newcomers.bundle (newcomers.store .initiator) (.repeated 8)).result = .ok () := by
    decide +kernel
  obtain ⟨isSent, unseen, isNew, moved⟩ : secondCall ∈ twoCalls.sent ∧
      secondCall.key ∉ (twoCalls.books secondCall.addressee).keys ∧
      (KeyPair.generate Suite.additive (.repeated 16)).1.publicKey ∉
        twoCalls.ratchetKeys secondCall.addressee ∧
      (overtaken.state newcomers secondCall.addressee).sendingKey? ≠
        (twoCalls.state newcomers secondCall.addressee).sendingKey? := by decide +kernel
  have addressee_eq : secondCall.addressee = .responder := by decide +kernel
  have taken : turnsAfter newcomers secondCall.addressee twoCalls overtaken [] = [.responder] := by
    rw [turnsAfter, if_neg moved, addressee_eq]
    rfl
  rw [← taken]
  apply Course.deliver
  · apply Course.send
    apply Course.send
    exact Course.start (.repeated 8) begins
  · exact isSent
  · exact fun _ => .inr unseen
  · exact fun _ => isNew

theorem course_settled : Course {} newcomers [.responder, .initiator] settled := by
  obtain ⟨isSent, unseen, isNew, moved⟩ : answer ∈ answered.sent ∧
      answer.key ∉ (answered.books answer.addressee).keys ∧
      (KeyPair.generate Suite.additive (.repeated 24)).1.publicKey ∉
        answered.ratchetKeys answer.addressee ∧
      (settled.state newcomers answer.addressee).sendingKey? ≠
        (answered.state newcomers answer.addressee).sendingKey? := by decide +kernel
  have addressee_eq : answer.addressee = .initiator := by decide +kernel
  have taken : turnsAfter newcomers answer.addressee answered settled [.responder] =
      [.responder, .initiator] := by
    rw [turnsAfter, if_neg moved, addressee_eq]
    rfl
  rw [← taken]
  apply Course.deliver
  · exact Course.send course_overtaken .responder [6] (.repeated 0)
  · exact isSent
  · exact fun _ => .inr unseen
  · exact fun _ => isNew

theorem settled_links :
    (settled.state newcomers .initiator).lastFingerprintHash =
        (settled.state newcomers .responder).fingerprintHash ∧
      (settled.state newcomers .initiator).authKey.lastKey =
        (settled.state newcomers .responder).authKey.key := by
  have begun : ((settled.parties .responder).content.session
      (newcomers.peer .responder)).isFresh = false := by decide +kernel
  have linked := latest_is_one_link_ahead Suite.additive_lawful.agree_comm course_settled begun
  have latest_eq : latest [.responder, .initiator] = .initiator := latest_concat [.responder] _
  have behind_eq : Side.other .initiator = .responder := rfl
  rw [latest_eq, behind_eq] at linked
  exact ⟨linked.1, linked.2.2 (by decide)⟩

end Conversation
end DoubleRatchet
