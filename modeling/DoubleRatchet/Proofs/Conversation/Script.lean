import DoubleRatchet.Proofs.Conversation.Letters
import DoubleRatchet.Proofs.Session.Single

/-!
# The script of a conversation

What somebody knows who sees both parties at once: the halves, the state with which each side reads
the next letter, who is ahead, and whether the responder has joined. The parties' stores and the
letters on the network follow from the script; a responder that has not joined keeps no state yet, but
every first message lets it join with the same one.
-/

namespace DoubleRatchet

namespace Opening

variable {suite : Suite} (opening : Opening suite) (base : PublicKey)

def identity (side : Side) : PublicKey :=
  (opening.store side).identity.publicKey

/-- A first message as the initiator wraps it. -/
def wrap (inner : SignalMessage) : PreKeyMessage :=
  .make Envelope.currentVersion (opening.store .initiator).registrationId
    (opening.oneTime.map Prod.fst) opening.bundle.signedPreKeyId base (opening.identity .initiator)
    inner

/-- The keys with which the responder joins. -/
def responder : Handshake.Responder :=
  { ourIdentity := (opening.store .responder).identity
    ourSignedPreKey := opening.signedPreKey.keyPair
    ourOneTimePreKey := opening.oneTime.map fun offered => offered.2.keyPair
    ourRatchet := opening.signedPreKey.keyPair
    theirIdentity := opening.identity .initiator
    theirBase := base }

/-- The state with which the responder joins. -/
def joined (secret : Bytes) : SessionState :=
  { (opening.responder base).begun suite secret {} with
    localRegistrationId := (opening.store .responder).registrationId
    remoteRegistrationId := (opening.store .initiator).registrationId
    initiatorBaseKey := some base }

/-- What the initiator announces until the responder has answered. -/
def announcement : PendingPreKey :=
  { preKeyId := opening.oneTime.map Prod.fst
    signedPreKeyId := opening.bundle.signedPreKeyId
    baseKey := base }

/-- The store of the responder with the initiator's identity in it. -/
def pinned : Store :=
  (opening.store .responder).putIdentity (opening.peer .responder) (opening.identity .initiator)

variable {opening}

theorem session_eq (opening : Opening suite) (side : Side) :
    (opening.store side).session (opening.peer side) = {} := by
  unfold Store.session
  rw [opening.noSession side]
  rfl

/-- A responder that has read nothing has no session, and knows the initiator or nobody. -/
theorem unmet {store : Store}
    (untouched : store = opening.store .responder ∨ store = opening.pinned) :
    Session.Unmet (opening.peer .responder) (opening.identity .initiator) store := by
  rcases untouched with rfl | rfl
  · refine ⟨opening.session_eq .responder, ?_⟩
    rw [Store.trusts_iff]
    exact .inl (opening.noIdentity .responder)
  · refine ⟨opening.session_eq .responder, ?_⟩
    rw [Store.trusts_iff]
    exact .inr (Table.find?_insert_self _ _ _)

theorem putIdentity_eq_pinned {store : Store}
    (untouched : store = opening.store .responder ∨ store = opening.pinned) :
    store.putIdentity (opening.peer .responder) (opening.identity .initiator) = opening.pinned := by
  rcases untouched with rfl | rfl
  · rfl
  · apply Store.putIdentity_of_find?
    exact Table.find?_insert_self _ _ _

theorem published_untouched {store : Store}
    (untouched : store = opening.store .responder ∨ store = opening.pinned) :
    Session.published store = Session.published (opening.store .responder) ∧
      store.preKeys = (opening.store .responder).preKeys := by
  rcases untouched with rfl | rfl
  · exact ⟨rfl, rfl⟩
  · exact ⟨rfl, rfl⟩

section Published

variable {store : Store}
  (published_eq : Session.published store = Session.published (opening.store .responder))
include published_eq

/-- Every store with what the responder published offers what the first message names, if the one-time
prekey is still in it. -/
theorem offers (base : PublicKey) (inner : SignalMessage)
    (kept : ∀ id record, opening.oneTime = some (id, record) →
      store.preKeys.find? id = some record) :
    Session.Offers (opening.wrap base inner) opening.signedPreKey
      (opening.oneTime.map fun offered => offered.2.keyPair) store := by
  constructor
  · rw [show store.signedPreKeys = (opening.store .responder).signedPreKeys from
      congrArg (fun published => published.2.2) published_eq]
    exact opening.signedPreKey_kept
  · change _ = (opening.oneTime.map Prod.fst).bind _
    cases offered : opening.oneTime with
    | none => rfl
    | some pair => simp only [Option.map_some, Option.bind_some, kept pair.1 pair.2 offered]
  · change (opening.oneTime.map Prod.fst).isSome = _
    rw [Option.isSome_map, Option.isSome_map]

theorem responderKeys_wrap (base : PublicKey) (inner : SignalMessage) :
    Session.responderKeys store (opening.wrap base inner) opening.signedPreKey
      (opening.oneTime.map fun offered => offered.2.keyPair) = opening.responder base := by
  unfold Session.responderKeys
  rw [show store.identity = (opening.store .responder).identity from
    congrArg (fun published => published.1) published_eq]
  rfl

theorem joinedState_wrap (base : PublicKey) (inner : SignalMessage) (secret : Bytes) :
    Session.joinedState store (opening.wrap base inner)
      ((opening.responder base).begun suite secret {}) = opening.joined base secret := by
  unfold Session.joinedState
  rw [show store.registrationId = (opening.store .responder).registrationId from
    congrArg (fun published => published.2.1) published_eq]
  rfl

end Published

/-- Every first message lets a responder that has read nothing join with the same session. -/
theorem accept_wrap {store : Store} {base : PublicKey} {secret : Bytes}
    (untouched : store = opening.store .responder ∨ store = opening.pinned)
    (found : (opening.responder base).secret suite = .ok secret) (config : Config)
    (inner : SignalMessage) (random : Randomness) :
    Session.acceptPreKeyMessage suite config (opening.peer .responder)
        (store.session (opening.peer .responder)) (opening.wrap base inner) store random =
      ⟨.ok (opening.oneTime.map Prod.fst, .ofState (opening.joined base secret)), opening.pinned,
        random⟩ := by
  obtain ⟨published_eq, preKeys_eq⟩ := published_untouched untouched
  have keys_eq := responderKeys_wrap published_eq base inner
  have offers := offers published_eq base inner fun id record offered => by
    rw [preKeys_eq]
    exact (opening.oneTime_kept id record offered).1
  rw [← keys_eq] at found
  have accepted := Session.Unmet.accept_eq (unmet untouched) offers found config random
  rw [keys_eq, joinedState_wrap published_eq] at accepted
  change _ = (⟨_, store.putIdentity _ (opening.identity .initiator), _⟩ : Outcome _ _) at accepted
  rw [putIdentity_eq_pinned untouched] at accepted
  exact accepted

end Opening

structure Script where
  base : PublicKey
  secret : Bytes
  halves : Side → Half
  states : Side → SessionState
  ahead : Side
  hasJoined : Bool

namespace Script

variable {suite : Suite} {config : Config} {opening : Opening suite} {script : Script} {side : Side}
  {store : Store}

/-- How a side keeps its state. -/
inductive Keeps (opening : Opening suite) (script : Script) : Side → Store → Prop where
  | sole {side : Side} {store : Store} (met : side = .initiator ∨ script.hasJoined = true)
      (sole : Session.Sole (opening.peer side) (opening.identity side.other) (script.states side)
        store) : Keeps opening script side store
  | waiting {store : Store} (notJoined : script.hasJoined = false)
      (untouched : store = opening.store .responder ∨ store = opening.pinned)
      (joins : script.states .responder = opening.joined script.base script.secret)
      (found : (opening.responder script.base).secret suite = .ok script.secret) :
      Keeps opening script .responder store

/-- Letters of a session that both sides have are plain; the initiator may still wrap them. -/
def Wraps (opening : Opening suite) (script : Script) (sender : Side) : CiphertextMessage → Prop
  | .signal _ => script.hasJoined = true
  | .preKey message => sender = .initiator ∧ message = opening.wrap script.base message.message

/-- What the states tell of the beginning: under which base key it was, and whether the initiator
still announces it. -/
structure Introduced (opening : Opening suite) (script : Script) : Prop where
  baseKey_eq : ∀ side, (script.states side).initiatorBaseKey = some script.base
  announces : (script.states .initiator).pending = some (opening.announcement script.base) ∨
    (script.states .initiator).pending = none ∧ script.hasJoined = true
  registered : (script.states .initiator).localRegistrationId =
    (opening.store .initiator).registrationId
  silent : (script.states .responder).pending = none

/-- The letters on the network come from the halves of their senders. -/
structure Posted (opening : Opening suite) (script : Script) (sent : List Letter) : Prop where
  wraps : ∀ letter ∈ sent, Wraps opening script letter.sender letter.message
  notLast : ∀ letter ∈ sent, letter.message.inner.counter ≠ 0xffffffff
  keyed : ∀ letter ∈ sent, letter.key ∈ (script.halves letter.sender).keys
  counted : ∀ letter ∈ sent, letter.key = (script.halves letter.sender).last.publicKey →
    letter.counter < (script.halves letter.sender).count
  few : ∀ side, (script.halves side).count ≤ sent.length

/-- Where a conversation stands in its script. -/
structure Tracks (config : Config) (opening : Opening suite) (script : Script)
    (conversation : Conversation) : Prop extends Introduced opening script,
    Posted opening script conversation.sent where
  synced : Synced suite config opening.identity script.halves conversation.books script.states
    script.ahead
  drawn : ∀ side, conversation.ratchetKeys side = (script.halves side).keys
  keeps : ∀ side, Keeps opening script side (conversation.parties side).content
  unread : script.hasJoined = false → conversation.read = []
  recorded : Recorded conversation.sent conversation.read conversation.books

/-- Where a conversation stands whose letters can be opened. -/
structure Follows (config : Config) (opening : Opening suite) (script : Script)
    (conversation : Conversation) : Prop extends Tracks config opening script conversation where
  genuine : ∀ letter ∈ conversation.sent, Genuine suite config (opening.identity letter.sender)
    (opening.identity letter.addressee) (script.halves letter.sender).start letter.plaintext
    letter.message.inner

/-- Keeping a state has to do with that state alone. -/
theorem Keeps.congr {next : Script} (keeps : Keeps opening script side store)
    (states_eq : next.states side = script.states side) (hasJoined : next.hasJoined = script.hasJoined)
    (base_eq : next.base = script.base) (secret_eq : next.secret = script.secret) :
    Keeps opening next side store := by
  cases keeps with
  | sole met sole => exact .sole (hasJoined ▸ met) (states_eq ▸ sole)
  | waiting notJoined untouched joins found =>
      apply Keeps.waiting (hasJoined.trans notJoined) untouched
      · rw [states_eq, base_eq, secret_eq]
        exact joins
      · rw [base_eq, secret_eq]
        exact found

/-- Whoever has met the other side has the session in its store. -/
theorem Keeps.sole_of_met (keeps : Keeps opening script side store)
    (met : side = .initiator ∨ script.hasJoined = true) :
    Session.Sole (opening.peer side) (opening.identity side.other) (script.states side) store := by
  cases keeps with
  | sole _ sole => exact sole
  | waiting notJoined =>
      rcases met with isInitiator | hasJoined
      · cases isInitiator
      · rw [notJoined] at hasJoined
        cases hasJoined

/-- Whoever has a session in its store has met the other side. -/
theorem Keeps.sole_of_begun (keeps : Keeps opening script side store)
    (begun : (store.session (opening.peer side)).isFresh = false) :
    (side = .initiator ∨ script.hasJoined = true) ∧
      Session.Sole (opening.peer side) (opening.identity side.other) (script.states side) store := by
  cases keeps with
  | sole met sole => exact ⟨met, sole⟩
  | waiting notJoined untouched =>
      rw [(Opening.unmet untouched).session_eq] at begun
      cases begun

/-- Where every side keeps its state as before, the script stays as it is. -/
theorem Tracks.of_keeps {conversation : Conversation}
    (tracks : script.Tracks config opening conversation) {parties : Side → Locked Store}
    (keeps : ∀ side, Keeps opening script side (parties side).content) :
    script.Tracks config opening { conversation with parties := parties } :=
  { tracks with keeps := keeps }

/-! ## What a step leaves as it is -/

theorem Wraps.moved {next : Script} {sender : Side} {message : CiphertextMessage}
    (wraps : Wraps opening script sender message) (base_eq : next.base = script.base)
    (joins : script.hasJoined = true → next.hasJoined = true) :
    Wraps opening next sender message := by
  cases message with
  | signal inner => exact joins wraps
  | preKey outer =>
      refine ⟨wraps.1, ?_⟩
      rw [base_eq]
      exact wraps.2

/-- The beginning is told as before by states that differ in nothing that tells of it, save that the
initiator may stop to announce it. -/
theorem Introduced.moved (introduced : Introduced opening script) (next : Script)
    (base_eq : next.base = script.base) (joins : script.hasJoined = true → next.hasJoined = true)
    (baseKey_eq : ∀ side,
      (next.states side).initiatorBaseKey = (script.states side).initiatorBaseKey)
    (registration_eq : ∀ side,
      (next.states side).localRegistrationId = (script.states side).localRegistrationId)
    (pending : ∀ side, (next.states side).pending = (script.states side).pending ∨
      (next.states side).pending = none ∧ next.hasJoined = true) :
    Introduced opening next := by
  constructor
  case baseKey_eq =>
    intro side
    rw [baseKey_eq, base_eq]
    exact introduced.baseKey_eq side
  case announces =>
    rcases pending .initiator with same | quiet
    · rw [same, base_eq]
      exact introduced.announces.imp_right fun quiet => ⟨quiet.1, joins quiet.2⟩
    · exact .inr quiet
  case registered => exact (registration_eq .initiator).trans introduced.registered
  case silent =>
    rcases pending .responder with same | quiet
    · exact same.trans introduced.silent
    · exact quiet.1

/-- Letters do not notice the ratchet keys that are drawn after them. -/
theorem Posted.extended {sent : List Letter} (posted : Posted opening script sent)
    (next : Script) (base_eq : next.base = script.base)
    (joins : script.hasJoined = true → next.hasJoined = true)
    (grown : ∀ side, Synced.Extends (script.halves side) (next.halves side)) :
    Posted opening next sent := by
  constructor
  case wraps =>
    intro letter isSent
    exact (posted.wraps letter isSent).moved base_eq joins
  case notLast => exact posted.notLast
  case keyed =>
    intro letter isSent
    exact (grown letter.sender).keys letter.key (posted.keyed letter isSent)
  case counted =>
    intro letter isSent isLast
    have before := (grown letter.sender).last letter.key (posted.keyed letter isSent) isLast
    have bound := posted.counted letter isSent before.1
    rw [← before.2] at bound
    exact bound
  case few =>
    intro side
    exact Nat.le_trans (grown side).count (posted.few side)

/-! ## Sending a letter -/

/-- The script after one more message of a side. -/
def sent (suite : Suite) (side : Side) (script : Script) : Script :=
  { script with
    halves := side.update (script.halves side).sentOne script.halves
    states := side.update
      ((script.states side).sentOn suite ((script.halves side).sending suite)) script.states }

theorem keys_sent (side each : Side) (script : Script) :
    ((script.sent suite side).halves each).keys = (script.halves each).keys :=
  Side.update_congr Half.keys rfl

theorem last_sent (side each : Side) (script : Script) :
    ((script.sent suite side).halves each).last = (script.halves each).last :=
  Side.update_congr Half.last rfl

theorem start_sent (side each : Side) (script : Script) :
    ((script.sent suite side).halves each).start = (script.halves each).start :=
  Side.update_congr Half.start rfl

theorem count_sent_self (side : Side) (script : Script) :
    ((script.sent suite side).halves side).count = (script.halves side).count + 1 := by
  simp only [sent, Side.update_self, Half.sentOne]

theorem count_sent_other (side : Side) (script : Script) :
    ((script.sent suite side).halves side.other).count = (script.halves side.other).count := by
  simp only [sent, Side.update_other]

theorem count_le_sent (side each : Side) (script : Script) :
    (script.halves each).count ≤ ((script.sent suite side).halves each).count := by
  rcases Side.eq_or_eq_other each side with rfl | rfl
  · rw [count_sent_self]
    exact Nat.le_succ _
  · exact Nat.le_of_eq (count_sent_other side script).symm

theorem Introduced.sent (introduced : Introduced opening script) (side : Side) :
    Introduced opening (script.sent suite side) := by
  apply introduced.moved (script.sent suite side) rfl id
  · intro each
    exact Side.update_congr SessionState.initiatorBaseKey rfl
  · intro each
    exact Side.update_congr SessionState.localRegistrationId rfl
  · intro each
    exact .inl (Side.update_congr SessionState.pending rfl)

/-- The letter is the next one of its sender. -/
structure Next (opening : Opening suite) (script : Script) (letter : Letter) : Prop where
  wraps : Wraps opening script letter.sender letter.message
  notLast : letter.message.inner.counter ≠ 0xffffffff
  key_eq : letter.key = (script.halves letter.sender).last.publicKey
  counter_eq : letter.counter = (script.halves letter.sender).count

theorem Posted.send {letters : List Letter} {letter : Letter}
    (posted : Posted opening script letters) (isNext : Next opening script letter) :
    Posted opening (script.sent suite letter.sender) (letters ++ [letter]) := by
  constructor
  case wraps =>
    intro other isSent
    rcases List.mem_append.mp isSent with old | new
    · exact posted.wraps other old
    · rw [List.mem_singleton.mp new]
      exact isNext.wraps
  case notLast =>
    intro other isSent
    rcases List.mem_append.mp isSent with old | new
    · exact posted.notLast other old
    · rw [List.mem_singleton.mp new]
      exact isNext.notLast
  case keyed =>
    intro other isSent
    rw [keys_sent]
    rcases List.mem_append.mp isSent with old | new
    · exact posted.keyed other old
    · rw [List.mem_singleton.mp new, isNext.key_eq]
      exact Half.last_mem_keys _
  case counted =>
    intro other isSent isLast
    rw [last_sent] at isLast
    rcases List.mem_append.mp isSent with old | new
    · exact Nat.lt_of_lt_of_le (posted.counted other old isLast) (count_le_sent _ _ script)
    · rw [List.mem_singleton.mp new, isNext.counter_eq, count_sent_self]
      exact Nat.lt_succ_self _
  case few =>
    intro each
    have before := posted.few each
    rw [List.length_append, List.length_singleton]
    rcases Side.eq_or_eq_other each letter.sender with rfl | rfl
    · rw [count_sent_self]
      exact Nat.succ_le_succ before
    · rw [count_sent_other]
      exact Nat.le_succ_of_le before

/-! ## Reading a letter -/

/-- A side reads a letter with the state that the script has for it. What it stores then is that
state; if the letter is refused, the script still tells how the side keeps its state. -/
theorem Keeps.decrypt_eq (keeps : Keeps opening script side store)
    (version_eq : (script.states side).version = Envelope.currentVersion)
    (begun : (script.states side).isInitialized = true)
    (baseKey_eq : (script.states side).initiatorBaseKey = some script.base)
    {message : CiphertextMessage} (wraps : Wraps opening script side.other message) :
    ∃ stored refused,
      (∀ random, Session.decrypt suite config (opening.peer side) message Receiver.accept store
        random = (SessionState.decrypt suite config message.inner (script.states side)
          random).storing stored refused) ∧
      (∀ final, Session.Sole (opening.peer side) (opening.identity side.other) final
        (stored final)) ∧
      Keeps opening script side refused ∧ (script.hasJoined = true → refused = store) := by
  cases keeps with
  | sole met sole =>
      refine ⟨_, store, fun random => sole.decrypt_eq begun ?_ random, sole.putSession,
        .sole met sole, fun _ => rfl⟩
      cases message with
      | signal message => exact trivial
      | preKey message =>
          obtain ⟨isInitiator, wrapped⟩ := wraps
          rw [isInitiator, wrapped]
          exact ⟨rfl, version_eq.symm, baseKey_eq⟩
  | waiting notJoined untouched joins found =>
      cases message with
      | signal message =>
          change script.hasJoined = true at wraps
          rw [notJoined] at wraps
          cases wraps
      | preKey message =>
          obtain ⟨_, wrapped⟩ := wraps
          have accepted (random : Randomness) :=
            Opening.accept_wrap untouched found config message.message random
          rw [← wrapped, ← joins] at accepted
          have reads (random : Randomness) :
              Session.decryptPreKeyMessage suite config (opening.peer .responder) message
                  Receiver.accept store random =
                (SessionState.decrypt suite config message.message (script.states .responder)
                  random).storing
                  (fun final => Session.withoutUsed (opening.oneTime.map Prod.fst)
                    (opening.pinned.putSession (opening.peer .responder) (.ofState final)))
                  opening.pinned := by
            rw [Session.decryptPreKeyMessage_eq (accepted random), SessionRecord.decrypt_ofState,
              Outcome.keeping_storing]
          refine ⟨_, _, reads, ?_, .waiting notJoined (.inr rfl) joins found, ?_⟩
          · intro final
            constructor
            · simp
            · rw [Session.identities_withoutUsed]
              exact Table.find?_insert_self _ _ _
          · intro hasJoined
            rw [notJoined] at hasJoined
            cases hasJoined

/-- A responder that joins without reading stores the state that the script has for it. -/
theorem Keeps.accept_eq (keeps : Keeps opening script .responder store)
    (version_eq : (script.states .responder).version = Envelope.currentVersion)
    (baseKey_eq : (script.states .responder).initiatorBaseKey = some script.base)
    {message : PreKeyMessage} (wraps : Wraps opening script .initiator (.preKey message))
    (config : Config) (random : Randomness) :
    ∃ used after,
      Session.processPreKeyMessage suite config (opening.peer .responder) message store random =
        ⟨.ok used, after, random⟩ ∧
      Session.Sole (opening.peer .responder) (opening.identity .initiator)
        (script.states .responder) after := by
  obtain ⟨_, wrapped⟩ := wraps
  cases keeps with
  | sole met sole =>
      have announces : Session.Announces (opening.identity .initiator) (script.states .responder)
          (.preKey message) := by
        rw [wrapped]
        exact ⟨rfl, version_eq.symm, baseKey_eq⟩
      exact ⟨_, _, Session.processPreKeyMessage_eq (sole.accept_eq announces random),
        sole.putSession _⟩
  | waiting notJoined untouched joins found =>
      have accepted := Opening.accept_wrap untouched found config message.message random
      rw [← wrapped, ← joins] at accepted
      refine ⟨_, _, Session.processPreKeyMessage_eq accepted, ?_⟩
      constructor
      · exact Store.session_putSession _ _ _
      · exact Table.find?_insert_self _ _ _

end Script
end DoubleRatchet
