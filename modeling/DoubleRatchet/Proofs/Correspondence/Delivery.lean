import DoubleRatchet.Proofs.Conversation.Delivery
import DoubleRatchet.Proofs.Correspondence.Usable

/-!
# Every message finds its session

Whatever sessions two parties have begun with each other, and whichever are current, a message that was
not read yet is read by the state of the session that it was sent in. The states before it in the
record leave the message alone, and what they try is forgotten.
-/

namespace DoubleRatchet
namespace Correspondence

variable {suite : Suite} {config : Config} {meeting : Meeting} {random : Randomness}
  {threads : PublicKey → Option (Thread suite)} {thread : Thread suite}
  {correspondence : Correspondence} {dispatch : Dispatch} {letter : Letter} {record : SessionRecord}
  {used : Option UInt32} {pinned : Store} {state : SessionState}

/-- No signed prekey was drawn. -/
theorem Run.unsigned (run : Run suite config meeting (Honest suite config meeting) correspondence)
    (party : Party) : ∀ key ∈ meeting.signedPreKeys party, key ∉ correspondence.keys := by
  cases run with
  | start => exact fun _ _ => List.not_mem_nil
  | step _ action random honest => exact honest.unsigned party

section Routed

variable
  (routed : Routed config meeting threads correspondence dispatch thread letter record used pinned)
  (woven : Woven config meeting threads correspondence)
include routed woven

/-- What the addressee has of the session is its state in the thread, once it has met the thread. -/
theorem Routed.session_of_met (met : thread.Met dispatch.addressee) :
    correspondence.session meeting dispatch = thread.state dispatch.addressee := by
  have stocks := woven.stocks dispatch.addressee
  have member := stocks.kept _ _ (Thread.family_of_met routed.found met)
  have named := (routed.belongs woven).baseKey_eq dispatch.addressee
  rw [← routed.base_eq] at named
  unfold session
  cases found : (correspondence.record meeting dispatch.addressee).states.find? fun state =>
      state.initiatorBaseKey = dispatch.base with
  | none =>
      have unnamed := List.find?_eq_none.mp found _ member
      exact absurd (decide_eq_true named) unnamed
  | some state =>
      have same : state.initiatorBaseKey = dispatch.base := by simpa using List.find?_some found
      rw [routed.base_eq] at same
      have isFamily := stocks.lists.lookup (List.mem_of_find?_eq_some found) same
      rw [Thread.family_of_met routed.found met] at isFamily
      exact (Option.some.inj isFamily).symm

theorem Routed.session_of_stranger (notMet : ¬thread.Met dispatch.addressee) :
    correspondence.session meeting dispatch = {} := by
  have stocks := woven.stocks dispatch.addressee
  unfold session
  rw [List.find?_eq_none.mpr, Option.getD_none]
  intro state member named
  have same := of_decide_eq_true named
  rw [routed.base_eq] at same
  have isFamily := stocks.lists.lookup member same
  rw [Thread.family_of_not_met routed.found notMet] at isFamily
  cases isFamily

/-- Every other state leaves a dispatch to the next one. -/
theorem Routed.passes (authentic : Authentic suite config meeting dispatch correspondence)
    (few : correspondence.keys.length + 1 < 0x80000000) (member : state ∈ record.states)
    (different : state ≠ thread.state dispatch.addressee) (random : Randomness) :
    ∃ failure, (SessionState.decrypt suite config dispatch.message.inner state random).result =
      .error failure ∧ SessionRecord.isFinal failure = false := by
  have belongs := routed.belongs woven
  have unverified := routed.unverified authentic member different
  obtain ⟨base, stranger, found, rfl⟩ := routed.exists_thread woven member
  have notBase : base ≠ thread.base := by
    rintro rfl
    cases found.symm.trans routed.found
    exact different rfl
  have strangerBelongs := woven.belongs base stranger found
  have isDrawn : letter.key ∈ correspondence.keys := belongs.keyed letter routed.isSent
  have owns : thread.Owns letter.key :=
    ⟨letter.sender, belongs.follows.keyed letter routed.isSent⟩
  have notLast : dispatch.message.inner.counter ≠ 0xffffffff := by
    rw [routed.message_eq]
    exact (belongs.follows.genuine letter routed.isSent).notLast
  have strange := woven.apart _ thread routed.found base stranger found notBase _ isDrawn owns
  rw [← routed.key_eq] at strange
  exact SessionState.passes_of_unverified unverified (strangerBelongs.missing strange _) notLast
    (strangerBelongs.room few _) random

/-- What the addressee has received under the ratchet key of a dispatch is in the book of the thread. -/
theorem Routed.next_eq (unsigned : thread.signedPreKey ∉ correspondence.keys)
    (kept : (thread.conversation.books letter.addressee).Keeps config letter.key) :
    ((correspondence.session meeting dispatch).log dispatch.key).next =
      (letter.log thread.conversation.books).next := by
  have belongs := routed.belongs woven
  by_cases met : thread.Met dispatch.addressee
  · rw [routed.session_of_met woven met, routed.key_eq, ← routed.state_eq, belongs.log_eq kept]
    rfl
  · have unseen : letter.key ∉ (thread.conversation.books letter.addressee).keys := by
      intro noted
      have hasMet := belongs.met_of_noted unsigned routed.isSent noted
      rw [routed.addressed] at hasMet
      exact met hasMet
    rw [routed.session_of_stranger woven met, Letter.log, Book.log_of_unseen unseen]
    rfl

/-- The state of the session opens the dispatch, whatever is drawn. -/
theorem Routed.opens (lawful : suite.Lawful) (unsigned : thread.signedPreKey ∉ correspondence.keys)
    (unread : dispatch ∉ correspondence.read)
    (inReach : InReach config meeting dispatch correspondence)
    (few : correspondence.keys.length + 1 < 0x80000000) (random : Randomness) :
    ∃ final rest, SessionState.decrypt suite config dispatch.message.inner
      (thread.state dispatch.addressee) random = ⟨.ok dispatch.plaintext, final, rest⟩ := by
  have belongs := routed.belongs woven
  have follows := belongs.follows
  have sender_eq : letter.addressee.other = letter.sender := Side.other_other letter.sender
  have kept : (thread.conversation.books letter.addressee).Keeps config letter.key := by
    apply routed.keeps woven unsigned
    by_cases met : thread.Met dispatch.addressee
    · have kept := inReach.kept
      rw [routed.session_of_met woven met] at kept
      exact kept.imp_right fun ⟨room, isNew⟩ => ⟨room, fun _ => isNew⟩
    · rcases inReach.kept with known | ⟨room, isNew⟩
      · rw [routed.session_of_stranger woven met] at known
        cases known
      · exact .inr ⟨room, fun _ => isNew⟩
  have counter_eq : dispatch.counter = letter.counter := by
    rw [routed.posted]
    rfl
  have grants : (letter.log thread.conversation.books).Grants config letter.counter := by
    apply follows.recorded.grants routed.isSent
    · intro isRead
      rw [routed.posted] at unread
      exact unread (belongs.wasRead letter isRead)
    · rw [← routed.next_eq woven unsigned kept, ← counter_eq]
      exact inReach.near
    · intro isGone
      have isNoted := belongs.gaveUp _ _ _ isGone
      rw [routed.addressed, ← routed.key_eq, ← counter_eq] at isNoted
      exact inReach.notEvicted isNoted
  have genuine := follows.genuine letter routed.isSent
  have drawn := follows.keyed letter routed.isSent
  rw [← sender_eq] at genuine drawn
  have room : (thread.script.halves letter.addressee).keys.length < 0x80000000 :=
    Nat.lt_of_le_of_lt (belongs.length_keys_le _) few
  have plaintext_eq : dispatch.plaintext = letter.plaintext := by
    rw [routed.posted]
    rfl
  rw [routed.message_eq, ← routed.state_eq, plaintext_eq]
  exact follows.synced.decrypt_of_grants lawful drawn kept (fun _ => room) genuine grants random

/-- The addressee reads the dispatch. -/
theorem Routed.reads (lawful : suite.Lawful) (unsigned : thread.signedPreKey ∉ correspondence.keys)
    (unread : dispatch ∉ correspondence.read)
    (authentic : Authentic suite config meeting dispatch correspondence)
    (inReach : InReach config meeting dispatch correspondence)
    (usable : (correspondence.parties dispatch.addressee).poisoned = false)
    (few : correspondence.keys.length + 1 < 0x80000000) (random : Randomness) :
    ∃ lock rest, correspondence.decrypted suite config meeting dispatch random =
      ⟨.ok dispatch.plaintext, lock, rest⟩ := by
  obtain ⟨before, after, states_eq, notBefore⟩ :=
    List.eq_append_cons_of_mem routed.seeks.member
  have passing : ∀ other ∈ before, ∀ random, ∃ failure,
      (SessionState.decrypt suite config dispatch.message.inner other random).result =
        .error failure ∧ SessionRecord.isFinal failure = false := by
    intro other isBefore
    apply routed.passes woven authentic few
    · rw [states_eq]
      exact List.mem_append_left _ isBefore
    · rintro rfl
      exact notBefore isBefore
  obtain ⟨_, _, rest, _, searched⟩ := SessionRecord.decrypt_of_opener states_eq passing
    (routed.opens woven lawful unsigned unread inReach few) random
  have ran : correspondence.decrypted suite config meeting dispatch random = _ :=
    Locked.run_of_free usable
  rw [routed.sought.decrypt_eq, searched] at ran
  exact ⟨_, rest, ran⟩

/-- A state that the addressee has of the session is the one of its thread. -/
theorem Routed.eq_of_base
    (member : state ∈ (correspondence.record meeting dispatch.addressee).states)
    (same : state.initiatorBaseKey = dispatch.base) : state = thread.state dispatch.addressee := by
  rw [routed.base_eq] at same
  have isFamily := (woven.stocks dispatch.addressee).lists.lookup member same
  obtain ⟨other, found, _, rfl⟩ := Thread.family_eq_some.mp isFamily
  cases found.symm.trans routed.found
  rfl

end Routed

/-- A message that was not read yet and that the limits of its session leave room for is read with the
text that it was made of, by the state of the session that it was sent in; and that session becomes the
current one. The bounds are those of counters of 32 bits. -/
theorem dispatch_reaches_its_session (lawful : suite.Lawful) (short : config.macLength ≤ 32)
    (run : Run suite config meeting (Orderly suite config meeting) correspondence)
    (isSent : dispatch ∈ correspondence.sent) (unread : dispatch ∉ correspondence.read)
    (authentic : Authentic suite config meeting dispatch correspondence)
    (inReach : InReach config meeting dispatch correspondence)
    (fewKeys : correspondence.keys.length + 1 < 0x80000000)
    (fewSent : correspondence.sent.length + 1 < 0x100000000) (random : Randomness) :
    let outcome := correspondence.decrypted suite config meeting dispatch random
    let opener := correspondence.opener suite config meeting dispatch random
    outcome.result = .ok dispatch.plaintext ∧
    opener.initiatorBaseKey = dispatch.base ∧
    (∀ state ∈ (correspondence.record meeting dispatch.addressee).states,
      state.initiatorBaseKey = dispatch.base → state = opener) ∧
    ∃ drawn final rest,
      SessionState.decrypt suite config dispatch.message.inner opener drawn =
        ⟨.ok dispatch.plaintext, final, rest⟩ ∧
      (outcome.state.content.session (meeting.peer dispatch.addressee)).current = final := by
  intro outcome opener
  have usable := run.usable lawful short fewKeys fewSent dispatch.addressee
  obtain ⟨threads, woven⟩ := run.woven lawful short
  obtain ⟨thread, letter, record, used, pinned, routed⟩ := woven.routed run.honest.regular isSent
  have belongs := routed.belongs woven
  have unsigned : thread.signedPreKey ∉ correspondence.keys :=
    run.honest.unsigned _ _ belongs.signedPreKey_kept
  obtain ⟨lock, rest, read⟩ :=
    routed.reads woven lawful unsigned unread authentic inReach usable fewKeys random
  obtain ⟨answer, drawn, left, isThread, _, opened, stored⟩ := routed.opened authentic read
  have opener_eq : opener = thread.state dispatch.addressee := isThread
  have outcome_eq : outcome = ⟨.ok dispatch.plaintext, lock, rest⟩ := read
  rw [opener_eq, outcome_eq]
  refine ⟨rfl, ?_, fun state member same => routed.eq_of_base woven member same, drawn, answer.state,
    left, opened, ?_⟩
  · rw [routed.base_eq]
    exact belongs.baseKey_eq _
  · rw [stored, Session.session_withoutUsed, Store.session_putSession,
      SessionRecord.current_answered]

/-! ## Two parties that call each other -/

/-- The newcomer is called by a party that can be called back. -/
def outgoing : Opening Suite.additive where
  store
    | .initiator =>
        { identity := KeyPair.additive 4
          registrationId := 2
          signedPreKeys := Table.insert 9
            { id := 9, timestamp := 0, keyPair := KeyPair.additive 5, signature := [] } .empty }
    | .responder => .newcomer
  peer
    | .initiator => .newcomer
    | .responder => .caller
  bundle := { PreKeyBundle.newcomer with
    preKeyId := some 6, preKey := some (KeyPair.additive 3).publicKey }
  signedPreKey := { id := 7, timestamp := 0, keyPair := KeyPair.additive 2, signature := [] }
  oneTime := some (6, { id := 6, keyPair := KeyPair.additive 3 })
  noSession side := by cases side <;> rfl
  noIdentity side := by cases side <;> rfl
  identity_matches side := by cases side <;> rfl
  identityKey_eq := Conversation.newcomers.identityKey_eq
  signedPreKey_eq := Conversation.newcomers.signedPreKey_eq
  signedPreKey_kept := Conversation.newcomers.signedPreKey_kept
  signedPreKey_matches := Conversation.newcomers.signedPreKey_matches
  signed := Conversation.newcomers.signed
  preKeyId_eq := Conversation.newcomers.preKeyId_eq
  preKey_eq := Conversation.newcomers.preKey_eq
  oneTime_kept := Conversation.newcomers.oneTime_kept

def returning : Opening Suite.additive where
  store side := outgoing.store side.other
  peer side := outgoing.peer side.other
  bundle :=
    { registrationId := 2
      device := 1
      preKeyId := none
      preKey := none
      signedPreKeyId := 9
      signedPreKey := some (KeyPair.additive 5).publicKey
      signedPreKeySignature := []
      identityKey := (KeyPair.additive 4).publicKey }
  signedPreKey := { id := 9, timestamp := 0, keyPair := KeyPair.additive 5, signature := [] }
  oneTime := none
  noSession side := outgoing.noSession side.other
  noIdentity side := outgoing.noIdentity side.other
  identity_matches side := outgoing.identity_matches side.other
  identityKey_eq := rfl
  signedPreKey_eq := rfl
  signedPreKey_kept := by decide
  signedPreKey_matches := rfl
  signed := rfl
  preKeyId_eq := rfl
  preKey_eq := rfl
  oneTime_kept _ _ offered := nomatch offered

def acquaintance : Meeting where
  store
    | .first => outgoing.store .initiator
    | .second => outgoing.store .responder
  peer
    | .first => outgoing.peer .initiator
    | .second => outgoing.peer .responder
  noSession party := by cases party <;> rfl

def offers : Party → List PreKeyBundle
  | .first => [outgoing.bundle]
  | .second => [returning.bundle]

theorem published_offers (party : Party) (bundle : PreKeyBundle) (isOffered : bundle ∈ offers party) :
    ∃ opening : Opening Suite.additive, opening.bundle = bundle ∧
      opening.Joins acquaintance party := by
  cases party with
  | first =>
      rw [List.mem_singleton.mp isOffered]
      refine ⟨outgoing, rfl, fun side => ?_, fun side => ?_⟩
      · cases side <;> rfl
      · cases side <;> rfl
  | second =>
      rw [List.mem_singleton.mp isOffered]
      refine ⟨returning, rfl, fun side => ?_, fun side => ?_⟩
      · cases side <;> rfl
      · cases side <;> rfl

/-- Both parties begin a session and write in it, before they have read anything. -/
def greeted : Correspondence :=
  (start acquaintance).perform Suite.additive {} acquaintance
    [(.initiate .first outgoing.bundle, .counting 8), (.send .first [1], .repeated 0),
      (.initiate .second returning.bundle, .counting 16), (.send .second [2], .repeated 0)]

def firstGreeting : Dispatch :=
  greeted.sent.get ⟨0, by decide +kernel⟩

def secondGreeting : Dispatch :=
  greeted.sent.get ⟨1, by decide +kernel⟩

/-- Each reads the greeting of the other, and so goes over to the session that it did not begin; the
second party writes again, in the session of the first. -/
def settled : Correspondence :=
  greeted.perform Suite.additive {} acquaintance
    [(.deliver secondGreeting, .counting 24), (.deliver firstGreeting, .counting 32),
      (.send .second [3], .repeated 0)]

def reply : Dispatch :=
  settled.sent.get ⟨2, by decide +kernel⟩

theorem run_settled :
    Run Suite.additive {} acquaintance (Orderly Suite.additive {} acquaintance) settled := by
  have isGreeted : Run Suite.additive {} acquaintance
      (Evident Suite.additive {} acquaintance offers) greeted := Run.start.perform (by decide +kernel)
  have isSettled : Run Suite.additive {} acquaintance
      (Evident Suite.additive {} acquaintance offers) settled := isGreeted.perform (by decide +kernel)
  exact isSettled.mono fun _ _ _ evident => evident.orderly published_offers

/-- The reply is read by the session that its addressee has in the archive. -/
theorem reply_reaches_archived_session :
    (settled.decrypted Suite.additive {} acquaintance reply (.repeated 0)).result = .ok [3] ∧
      (settled.opener Suite.additive {} acquaintance reply (.repeated 0)).initiatorBaseKey ≠
        (settled.record acquaintance .first).current.initiatorBaseKey := by
  have short : ({} : Config).macLength ≤ 32 := by decide
  obtain ⟨isSent, unread, authentic, inReach, fewKeys, fewSent, isText, notCurrent⟩ :
      reply ∈ settled.sent ∧ reply ∉ settled.read ∧
      Authentic Suite.additive {} acquaintance reply settled ∧
      InReach {} acquaintance reply settled ∧
      settled.keys.length + 1 < 0x80000000 ∧ settled.sent.length + 1 < 0x100000000 ∧
      reply.plaintext = [3] ∧
      reply.base ≠ (settled.record acquaintance .first).current.initiatorBaseKey := by
    decide +kernel
  obtain ⟨read, base_eq, _⟩ := dispatch_reaches_its_session Suite.additive_lawful short run_settled
    isSent unread authentic inReach fewKeys fewSent (.repeated 0)
  rw [isText] at read
  rw [base_eq]
  exact ⟨read, notCurrent⟩

end Correspondence
end DoubleRatchet
