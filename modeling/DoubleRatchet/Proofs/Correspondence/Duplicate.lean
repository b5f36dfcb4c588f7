import DoubleRatchet.Proofs.Correspondence.Regular
import DoubleRatchet.Proofs.Session.Search

/-!
# What a duplicate tells

A party that calls a message a duplicate has read a message of this ratchet key and counter, or has
given its keys up. That message is the very one, unless its ratchet key is a signed prekey: everyone
who joins a session sends under the signed prekey first, and so in several sessions side by side.
-/

namespace DoubleRatchet
namespace Correspondence

variable {suite : Suite} {config : Config} {meeting : Meeting} {correspondence : Correspondence}
  {dispatch : Dispatch} {random : Randomness} {chainIndex counter : UInt32}

/-- The state that calls a message a duplicate has spent its counter. -/
theorem Regular.past_of_duplicate (regular : Regular config meeting correspondence)
    (refused : (correspondence.decrypted suite config meeting dispatch random).result =
      .error (.refused (.duplicateMessage chainIndex counter))) :
    correspondence.Past dispatch.addressee dispatch.key dispatch.counter := by
  have failed : (Session.decrypt suite config (meeting.peer dispatch.addressee) dispatch.message
      Receiver.accept (correspondence.parties dispatch.addressee).content random).result =
      .error (.refused (.duplicateMessage chainIndex counter)) := by
    rcases Locked.run_eq_error (Outcome.eq_of_result refused) with ⟨locked, _⟩ | failed
    · cases locked
    · rw [failed]
  obtain ⟨record, place, prepares, state, member, drawn, fails⟩ :=
    Session.final_of_decrypt failed rfl
  have accounted := prepares.accounted (regular.fits dispatch.addressee).accounted state member
  rcases SessionState.final_of_decrypt fails rfl with ⟨chain, known, spent, _⟩ | ⟨_, isOverflow⟩
  · have isPast := accounted.spent chain (List.mem_of_find?_eq_some known) _ spent
    rw [ReceiverChain.ratchetKey_of_lookup known] at isPast
    exact isPast
  · cases isOverflow

/-- A message that was called a duplicate was read; or its keys were given up for newer ones; or it was
sent under a signed prekey, and another message of this key and counter was read. -/
theorem duplicate_was_read
    (run : Run suite config meeting (Honest suite config meeting) correspondence)
    (isSent : dispatch ∈ correspondence.sent)
    (refused : (correspondence.decrypted suite config meeting dispatch random).result =
      .error (.refused (.duplicateMessage chainIndex counter))) :
    dispatch ∈ correspondence.read ∨
      (dispatch.key, dispatch.counter) ∈ correspondence.evicted dispatch.addressee ∨
      dispatch.key ∈ meeting.signedPreKeys dispatch.sender ∧
        ∃ other ∈ correspondence.read, other ≠ dispatch ∧ other.SamePlace dispatch := by
  have regular := run.regular
  rcases regular.past_of_duplicate refused with ⟨other, isRead, sameReader, key_eq, counter_eq⟩ | gone
  · have same : other.SamePlace dispatch :=
      ⟨Party.other_injective sameReader, key_eq, counter_eq⟩
    by_cases isThis : other = dispatch
    · exact .inl (isThis ▸ isRead)
    · refine .inr (.inr ⟨?_, other, isRead, isThis, same⟩)
      by_cases isPresigned : dispatch.key ∈ meeting.signedPreKeys dispatch.sender
      · exact isPresigned
      · exact absurd (regular.unique dispatch isSent other (run.sent_of_read isRead) same.symm
          isPresigned).symm isThis
  · exact .inr (.inl gone)

/-! ## Two sessions under one signed prekey -/

/-- The caller and the newcomer before they have anything to do with each other. -/
def introduced : Meeting where
  store
    | .first => { identity := KeyPair.additive 4, registrationId := 2 }
    | .second => .newcomer
  peer
    | .first => .newcomer
    | .second => .caller
  noSession party := by cases party <;> rfl

/-- The caller begins two sessions and writes in each. -/
def calling : List (Action × Randomness) :=
  [(.initiate .first .newcomer, .counting 8), (.send .first [1], .repeated 0),
    (.initiate .first .newcomer, .counting 16), (.send .first [2], .repeated 0)]

def called : Correspondence :=
  (start introduced).perform Suite.additive {} introduced calling

/-- The first messages that are on the network. -/
def announcements (correspondence : Correspondence) : List PreKeyMessage :=
  correspondence.sent.filterMap fun dispatch =>
    match dispatch.message with
    | .preKey message => some message
    | .signal _ => none

/-- The newcomer joins both sessions and writes in each, before it reads anything. -/
def answering : List (Action × Randomness) :=
  called.announcements.flatMap fun message =>
    [(.accept .second message, .repeated 0), (.send .second [3], .repeated 0)]

def answered : Correspondence :=
  called.perform Suite.additive {} introduced answering

def firstAnswer : Dispatch :=
  answered.sent.get ⟨2, by decide +kernel⟩

def secondAnswer : Dispatch :=
  answered.sent.get ⟨3, by decide +kernel⟩

/-- The caller reads the second answer first. -/
def crossed : Correspondence :=
  answered.after Suite.additive {} introduced (.deliver secondAnswer) (.counting 24)

theorem run_crossed :
    Run Suite.additive {} introduced (Honest Suite.additive {} introduced) crossed := by
  have isCalled : Run Suite.additive {} introduced (Honest Suite.additive {} introduced) called :=
    Run.start.perform (by decide +kernel)
  have isAnswered : Run Suite.additive {} introduced (Honest Suite.additive {} introduced) answered :=
    isCalled.perform (by decide +kernel)
  exact isAnswered.step (.deliver secondAnswer) (.counting 24) (by decide +kernel)


theorem addressee_firstAnswer : firstAnswer.addressee = .first := by decide +kernel

theorem verdict_firstAnswer :
    (crossed.decrypted Suite.additive {} introduced firstAnswer (.repeated 0)).result =
      .error (.refused (.duplicateMessage 1 0)) := by
  rw [decrypted, addressee_firstAnswer]
  decide +kernel

/-- The first answer has not been read, no keys were given up, and an archived state still opens it; yet
it is called a duplicate, by the state that has read the second answer. -/
theorem unread_answer_is_called_duplicate :
    Run Suite.additive {} introduced (Honest Suite.additive {} introduced) crossed ∧
      firstAnswer ∈ crossed.sent ∧ firstAnswer ∉ crossed.read ∧
      crossed.evicted firstAnswer.addressee = [] ∧
      (∃ state ∈ (crossed.record introduced firstAnswer.addressee).archived,
        (SessionState.decrypt Suite.additive {} firstAnswer.message.inner state
          (.repeated 0)).result = .ok [3]) ∧
      (crossed.decrypted Suite.additive {} introduced firstAnswer (.repeated 0)).result =
        .error (.refused (.duplicateMessage 1 0)) := by
  rw [verdict_firstAnswer, addressee_firstAnswer]
  refine ⟨run_crossed, ?_⟩
  decide +kernel

theorem answer_shares_its_place :
    firstAnswer.key ∈ introduced.signedPreKeys .second ∧
      ∃ other ∈ crossed.read, other ≠ firstAnswer ∧ other.SamePlace firstAnswer := by
  have isSent : firstAnswer ∈ crossed.sent := by decide +kernel
  rcases duplicate_was_read run_crossed isSent verdict_firstAnswer with isRead | gone | shared
  · exact absurd isRead (by decide +kernel)
  · rw [addressee_firstAnswer] at gone
    exact absurd gone (by decide +kernel)
  · exact shared

end Correspondence
end DoubleRatchet
