import DoubleRatchet.Proofs.Conversation.Usable
import DoubleRatchet.Proofs.Correspondence.Woven

/-!
# How long a correspondence can go on

As in one conversation, a party aborts only where a counter of 32 bits is used up; so the locks of both
parties stay free until too many keys were drawn or too many messages sent.
-/

namespace DoubleRatchet
namespace Correspondence

variable {suite : Suite} {config : Config} {meeting : Meeting} {random : Randomness}
  {threads : PublicKey → Option (Thread suite)} {thread : Thread suite} {party : Party}
  {correspondence : Correspondence} {dispatch : Dispatch} {letter : Letter} {record : SessionRecord}
  {used : Option UInt32} {pinned : Store}

theorem Woven.isAborted_encrypt (woven : Woven config meeting threads correspondence)
    (few : correspondence.sent.length + 1 < 0x100000000) (party : Party) (plaintext : Bytes)
    (random : Randomness) :
    isAborted (Session.encrypt suite config (meeting.peer party) plaintext
      (correspondence.parties party).content random).result = false := by
  apply Session.isAborted_encrypt
  intro begun ours theirs
  obtain ⟨thread, found, _, state_eq⟩ := woven.exists_current begun
  have follows := (woven.belongs thread.base thread found).follows
  have bound := follows.few (thread.initiator.sideOf party)
  have fewer := woven.few thread.base thread found
  change thread.state party = ((correspondence.parties party).content.session
    (meeting.peer party)).current at state_eq
  rw [← state_eq]
  exact follows.isAborted_encrypt_state (by omega) ours theirs plaintext random

theorem Routed.isAborted_decrypt
    (routed : Routed config meeting threads correspondence dispatch thread letter record used pinned)
    (woven : Woven config meeting threads correspondence)
    (few : correspondence.keys.length + 1 < 0x80000000) (random : Randomness) :
    isAborted (Session.decrypt suite config (meeting.peer dispatch.addressee) dispatch.message
      Receiver.accept (correspondence.parties dispatch.addressee).content random).result = false := by
  rw [routed.sought.decrypt_eq, Outcome.result_keeping]
  cases outcome : (SessionRecord.decrypt suite config dispatch.message.inner record random).result with
  | ok plaintext => rfl
  | error failure =>
      cases final : SessionRecord.isFinal failure with
      | false => exact isAborted_of_not_final final
      | true =>
          obtain ⟨state, member, drawn, failed⟩ := SessionRecord.final_of_decrypt outcome final
          obtain ⟨base, other, found, rfl⟩ := routed.exists_thread woven member
          rcases SessionState.final_of_decrypt failed final with
            ⟨_, _, _, rfl⟩ | ⟨last | ⟨_, full⟩, _⟩
          · rfl
          · rw [routed.message_eq] at last
            have follows := (routed.belongs woven).follows
            exact absurd last (follows.genuine letter routed.isSent).notLast
          · exact absurd full (Nat.not_le_of_lt ((woven.belongs base other found).room few _))

/-! ## Every action -/

/-- The lock of the party that acts is free if it did not abort. -/
theorem free_after_run {α : Type} {step : Step Store α}
    (free : ∀ party, (correspondence.parties party).poisoned = false)
    (completed : isAborted (step (correspondence.parties party).content random).result = false)
    (each : Party) :
    (Function.update correspondence.parties party
      (Locked.run step (correspondence.parties party) random).state each).poisoned = false := by
  by_cases same : each = party
  · rw [same, Function.update_self, Locked.run_of_free (free party)]
    exact completed
  · rw [Function.update_of_ne same]
    exact free each

theorem parties_initiate (party : Party) (bundle : PreKeyBundle) (random : Randomness)
    (correspondence : Correspondence) :
    (correspondence.initiate suite config meeting party bundle random).parties =
      Function.update correspondence.parties party
        (Locked.run (Session.processBundle suite config (meeting.peer party) bundle)
          (correspondence.parties party) random).state := by
  unfold initiate
  dsimp only
  split
  · rfl
  · rfl

theorem parties_send (party : Party) (plaintext : Bytes) (random : Randomness)
    (correspondence : Correspondence) :
    (correspondence.send suite config meeting party plaintext random).parties =
      Function.update correspondence.parties party
        (Locked.run (Session.encrypt suite config (meeting.peer party) plaintext)
          (correspondence.parties party) random).state := by
  unfold send
  dsimp only
  split
  · rfl
  · rfl

theorem parties_deliver (dispatch : Dispatch) (random : Randomness)
    (correspondence : Correspondence) :
    (correspondence.deliver suite config meeting dispatch random).parties =
      Function.update correspondence.parties dispatch.addressee
        (Locked.run (Session.decrypt suite config (meeting.peer dispatch.addressee) dispatch.message
          Receiver.accept) (correspondence.parties dispatch.addressee) random).state := by
  unfold deliver
  dsimp only
  split
  · rfl
  · rfl

/-- While keys and messages are few, nobody aborts. -/
theorem Run.usable (lawful : suite.Lawful) (short : config.macLength ≤ 32)
    (run : Run suite config meeting (Orderly suite config meeting) correspondence)
    (fewKeys : correspondence.keys.length + 1 < 0x80000000)
    (fewSent : correspondence.sent.length + 1 < 0x100000000) (party : Party) :
    (correspondence.parties party).poisoned = false := by
  induction run generalizing party with
  | start => rfl
  | @step correspondence run action random orderly ih =>
      have grows : Grows correspondence
          (correspondence.after suite config meeting action random) := grows_after
      have fewKeysBefore : correspondence.keys.length + 1 < 0x80000000 :=
        Nat.lt_of_le_of_lt (Nat.succ_le_succ grows.keys.length_le) fewKeys
      have fewSentBefore : correspondence.sent.length + 1 < 0x100000000 :=
        Nat.lt_of_le_of_lt (Nat.succ_le_succ grows.sent.length_le) fewSent
      have free := ih fewKeysBefore fewSentBefore
      have regular := run.honest.regular
      obtain ⟨threads, woven⟩ := run.woven lawful short
      cases action with
      | initiate sender bundle =>
          change ((correspondence.initiate suite config meeting sender bundle random).parties
            party).poisoned = false
          obtain ⟨⟨opening, rfl, joins⟩, _⟩ := orderly.published sender bundle rfl
          rw [parties_initiate]
          apply free_after_run free
          obtain ⟨_, _, _, _, _, processed⟩ := (woven.stocks sender).processBundle_eq lawful joins
            (regular.fits sender).published_eq config random
          rw [processed]
          rfl
      | accept sender message => exact absurd rfl (orderly.joinsByReading sender message)
      | send sender plaintext =>
          change ((correspondence.send suite config meeting sender plaintext random).parties
            party).poisoned = false
          rw [parties_send]
          exact free_after_run free
            (woven.isAborted_encrypt fewSentBefore sender plaintext random) party
      | deliver dispatch =>
          change ((correspondence.deliver suite config meeting dispatch random).parties
            party).poisoned = false
          obtain ⟨_, _, _, _, _, routed⟩ := woven.routed regular orderly.genuine
          rw [parties_deliver]
          exact free_after_run free (routed.isAborted_decrypt woven fewKeysBefore random) party

end Correspondence
end DoubleRatchet
