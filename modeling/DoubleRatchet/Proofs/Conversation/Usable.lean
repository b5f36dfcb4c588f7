import DoubleRatchet.Proofs.Conversation.Follow
import DoubleRatchet.Proofs.Session.Abort

/-!
# How long a conversation can go on

A party aborts where a counter of 32 bits is used up, and nowhere else. So locks stay free, and there
is room for every ratchet key, until the letters have become too many.
-/

namespace DoubleRatchet

variable {suite : Suite} {config : Config} {random : Randomness}

theorem Outcome.isAborted_storing {σ : Type} (stored : SessionState → σ) (refused : σ)
    (outcome : Outcome SessionState Bytes) :
    isAborted (outcome.storing stored refused).result = isAborted outcome.result := by
  rcases outcome with ⟨failure | plaintext, final, rest⟩
  · cases failure with
    | refused error =>
        cases error <;> rfl
    | aborted abort => rfl
  · rfl

namespace Script

variable {opening : Opening suite} {script : Script} {conversation : Conversation} {side : Side}
  {letter : Letter}

/-! ## Sending -/

/-- The state of a side that has counters left does not abort. -/
theorem Follows.isAborted_encrypt_state (follows : script.Follows config opening conversation)
    (room : (script.halves side).count + 1 < 0x100000000) (ours theirs : PublicKey)
    (plaintext : Bytes) (random : Randomness) :
    isAborted (SessionState.encrypt suite config ours theirs plaintext (script.states side)
      random).result = false := by
  have proper := follows.synced.proper side
  apply SessionState.isAborted_encrypt (follows.synced.holds side).senderChain_eq
  intro last
  have index_eq : ((script.halves side).sending suite).chainKey.index.toNat =
      (script.halves side).count :=
    ChainLog.index_later (proper.begins _ (script.halves side).last_mem_keys) proper.fits
  rw [last] at index_eq
  change 0xffffffff = _ at index_eq
  omega

theorem Follows.isAborted_encrypt (follows : script.Follows config opening conversation)
    (room : (script.halves side).count + 1 < 0x100000000) (plaintext : Bytes) (random : Randomness) :
    isAborted (Session.encrypt suite config (opening.peer side) plaintext
      (conversation.parties side).content random).result = false := by
  apply Session.isAborted_encrypt
  intro begun ours theirs
  obtain ⟨_, sole⟩ := (follows.keeps side).sole_of_begun begun
  rw [sole.session_eq]
  exact follows.isAborted_encrypt_state room ours theirs plaintext random

/-! ## Reading -/

theorem Follows.isAborted_decrypt (follows : script.Follows config opening conversation)
    (lawful : suite.Lawful) (isSent : letter ∈ conversation.sent)
    (kept : (conversation.books letter.addressee).Keeps config letter.key)
    (room : (conversation.ratchetKeys letter.addressee).length < 0x80000000) (random : Randomness) :
    isAborted (Session.decrypt suite config (opening.peer letter.addressee) letter.message
      Receiver.accept (conversation.parties letter.addressee).content random).result = false := by
  have sender_eq : letter.addressee.other = letter.sender := Side.other_other letter.sender
  have synced := follows.synced
  have genuine := follows.genuine letter isSent
  have drawn := follows.keyed letter isSent
  rw [← sender_eq] at genuine drawn
  rw [follows.drawn letter.addressee] at room
  obtain ⟨stored, refused, reads, _⟩ := follows.decrypt_eq isSent
  rw [reads, Outcome.isAborted_storing]
  by_cases grants : (letter.log conversation.books).Grants config letter.counter
  · obtain ⟨final, rest, read⟩ :=
      synced.decrypt_of_grants lawful drawn kept (fun _ => room) genuine grants random
    rw [read]
    rfl
  · by_cases done : (letter.log conversation.books).Done letter.counter
    · obtain ⟨index, _, duplicate⟩ :=
        synced.decrypt_of_done drawn kept genuine.version_eq done random
      rw [duplicate]
      rfl
    · have far := ChainLog.far_of_not_grants grants done
      rw [synced.decrypt_of_far lawful drawn kept (fun _ => room) genuine.version_eq far random]
      rfl

end Script

namespace Conversation

variable {opening : Opening suite} {conversation : Conversation}

/-- A side draws a ratchet key at the beginning, and then at most one for each letter that is read. -/
theorem Run.length_ratchetKeys_le (run : Run config opening conversation) (side : Side) :
    (conversation.ratchetKeys side).length ≤ conversation.read.length + 1 := by
  induction run with
  | start random =>
      cases side with
      | initiator => exact Nat.le_refl 1
      | responder => exact Nat.le_refl 1
  | send run sender plaintext random ih => exact ih
  | @deliver conversation run letter random isSent kept fresh ih =>
      unfold Conversation.deliver
      dsimp only
      cases (conversation.decrypted config opening letter random).result with
      | error failure => exact ih
      | ok text =>
          dsimp only
          rw [List.length_append, List.length_singleton]
          rcases Side.eq_or_eq_other side letter.addressee with rfl | rfl
          · rw [Side.update_self]
            split
            · exact Nat.le_succ_of_le ih
            · rw [List.length_append, List.length_singleton]
              exact Nat.succ_le_succ ih
          · rw [Side.update_other]
            exact Nat.le_succ_of_le ih

theorem Run.length_read_le (lawful : suite.Lawful) (short : config.macLength ≤ 32)
    (run : Run config opening conversation) : conversation.read.length ≤ conversation.sent.length := by
  obtain ⟨script, follows⟩ := run.follows lawful short
  exact follows.recorded.read_once.length_le_of_subset follows.recorded.read_sent

theorem Run.room (lawful : suite.Lawful) (short : config.macLength ≤ 32)
    (run : Run config opening conversation) (few : conversation.sent.length + 1 < 0x80000000)
    (side : Side) : (conversation.ratchetKeys side).length < 0x80000000 := by
  have keys_le := run.length_ratchetKeys_le side
  have read_le := run.length_read_le lawful short
  omega

theorem length_sent_le_send (side : Side) (plaintext : Bytes) (random : Randomness)
    (conversation : Conversation) :
    conversation.sent.length ≤
      (conversation.send config opening side plaintext random).sent.length := by
  unfold send
  dsimp only
  cases (conversation.encrypted config opening side plaintext random).result with
  | error failure => exact Nat.le_refl _
  | ok message =>
      dsimp only
      rw [List.length_append]
      exact Nat.le_add_right _ _

theorem sent_deliver (letter : Letter) (random : Randomness) (conversation : Conversation) :
    (conversation.deliver config opening letter random).sent = conversation.sent := by
  unfold deliver
  dsimp only
  cases (conversation.decrypted config opening letter random).result with
  | error failure => rfl
  | ok text => rfl

theorem parties_deliver (letter : Letter) (random : Randomness) (conversation : Conversation) :
    (conversation.deliver config opening letter random).parties =
      letter.addressee.update (conversation.decrypted config opening letter random).state
        conversation.parties := by
  unfold deliver
  dsimp only
  cases (conversation.decrypted config opening letter random).result with
  | error failure => rfl
  | ok text => rfl

/-- Until 2 ^ 31 letters have been sent, nobody aborts. -/
theorem Run.usable (lawful : suite.Lawful) (short : config.macLength ≤ 32)
    (run : Run config opening conversation) (few : conversation.sent.length + 1 < 0x80000000)
    (side : Side) : (conversation.parties side).poisoned = false := by
  induction run generalizing side with
  | start random =>
      cases side with
      | initiator =>
          obtain ⟨_, _, _, _, processed⟩ := opening.processBundle_eq config lawful random
          change isAborted (Session.processBundle suite config (opening.peer .initiator)
            opening.bundle (opening.store .initiator) random).result = false
          rw [processed]
          rfl
      | responder => rfl
  | @send conversation run sender plaintext random ih =>
      have grows : conversation.sent.length ≤
          (conversation.send config opening sender plaintext random).sent.length :=
        length_sent_le_send sender plaintext random conversation
      have fewBefore : conversation.sent.length + 1 < 0x80000000 := by omega
      have free := ih fewBefore
      rcases Side.eq_or_eq_other side sender with rfl | rfl
      · obtain ⟨script, follows⟩ := run.follows lawful short
        have room : (script.halves side).count + 1 < 0x100000000 := by
          have bound := follows.few side
          omega
        unfold Conversation.send Conversation.encrypted
        rw [Locked.run_of_free (free side)]
        dsimp only
        rw [Side.update_self]
        exact follows.isAborted_encrypt room plaintext random
      · unfold Conversation.send
        dsimp only
        rw [Side.update_other]
        exact free sender.other
  | @deliver conversation run letter random isSent kept fresh ih =>
      rw [sent_deliver] at few
      have free := ih few
      rw [parties_deliver]
      rcases Side.eq_or_eq_other side letter.addressee with rfl | rfl
      · obtain ⟨script, follows⟩ := run.follows lawful short
        rw [Side.update_self]
        unfold decrypted
        rw [Locked.run_of_free (free letter.addressee)]
        exact follows.isAborted_decrypt lawful isSent kept
          (run.room lawful short few letter.addressee) random
      · rw [Side.update_other]
        exact free letter.addressee.other

end Conversation
end DoubleRatchet
