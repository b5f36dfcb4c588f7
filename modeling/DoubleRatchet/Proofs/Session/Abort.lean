import DoubleRatchet.Proofs.Session.Exchange
import DoubleRatchet.Proofs.Session.Search
import DoubleRatchet.Store.Lock

/-!
# What aborts

Only a counter of 32 bits that is used up aborts an operation: the index of a chain, or the epoch of a
session.
-/

namespace DoubleRatchet

variable {suite : Suite} {config : Config} {random : Randomness}

/-- A failure that leaves a message to the next session is no abort. -/
theorem isAborted_of_not_final {α : Type} {failure : Failure}
    (notFinal : SessionRecord.isFinal failure = false) :
    isAborted (.error failure : Except Failure α) = false := by
  cases failure with
  | refused error => rfl
  | aborted abort => cases notFinal

/-- A state with a sending chain aborts only after the last counter of that chain. -/
theorem SessionState.isAborted_encrypt {ours theirs : PublicKey} {plaintext : Bytes}
    {state : SessionState} {chain : SenderChain} (hasChain : state.senderChain = some chain)
    (notLast : chain.chainKey.index ≠ 0xffffffff) :
    isAborted (encrypt suite config ours theirs plaintext state random).result = false := by
  cases outcome : (encrypt suite config ours theirs plaintext state random).result with
  | ok message => rfl
  | error failure =>
      rcases encrypt_eq_error outcome with ⟨none, _⟩ |
        ⟨own, isOwn, ⟨key, vector, associated, unsealed⟩ | ⟨last, _⟩⟩
      · rw [hasChain] at none
        cases none
      · obtain ⟨_, rfl⟩ := Suite.sealText_eq_error unsealed
        rfl
      · rw [hasChain] at isOwn
        cases isOwn
        exact absurd last notLast

/-- A party that sends aborts only where its current session does. -/
theorem Session.isAborted_encrypt {address : Address} {plaintext : Bytes} {store : Store}
    (sends : (store.session address).isFresh = false → ∀ ours theirs,
      isAborted (SessionState.encrypt suite config ours theirs plaintext
        (store.session address).current random).result = false) :
    isAborted (encrypt suite config address plaintext store random).result = false := by
  cases outcome : (encrypt suite config address plaintext store random).result with
  | ok message => rfl
  | error failure =>
      rcases encrypt_eq_error outcome with ⟨_, rfl⟩ |
        ⟨begun, unidentified | ⟨ours, theirs, _, ⟨_, rfl⟩ | ⟨_, failed⟩⟩⟩
      · rfl
      · exact isAborted_of_not_final (SessionState.isFinal_identities unidentified)
      · rfl
      · have notAborted := sends begun ours theirs
        rw [failed] at notAborted
        exact notAborted

end DoubleRatchet
