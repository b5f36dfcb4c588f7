import DoubleRatchet.Proofs.Session.Search

/-!
# Whether a state takes a message for its own

A state takes a message for its own when the MAC fits the keys that it would read the message with. No
other state opens the message; and a state that never received under the ratchet key of a message, and
does not take it for its own, leaves it to the next state.
-/

namespace DoubleRatchet
namespace SessionState

variable {suite : Suite} {config : Config} {message : SignalMessage} {key : PublicKey}
  {state ready final : SessionState} {plaintext : Bytes} {random rest : Randomness}

/-- The chain on which a state would receive under a ratchet key, a new one if need be. -/
def receiving? (suite : Suite) (key : PublicKey) (state : SessionState) : Option ReceiverChain :=
  match state.receiverChain? key, state.rootKey, state.senderChain with
  | some chain, _, _ => some chain
  | none, some root, some sending =>
      match root.step suite key sending.ratchetKey with
      | .ok receiver => some { ratchetKey := key, chainKey := receiver.chain }
      | .error _ => none
  | none, _, _ => none

/-- Whether the MAC of a message fits the keys with which a state would read it. -/
def verifies (suite : Suite) (config : Config) (message : SignalMessage) (state : SessionState) :
    Bool :=
  match state.receiving? suite message.ratchetKey, state.identities with
  | some chain, .ok (ours, theirs) =>
      match chain.request suite config message.counter with
      | .ok (keys, _) => message.verifyMac suite config theirs ours keys.macKey.bytes
      | .error _ => false
  | _, _ => false

theorem receiving?_of_ready {chain : ReceiverChain}
    (isReady : Ready suite config key state random ready rest)
    (found : ready.receiverChain? key = some chain) : state.receiving? suite key = some chain := by
  cases isReady with
  | known => simp only [receiving?, found]
  | turned missing turn =>
      have isNew := lookup_append_of_missing missing config.maxReceiverChains _ found
      simp only [receiving?, missing, turn.hasRoot, turn.hasSending, turn.receives, isNew]

/-- A state that opens a message takes it for its own. -/
theorem verifies_of_decrypt
    (opened : decrypt suite config message state random = ⟨.ok plaintext, final, rest⟩) :
    state.verifies suite config message = true := by
  obtain ⟨ready, isReady, decryption, rfl⟩ := decrypt_eq_ok opened
  have identities_eq : state.identities = .ok (decryption.ours, decryption.theirs) := by
    rw [← decryption.identities_eq]
    cases isReady <;> rfl
  simp only [verifies, receiving?_of_ready isReady decryption.found, identities_eq,
    decryption.granted, decryption.authentic]

/-- A state that does not take a message for its own, and knows nothing of its ratchet key, leaves it
to the next state. -/
theorem passes_of_unverified (unverified : state.verifies suite config message = false)
    (missing : state.receiverChain? message.ratchetKey = none)
    (notLast : message.counter ≠ 0xffffffff) (room : state.authKey.epoch.toNat < 0xfffffffe)
    (random : Randomness) :
    ∃ failure, (decrypt suite config message state random).result = .error failure ∧
      SessionRecord.isFinal failure = false := by
  rcases attempt : decrypt suite config message state random with ⟨failure | plaintext, final, rest⟩
  · refine ⟨failure, rfl, ?_⟩
    cases isFinal : SessionRecord.isFinal failure with
    | false => rfl
    | true =>
        have failed : (decrypt suite config message state random).result = .error failure := by
          rw [attempt]
        rcases final_of_decrypt failed isFinal with ⟨chain, known, _⟩ | ⟨last | ⟨_, full⟩, _⟩
        · rw [missing] at known
          cases known
        · exact absurd last notLast
        · exact absurd full (Nat.not_le_of_lt room)
  · rw [verifies_of_decrypt attempt] at unverified
    cases unverified

end SessionState
end DoubleRatchet
