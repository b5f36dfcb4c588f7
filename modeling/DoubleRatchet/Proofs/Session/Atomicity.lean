import DoubleRatchet.Proofs.Session.Exchange
import DoubleRatchet.Proofs.Suite

/-!
# First messages that fail

A first message is accepted before it is decrypted, and accepting pins the identity that it
announces. So a first message that fails leaves sessions and prekeys alone, but one that is
accepted and then not decrypted pins an identity for an address that had none.
-/

namespace DoubleRatchet
namespace Session

variable {suite : Suite} {config : Config} {address : Address} {message : PreKeyMessage}
  {receiver : Receiver} {store : Store} {random : Randomness} {failure : Failure}

/-- The identity is trusted, and the session is known or can be joined. -/
def accepts (suite : Suite) (config : Config) (address : Address) (message : PreKeyMessage)
    (store : Store) (random : Randomness) : Bool :=
  (acceptPreKeyMessage suite config address (store.session address) message store random).result.isOk

/-- What a failed first message leaves behind, and exactly when that differs from what was there:
the message was accepted and the address had no identity. -/
theorem failed_first_message
    (failed : (decryptPreKeyMessage suite config address message receiver store random).result =
      .error failure) :
    let after := (decryptPreKeyMessage suite config address message receiver store random).state
    let accepted := accepts suite config address message store random
    (after = if accepted then store.putIdentity address message.identityKey else store) ∧
      (after ≠ store ↔ accepted = true ∧ store.identities.find? address = none) := by
  intro after accepted
  cases run : decryptPreKeyMessage suite config address message receiver store random with
  | mk result state rest =>
      have afterState : after = state := congrArg Outcome.state run
      rw [run] at failed
      have resultFailed : result = .error failure := failed
      rw [resultFailed] at run
      rcases decryptPreKeyMessage_eq_error run with ⟨refused, unchanged⟩ | ⟨used, joined, drawn, ok⟩
      · have notAccepted : accepted = false := by simp only [accepted, accepts, refused]; rfl
        rw [afterState, unchanged, notAccepted]
        simp
      · have isAccepted : accepted = true := by simp only [accepted, accepts, ok]; rfl
        obtain ⟨trusted, pinned, _⟩ := accept_eq_ok ok
        rw [afterState, pinned, isAccepted]
        refine ⟨rfl, ?_⟩
        rw [ne_eq, Store.putIdentity_eq_self_iff]
        rcases (Store.trusts_iff address store message.identityKey).mp trusted with none | known
        · simp [none]
        · simp [known]

/-- A first message whose inner message was made under no session at all. -/
def forgedFirstMessage : PreKeyMessage :=
  let body : SignalMessage.Body :=
    { ratchetKey := (KeyPair.additive 5).publicKey, counter := 0, previousCounter := 0,
      ciphertext := [] }
  PreKeyMessage.make 3 2 none 7 (KeyPair.additive 3).publicKey (KeyPair.additive 4).publicKey
    (SignalMessage.make Suite.additive {} 3 [] body (KeyPair.additive 4).publicKey
      Store.newcomer.identity.publicKey)

set_option maxRecDepth 2000 in
theorem forged_first_message_pins :
    let outcome := decryptPreKeyMessage Suite.additive {} .caller forgedFirstMessage
      Receiver.accept .newcomer (.repeated 0)
    outcome.result = .error (.invalidMessage .noValidSession) ∧ outcome.state ≠ .newcomer := by
  intro outcome
  have failed : outcome.result = .error (.invalidMessage .noValidSession) := rfl
  exact ⟨failed, (failed_first_message failed).2.mpr ⟨rfl, rfl⟩⟩

end Session
end DoubleRatchet
