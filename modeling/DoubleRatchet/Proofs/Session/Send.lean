import DoubleRatchet.Proofs.Message.Signal
import DoubleRatchet.Proofs.Session.State
import DoubleRatchet.Proofs.Suite
import DoubleRatchet.Session.Send

/-!
# Sending in one session state, case by case

The message that a state makes of a text, and that nothing but the sending chain moves.
-/

namespace DoubleRatchet

variable {suite : Suite} {config : Config}

/-- The message of a session, without what begins the session. -/
def CiphertextMessage.inner : CiphertextMessage → SignalMessage
  | .signal message => message
  | .preKey message => message.message

namespace SessionState

variable {ours theirs : PublicKey} {plaintext ciphertext : Bytes} {chain : SenderChain}
  {message : CiphertextMessage} {state after : SessionState} {random rest : Randomness}

/-- The message of a text that became `ciphertext` under the next keys of the sending chain. -/
def innerMessage (suite : Suite) (config : Config) (ours theirs : PublicKey) (chain : SenderChain)
    (ciphertext : Bytes) (state : SessionState) : SignalMessage :=
  .make suite config state.version (chain.chainKey.messageKeys suite).macKey.bytes
    { ratchetKey := chain.ratchetKey.publicKey
      counter := chain.chainKey.index
      previousCounter := state.previousCounter
      ciphertext := ciphertext } ours theirs

/-- The message as it is sent: alone, or with what begins the session. -/
def outerMessage (ours : PublicKey) (inner : SignalMessage) (state : SessionState) :
    CiphertextMessage :=
  match state.pending with
  | none => .signal inner
  | some pending => .preKey (.make state.version state.localRegistrationId pending.preKeyId
      pending.signedPreKeyId pending.baseKey ours inner)

theorem inner_outerMessage (inner : SignalMessage) :
    (state.outerMessage ours inner).inner = inner := by
  unfold outerMessage
  cases state.pending with
  | none => rfl
  | some pending => rfl

/-- The state after a message on its sending chain. -/
def sentOn (suite : Suite) (chain : SenderChain) (state : SessionState) : SessionState :=
  { state with senderChain := some { chain with chainKey := chain.chainKey.following suite } }

theorem encrypt_eq_ok :
    encrypt suite config ours theirs plaintext state random = ⟨.ok message, after, rest⟩ ↔
      ∃ chain ciphertext, state.senderChain = some chain ∧
        suite.sealText config (chain.chainKey.messageKeys suite).cipherKey
          (chain.chainKey.messageKeys suite).vector.bytes plaintext
          (SignalMessage.associatedData state.version chain.ratchetKey.publicKey
            chain.chainKey.index) = .ok ciphertext ∧
        chain.chainKey.index ≠ 0xffffffff ∧
        message = state.outerMessage ours
          (state.innerMessage suite config ours theirs chain ciphertext) ∧
        after = state.sentOn suite chain ∧ rest = random := by
  unfold encrypt
  constructor
  · intro succeeded
    rw [Step.get_bind] at succeeded
    obtain ⟨chain, isChain, sealing⟩ := Step.lift_bind_eq_ok.mp succeeded
    obtain ⟨ciphertext, made, moving⟩ := Step.lift_bind_eq_ok.mp sealing
    obtain ⟨next, moved, storing⟩ := Step.lift_bind_eq_ok.mp moving
    obtain ⟨notLast, rfl⟩ := ChainKey.next_eq_ok.mp moved
    have hasChain := requireSenderChain_eq_ok.mp isChain
    have stored : setSenderChainKey (chain.chainKey.following suite) state random =
        ⟨.ok (), state.sentOn suite chain, random⟩ := setSenderChainKey_of_found hasChain
    rw [Step.bind_of_ok stored] at storing
    refine ⟨chain, ciphertext, hasChain, made, notLast, ?_⟩
    unfold outerMessage
    cases waiting : state.pending with
    | none =>
        rw [waiting] at storing
        cases storing
        exact ⟨rfl, rfl, rfl⟩
    | some pending =>
        rw [waiting] at storing
        cases storing
        exact ⟨rfl, rfl, rfl⟩
  · rintro ⟨chain, ciphertext, hasChain, made, notLast, rfl, rfl, rfl⟩
    rw [Step.get_bind]
    refine Step.lift_bind_eq_ok.mpr ⟨chain, requireSenderChain_eq_ok.mpr hasChain, ?_⟩
    refine Step.lift_bind_eq_ok.mpr ⟨ciphertext, made, ?_⟩
    refine Step.lift_bind_eq_ok.mpr ⟨_, ChainKey.next_eq_ok.mpr ⟨notLast, rfl⟩, ?_⟩
    have stored : setSenderChainKey (chain.chainKey.following suite) state rest =
        ⟨.ok (), state.sentOn suite chain, rest⟩ := setSenderChainKey_of_found hasChain
    rw [Step.bind_of_ok stored]
    unfold outerMessage
    cases state.pending with
    | none => rfl
    | some pending => rfl

/-- A state that does not encrypt has no sending chain, or cannot seal, or has used up its counters. -/
theorem encrypt_eq_error {failure : Failure}
    (failed : (encrypt suite config ours theirs plaintext state random).result = .error failure) :
    (state.senderChain = none ∧ failure = .noSession .senderChain) ∨
      ∃ chain, state.senderChain = some chain ∧
        ((∃ key vector associated,
          suite.sealText config key vector plaintext associated = .error failure) ∨
          chain.chainKey.index = 0xffffffff ∧ failure = .aborted .overflow) := by
  unfold encrypt at failed
  rw [Step.get_bind] at failed
  cases hasChain : state.senderChain with
  | none =>
      rw [requireSenderChain, hasChain] at failed
      cases failed
      exact .inl ⟨rfl, rfl⟩
  | some chain =>
      refine .inr ⟨chain, rfl, ?_⟩
      rw [requireSenderChain_eq_ok.mpr hasChain] at failed
      rcases Step.result_lift_bind_eq_error.mp failed with none | ⟨_, same, failed⟩
      · cases none
      cases same
      rcases Step.result_lift_bind_eq_error.mp failed with unsealed | ⟨ciphertext, _, failed⟩
      · exact .inl ⟨_, _, _, unsealed⟩
      rcases Step.result_lift_bind_eq_error.mp failed with last | ⟨next, _, failed⟩
      · exact .inr (last_of_successor_bind last)
      · rw [Step.bind_of_ok (setSenderChainKey_of_found hasChain)] at failed
        cases waiting : state.pending with
        | none =>
            rw [waiting] at failed
            cases failed
        | some pending =>
            rw [waiting] at failed
            cases failed

end SessionState
end DoubleRatchet
