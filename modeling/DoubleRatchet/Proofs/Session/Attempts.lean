import DoubleRatchet.Proofs.Session.Search

/-!
# Which attempt decides

A record gives a message to its states one after the other, each as if it were alone. The first attempt
that settles the matter is what becomes of the message; if it succeeded, its state leads the record.
-/

namespace DoubleRatchet
namespace SessionRecord

variable {suite : Suite} {config : Config} {message : SignalMessage} {record : SessionRecord}
  {states : List SessionState} {random : Randomness} {position start : Nat}
  {attempt : Outcome SessionState Bytes}

/-- The attempts of all states, where each draws on from where the one before it stopped. -/
def attempts (suite : Suite) (config : Config) (message : SignalMessage) :
    List SessionState → Randomness → List (Outcome SessionState Bytes)
  | [], _ => []
  | state :: later, random =>
      let attempt := SessionState.decrypt suite config message state random
      attempt :: attempts suite config message later attempt.random

/-- The attempt succeeded, or its failure is the answer to the message. -/
def settles (attempt : Outcome SessionState Bytes) : Bool :=
  match attempt.result with
  | .ok _ => true
  | .error failure => isFinal failure

/-- The first attempt that settles what becomes of a message. -/
structure Settles (tries : List (Outcome SessionState Bytes)) (position : Nat)
    (attempt : Outcome SessionState Bytes) : Prop where
  tried : tries[position]? = some attempt
  settled : settles attempt = true
  earlier : ∀ before other, before < position → tries[before]? = some other → settles other = false

theorem getElem?_attempts
    (tried : (attempts suite config message states random)[position]? = some attempt) :
    ∃ state drawn, states[position]? = some state ∧
      SessionState.decrypt suite config message state drawn = attempt := by
  induction states generalizing random position with
  | nil => cases tried
  | cons state later ih =>
      cases position with
      | zero => exact ⟨state, random, rfl, Option.some.inj tried⟩
      | succ position => exact ih tried

theorem firstAnswer_of_unsettled
    (unsettled : ∀ attempt ∈ attempts suite config message states random, settles attempt = false)
    (start : Nat) : (firstAnswer suite config message start states random).1 =
      .error (.invalidMessage .noValidSession) := by
  induction states generalizing start random with
  | nil => rfl
  | cons state later ih =>
      obtain ⟨first, others⟩ := List.forall_mem_cons.mp unsettled
      unfold settles at first
      split at first
      · cases first
      · rename_i failure failed
        rw [firstAnswer_of_error (Outcome.eq_of_result failed) first]
        exact ih others _

theorem firstAnswer_of_settles
    (settling : Settles (attempts suite config message states random) position attempt)
    (start : Nat) : (firstAnswer suite config message start states random).1 =
      attempt.result.map fun plaintext =>
        { index := start + position, state := attempt.state, plaintext } := by
  induction states generalizing start position random with
  | nil => cases settling.tried
  | cons state later ih =>
      cases position with
      | zero =>
          have isFirst : SessionState.decrypt suite config message state random = attempt :=
            Option.some.inj settling.tried
          have settled := settling.settled
          unfold settles at settled
          rcases attempt with ⟨failure | plaintext, after, rest⟩
          · unfold firstAnswer
            rw [isFirst]
            dsimp only
            rw [if_pos settled]
            rfl
          · rw [firstAnswer_of_ok isFirst]
            rfl
      | succ position =>
          have first := settling.earlier 0 _ (Nat.succ_pos position) rfl
          have others : Settles (attempts suite config message later
              (SessionState.decrypt suite config message state random).random) position attempt :=
            { tried := settling.tried
              settled := settling.settled
              earlier := fun before other isBefore =>
                settling.earlier (before + 1) other (Nat.succ_lt_succ isBefore) }
          unfold settles at first
          split at first
          · cases first
          · rename_i failure failed
            rw [firstAnswer_of_error (Outcome.eq_of_result failed) first, ih others _,
              Nat.add_assoc, Nat.add_comm 1]

/-- One of the attempts settles the matter, or none does. -/
theorem exists_settles (tries : List (Outcome SessionState Bytes)) :
    (∃ position attempt, Settles tries position attempt) ∨
      ∀ attempt ∈ tries, settles attempt = false := by
  induction tries with
  | nil => exact .inr fun _ member => absurd member List.not_mem_nil
  | cons first later ih =>
      cases first_settles : settles first with
      | true =>
          have isFirst : Settles (first :: later) 0 first :=
            { tried := rfl
              settled := first_settles
              earlier := fun before _ impossible => absurd impossible (Nat.not_lt_zero before) }
          exact .inl ⟨0, first, isFirst⟩
      | false =>
          rcases ih with ⟨position, attempt, tried, settled, earlier⟩ | unsettled
          · refine .inl ⟨position + 1, attempt, tried, settled, ?_⟩
            intro before other isBefore found
            cases before with
            | zero =>
                cases found
                exact first_settles
            | succ before => exact earlier before other (Nat.lt_of_succ_lt_succ isBefore) found
          · exact .inr (List.forall_mem_cons.mpr ⟨first_settles, unsettled⟩)

theorem decrypt_of_unsettled
    (unsettled : ∀ attempt ∈ attempts suite config message record.states random,
      settles attempt = false) :
    (decrypt suite config message record random).result = .error (.invalidMessage .noValidSession) ∧
      (decrypt suite config message record random).state = record := by
  have none := firstAnswer_of_unsettled unsettled 0
  unfold decrypt
  rw [Step.get_bind, Step.draw_bind, none]
  exact ⟨rfl, rfl⟩

/-- A success is stored by the state that it belongs to, which then leads the record. -/
theorem decrypt_of_settles
    (settling : Settles (attempts suite config message record.states random) position attempt) :
    (decrypt suite config message record random).result = attempt.result ∧
      (decrypt suite config message record random).state = match attempt.result with
        | .ok plaintext =>
            record.answered config { index := position, state := attempt.state, plaintext }
        | .error _ => record := by
  have answer := firstAnswer_of_settles settling 0
  unfold decrypt
  rw [Step.get_bind, Step.draw_bind, answer]
  rcases attempt with ⟨failure | plaintext, after, rest⟩
  · exact ⟨rfl, rfl⟩
  · cases position with
    | zero => exact ⟨rfl, rfl⟩
    | succ position =>
        rw [Nat.zero_add]
        exact ⟨rfl, rfl⟩

/-- What becomes of a message that a record gets, and of the record: the first attempt that settles the
matter decides, and there is no session for the message if none does. -/
inductive Selects (suite : Suite) (config : Config) (message : SignalMessage)
    (record : SessionRecord) (random : Randomness) : Except Failure Bytes → SessionRecord → Prop where
  | read {position : Nat} {attempt : Outcome SessionState Bytes} {plaintext : Bytes}
      {final : SessionRecord}
      (settling : Settles (attempts suite config message record.states random) position attempt)
      (succeeded : attempt.result = .ok plaintext) (leads : final.current = attempt.state)
      (others : final.states <+: attempt.state :: record.states.eraseIdx position) :
      Selects suite config message record random (.ok plaintext) final
  | duplicate {position : Nat} {attempt : Outcome SessionState Bytes} {index counter : UInt32}
      (settling : Settles (attempts suite config message record.states random) position attempt)
      (refused : attempt.result = .error (.refused (.duplicateMessage index counter))) :
      Selects suite config message record random
        (.error (.refused (.duplicateMessage index counter))) record
  /-- A counter of 32 bits is used up. -/
  | aborted {position : Nat} {attempt : Outcome SessionState Bytes}
      (settling : Settles (attempts suite config message record.states random) position attempt)
      (stopped : attempt.result = .error (.aborted .overflow))
      (usedUp : message.counter = 0xffffffff ∨
        ∃ state ∈ record.states, state.receiverChain? message.ratchetKey = none ∧
          0xfffffffe ≤ state.authKey.epoch.toNat) :
      Selects suite config message record random (.error (.aborted .overflow)) record
  | nowhere (unsettled : ∀ attempt ∈ attempts suite config message record.states random,
        settles attempt = false) :
      Selects suite config message record random (.error (.invalidMessage .noValidSession)) record

theorem selects_of_decrypt (record : SessionRecord) (random : Randomness) :
    Selects suite config message record random (decrypt suite config message record random).result
      (decrypt suite config message record random).state := by
  rcases exists_settles (attempts suite config message record.states random) with
    ⟨position, attempt, settling⟩ | unsettled
  · obtain ⟨answer, stored⟩ := decrypt_of_settles settling
    rw [answer, stored]
    cases outcome : attempt.result with
    | ok plaintext =>
        exact .read settling outcome (current_answered _ record) (states_answered_cut config _ record)
    | error failure =>
        obtain ⟨state, drawn, isState, attempted⟩ := getElem?_attempts settling.tried
        have final : isFinal failure = true := by
          have settled := settling.settled
          unfold settles at settled
          rw [outcome] at settled
          exact settled
        rw [← attempted] at outcome
        rcases SessionState.final_of_decrypt outcome final with
          ⟨chain, _, _, rfl⟩ | ⟨last | ⟨unknown, near⟩, rfl⟩
        · exact .duplicate settling (attempted ▸ outcome)
        · exact .aborted settling (attempted ▸ outcome) (.inl last)
        · exact .aborted settling (attempted ▸ outcome)
            (.inr ⟨state, List.mem_of_getElem? isState, unknown, near⟩)
  · obtain ⟨answer, stored⟩ := decrypt_of_unsettled unsettled
    rw [answer, stored]
    exact .nowhere unsettled

/-- The caller's record at the newcomer, where the chain of the first call has come to its end. -/
def wornOut : SessionRecord :=
  let current := (Store.called.session .caller).current
  .ofState { current with
    receiverChains := current.receiverChains.map fun chain =>
      { chain with chainKey := { chain.chainKey with index := 0xffffffff } } }

/-- A message at the end of its chain is not read, and it was not read before. The answer is still not
that there is no session for it. -/
theorem last_counter_ends_the_search :
    let message := { CiphertextMessage.firstCall.inner with counter := 0xffffffff }
    (attempts Suite.additive {} message wornOut.states (.repeated 0)).map Outcome.result =
        [.error (.aborted .overflow)] ∧
      (decrypt Suite.additive {} message wornOut (.repeated 0)).result ≠
        .error (.invalidMessage .noValidSession) := by
  decide +kernel

end SessionRecord
end DoubleRatchet
