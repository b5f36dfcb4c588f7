import DoubleRatchet.Proofs.Session.Begin
import DoubleRatchet.Proofs.Session.Record
import DoubleRatchet.Proofs.Session.Send
import DoubleRatchet.Session.Exchange

/-!
# Exchanging messages, case by case

What the operations of an exchange leave in the store. Everything that a successful operation stores
is named here, so that later modules need not open the operations again.
-/

namespace DoubleRatchet

variable {suite : Suite} {config : Config} {address : Address} {random rest : Randomness}

namespace Session

variable {store after : Store} {receiver : Receiver} {plaintext : Bytes}

theorem existing_eq_ok {record : SessionRecord} :
    existing address store random = ⟨.ok record, after, rest⟩ ↔
      (store.session address).isFresh = false ∧ record = store.session address ∧
        store = after ∧ random = rest := by
  unfold existing
  simp only [Step.bind_run, Step.get_run]
  cases fresh : (store.session address).isFresh with
  | true => simp
  | false =>
      simp only [Bool.false_eq_true, if_false, Step.pure_run, Outcome.mk.injEq, Except.ok.injEq,
        true_and]
      constructor
      · rintro ⟨rfl, rfl, rfl⟩
        exact ⟨rfl, rfl, rfl⟩
      · rintro ⟨rfl, rfl, rfl⟩
        exact ⟨rfl, rfl, rfl⟩

theorem reading_existing : Step.Reading (existing address) := by
  apply Step.reading_get.bind
  intro store
  dsimp only
  split
  · exact Step.reading_throw _
  · exact Step.reading_pure _

theorem encrypt_eq_ok {message : CiphertextMessage} :
    encrypt suite config address plaintext store random = ⟨.ok message, after, rest⟩ ↔
      ∃ ours theirs state, (store.session address).isFresh = false ∧
        (store.session address).current.identities = .ok (ours, theirs) ∧
        store.trusts address theirs = true ∧
        SessionState.encrypt suite config ours theirs plaintext (store.session address).current
          random = ⟨.ok message, state, rest⟩ ∧
        after = store.putSession address ((store.session address).setCurrent state) := by
  unfold encrypt
  constructor
  · intro succeeded
    obtain ⟨_, _, _, found, identifying⟩ := Step.bind_eq_ok.mp succeeded
    obtain ⟨notFresh, rfl, rfl, rfl⟩ := existing_eq_ok.mp found
    obtain ⟨⟨ours, theirs⟩, identified, checking⟩ := Step.lift_bind_eq_ok.mp identifying
    dsimp only at checking
    rw [Step.get_bind] at checking
    cases trusted : store.trusts address theirs with
    | false =>
        simp only [trusted, Bool.not_false, if_true] at checking
        cases checking
    | true =>
        simp only [trusted, Bool.not_true, Bool.false_eq_true, if_false] at checking
        obtain ⟨⟨text, state⟩, _, _, attempt, storing⟩ := Step.bind_eq_ok.mp checking
        obtain ⟨rfl, encrypted⟩ := Step.apart_eq_ok.mp attempt
        cases storing
        exact ⟨ours, theirs, state, notFresh, identified, trusted, encrypted, rfl⟩
  · rintro ⟨ours, theirs, state, notFresh, identified, trusted, encrypted, rfl⟩
    have found : existing address store random = ⟨.ok (store.session address), store, random⟩ :=
      existing_eq_ok.mpr ⟨notFresh, rfl, rfl, rfl⟩
    rw [Step.bind_of_ok found]
    refine Step.lift_bind_eq_ok.mpr ⟨(ours, theirs), identified, ?_⟩
    dsimp only
    rw [Step.get_bind]
    simp only [trusted, Bool.not_true, Bool.false_eq_true, if_false]
    exact Step.bind_of_ok (Step.apart_eq_ok.mpr ⟨rfl, encrypted⟩)

/-- A party that does not send has no session to send in, or its session knows no peer, or one that is
not trusted, or does not encrypt. -/
theorem encrypt_eq_error {failure : Failure}
    (failed : (encrypt suite config address plaintext store random).result = .error failure) :
    ((store.session address).isFresh = true ∧ failure = .noSession (.peer address)) ∨
      (store.session address).isFresh = false ∧
        ((store.session address).current.identities = .error failure ∨
          ∃ ours theirs, (store.session address).current.identities = .ok (ours, theirs) ∧
            ((store.trusts address theirs = false ∧
                failure = .refused (.untrustedIdentity address)) ∨
              store.trusts address theirs = true ∧
                (SessionState.encrypt suite config ours theirs plaintext
                  (store.session address).current random).result = .error failure)) := by
  unfold encrypt at failed
  rcases Step.result_bind_eq_error.mp failed with missing | ⟨_, _, _, found, failed⟩
  · unfold existing at missing
    rw [Step.get_bind] at missing
    cases fresh : (store.session address).isFresh with
    | false =>
        rw [fresh] at missing
        cases missing
    | true =>
        rw [fresh] at missing
        cases missing
        exact .inl ⟨rfl, rfl⟩
  obtain ⟨begun, rfl, rfl, rfl⟩ := existing_eq_ok.mp found
  refine .inr ⟨begun, ?_⟩
  rcases Step.result_lift_bind_eq_error.mp failed with unidentified | ⟨⟨ours, theirs⟩, known, failed⟩
  · exact .inl unidentified
  refine .inr ⟨ours, theirs, known, ?_⟩
  dsimp only at failed
  rw [Step.get_bind] at failed
  cases trusted : store.trusts address theirs with
  | false =>
      simp only [trusted, Bool.not_false, if_true] at failed
      cases failed
      exact .inl ⟨rfl, rfl⟩
  | true =>
      simp only [trusted, Bool.not_true, Bool.false_eq_true, if_false] at failed
      rcases Step.result_bind_eq_error.mp failed with attempt | ⟨_, _, _, _, failed⟩
      · obtain ⟨_, _, made⟩ := Step.apart_eq_error.mp (Outcome.eq_of_result attempt)
        exact .inr ⟨rfl, congrArg Outcome.result made⟩
      · cases failed

theorem atomic_encrypt : Step.Atomic (encrypt suite config address plaintext) := by
  have sending (ours theirs : PublicKey) (record : SessionRecord) :
      Step.Atomic (do
        let made ← (Step.apart
          (SessionState.encrypt suite config ours theirs plaintext) record.current :
            Step Store (CiphertextMessage × SessionState))
        modify (Store.putSession address (record.setCurrent made.2))
        pure made.1 : Step Store CiphertextMessage) := by
    apply (Step.reading_apart _ _).bind_atomic
    intro made
    exact Step.atomic_modify _ _
  apply reading_existing.bind_atomic
  intro record
  apply (Step.reading_lift _).bind_atomic
  intro identities
  apply Step.reading_get.bind_atomic
  intro store
  dsimp only
  split
  · apply (Step.reading_refuse _).bind_atomic
    intro refused
    exact sending _ _ _
  · exact sending _ _ _

theorem decryptMessage_eq_ok {message : SignalMessage}
    (succeeded : decryptMessage suite config address message receiver store random =
      ⟨.ok plaintext, after, rest⟩) :
    (store.session address).isFresh = false ∧ receiver plaintext = .ok () ∧
      ∃ record, SessionRecord.decrypt suite config message (store.session address) random =
        ⟨.ok plaintext, record, rest⟩ ∧ after = store.putSession address record := by
  unfold decryptMessage at succeeded
  obtain ⟨_, _, _, found, opened⟩ := Step.bind_eq_ok.mp succeeded
  obtain ⟨notFresh, rfl, rfl, rfl⟩ := existing_eq_ok.mp found
  obtain ⟨⟨text, record⟩, _, _, attempt, taken⟩ := Step.bind_eq_ok.mp opened
  obtain ⟨rfl, decrypted⟩ := Step.apart_eq_ok.mp attempt
  obtain ⟨_, _, _, received, stored⟩ := Step.bind_eq_ok.mp taken
  rw [Step.lift_run] at received
  cases accepted : receiver text with
  | error failure =>
      rw [accepted] at received
      cases received
  | ok _ =>
      rw [accepted] at received
      cases received
      cases stored
      exact ⟨notFresh, accepted, record, decrypted, rfl⟩

theorem atomic_decryptMessage {message : SignalMessage} :
    Step.Atomic (decryptMessage suite config address message receiver) := by
  apply reading_existing.bind_atomic
  intro record
  apply (Step.reading_apart _ _).bind_atomic
  intro result
  exact (Step.reading_lift _).bind_atomic fun _ => Step.atomic_modify _ _

/-- The store after a first message was read: its session stored, the one-time prekey that it used
removed. -/
def withoutUsed (used : Option UInt32) (store : Store) : Store :=
  match used with
  | none => store
  | some id => store.removePreKey id

@[simp] theorem session_withoutUsed (used : Option UInt32) (store : Store) :
    (withoutUsed used store).session address = store.session address := by
  cases used <;> rfl

@[simp] theorem identities_withoutUsed (used : Option UInt32) (store : Store) :
    (withoutUsed used store).identities = store.identities := by
  cases used <;> rfl

/-- Only the one-time prekey that was used is gone. -/
theorem find?_withoutUsed_of_ne {used : Option UInt32} {id : UInt32} (notUsed : used ≠ some id)
    (store : Store) : (withoutUsed used store).preKeys.find? id = store.preKeys.find? id := by
  cases used with
  | none => rfl
  | some own =>
      have different : id ≠ own := fun same => notUsed (same ▸ rfl)
      refine (Table.find?_keep (fun key => key ≠ own) id store.preKeys).trans ?_
      simp [different]

theorem decryptPreKeyMessage_eq_ok {message : PreKeyMessage}
    (succeeded : decryptPreKeyMessage suite config address message receiver store random =
      ⟨.ok plaintext, after, rest⟩) :
    ∃ used joined pinned drawn record,
      acceptPreKeyMessage suite config address (store.session address) message store random =
        ⟨.ok (used, joined), pinned, drawn⟩ ∧
      SessionRecord.decrypt suite config message.message joined drawn =
        ⟨.ok plaintext, record, rest⟩ ∧
      receiver plaintext = .ok () ∧
      after = withoutUsed used (pinned.putSession address record) := by
  unfold decryptPreKeyMessage at succeeded
  obtain ⟨_, _, _, got, begun⟩ := Step.bind_eq_ok.mp succeeded
  cases got
  obtain ⟨⟨used, joined⟩, pinned, drawn, accepted, opened⟩ := Step.bind_eq_ok.mp begun
  obtain ⟨⟨text, record⟩, _, _, attempt, taken⟩ := Step.bind_eq_ok.mp opened
  obtain ⟨rfl, decrypted⟩ := Step.apart_eq_ok.mp attempt
  obtain ⟨_, _, _, received, stored⟩ := Step.bind_eq_ok.mp taken
  rw [Step.lift_run] at received
  cases took : receiver text with
  | error failure =>
      rw [took] at received
      cases received
  | ok _ =>
      rw [took] at received
      cases received
      cases used with
      | none =>
          cases stored
          exact ⟨none, joined, _, drawn, record, accepted, decrypted, took, rfl⟩
      | some id =>
          cases stored
          exact ⟨some id, joined, _, drawn, record, accepted, decrypted, took, rfl⟩

/-- A first message that fails was not accepted, or it failed after it was accepted. -/
theorem decryptPreKeyMessage_eq_error {message : PreKeyMessage} {failure : Failure}
    (failed : decryptPreKeyMessage suite config address message receiver store random =
      ⟨.error failure, after, rest⟩) :
    (acceptPreKeyMessage suite config address (store.session address) message store random =
        ⟨.error failure, store, rest⟩ ∧ after = store) ∨
      ∃ used joined drawn,
        acceptPreKeyMessage suite config address (store.session address) message store random =
          ⟨.ok (used, joined), after, drawn⟩ := by
  unfold decryptPreKeyMessage at failed
  rcases Step.bind_eq_error.mp failed with refused | ⟨_, _, _, got, begun⟩
  · cases refused
  cases got
  rcases Step.bind_eq_error.mp begun with refused | ⟨⟨used, joined⟩, pinned, drawn, accepted, opened⟩
  · have atomic : Step.Atomic (acceptPreKeyMessage suite config address (store.session address)
        message) := atomic_accept
    have unchanged := atomic store random failure
    rw [refused] at unchanged
    obtain rfl := unchanged rfl
    exact .inl ⟨refused, rfl⟩
  · refine .inr ⟨used, joined, drawn, ?_⟩
    suffices same : after = pinned by rw [same]; exact accepted
    rcases Step.bind_eq_error.mp opened with attempt | ⟨⟨text, record⟩, _, _, attempt, taken⟩
    · exact (Step.apart_eq_error.mp attempt).1.symm
    obtain ⟨rfl, _⟩ := Step.apart_eq_ok.mp attempt
    rcases Step.bind_eq_error.mp taken with received | ⟨_, _, _, received, stored⟩
    · rw [Step.lift_run] at received
      exact (congrArg Outcome.state received).symm
    · have middleSame := congrArg Outcome.state received
      rw [Step.lift_run] at middleSame
      subst middleSame
      cases used <;> cases stored

end Session
end DoubleRatchet
