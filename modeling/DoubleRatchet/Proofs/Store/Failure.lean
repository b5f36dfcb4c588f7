import DoubleRatchet.Proofs.Group.Replay
import DoubleRatchet.Proofs.Session.Operation

/-!
# Calls that fail leave no trace

A call that fails leaves the store as it was, unless it reads a first message, which pins an identity
before it is decrypted. So calls that fail can be left out of a run: the answers to all other calls stay
the same, and so does the store at the end, as long as each call draws from a stream of its own.
-/

namespace DoubleRatchet

/-! ## Handshakes -/

namespace Handshake

variable {suite : Suite} {config : Config}

theorem Initiator.atomic_establish (keys : Initiator) :
    Step.Atomic (keys.establish suite config) := by
  apply (Step.reading_lift _).bind_atomic
  intro secret
  apply Step.reading_get.bind_atomic
  intro state
  apply (Step.reading_draw _).bind_atomic
  intro ratchet
  apply (Step.reading_lift _).bind_atomic
  intro second
  exact Step.atomic_modify_only _

theorem Responder.atomic_establish (keys : Responder) : Step.Atomic (keys.establish suite) := by
  apply (Step.reading_lift _).bind_atomic
  intro secret
  apply Step.reading_get.bind_atomic
  intro state
  exact Step.atomic_modify_only _

theorem Symmetric.atomic_establish (keys : Symmetric) :
    Step.Atomic (keys.establish suite config) := by
  unfold Symmetric.establish
  split
  · exact keys.asInitiator.atomic_establish
  · exact keys.asResponder.atomic_establish

end Handshake

namespace Group

variable {suite : Suite} {config : Config} {name : SenderKeyName}

/-- A distribution message can always be made. -/
theorem create_isOk (store : Store) (random : Randomness) :
    ∃ message, (create suite name store random).result = .ok message := by
  rw [create_eq]
  cases states : (store.senderKey name).states with
  | nil =>
      have empty : (store.senderKey name).isEmpty = true := List.isEmpty_iff.mpr states
      obtain ⟨keyId, seed, signingKey, _, own⟩ := own_of_generateSenderKey suite random
      obtain ⟨state, newest⟩ : ∃ state, (generateSenderKey suite random).1.newest = .ok state := by
        rw [own]
        exact ⟨_, rfl⟩
      rw [createFrom_of_empty empty newest]
      exact ⟨_, rfl⟩
  | cons state older =>
      have newest : (store.senderKey name).newest = .ok state := by
        unfold SenderKeyRecord.newest
        rw [states]
      rw [createFrom_of_newest _ newest]
      exact ⟨_, rfl⟩

theorem atomic_create : Step.Atomic (create suite name) := by
  intro store random failure failed
  obtain ⟨message, made⟩ := create_isOk store random
  rw [made] at failed
  cases failed

end Group

/-! ## Calls -/

/-- What a party does to its store, for itself or for a group. -/
inductive Call where
  | session (operation : Operation)
  | group (operation : Group.Operation)

inductive Answer where
  | done
  | usedPreKey (id : Option UInt32)
  | message (message : CiphertextMessage)
  | bytes (bytes : Bytes)
  | distribution (message : DistributionMessage)

theorem Step.Atomic.map {σ α β : Type} {step : Step σ α} (atomic : Step.Atomic step) (view : α → β) :
    Step.Atomic (view <$> step) :=
  atomic.bind_total fun _ _ _ _ impossible => nomatch impossible

namespace Call

variable (suite : Suite) (config : Config)

def perform : Call → Step Store Answer
  | session (.processBundle peer bundle) =>
      (fun _ => .done) <$> Session.processBundle suite config peer bundle
  | session (.processPreKeyMessage peer message) =>
      .usedPreKey <$> Session.processPreKeyMessage suite config peer message
  | session (.encrypt peer plaintext) => .message <$> Session.encrypt suite config peer plaintext
  | session (.decrypt peer message receiver) =>
      .bytes <$> Session.decrypt suite config peer message receiver
  | session (.maintain upkeep) => (fun _ => .done) <$> (modify upkeep.apply : Step Store PUnit)
  | group (.create name) => .distribution <$> Group.create suite name
  | group (.process name message) => (fun _ => .done) <$> Group.process config name message
  | group (.encrypt name plaintext) => .bytes <$> Group.encrypt suite config name plaintext
  | group (.decrypt name data receiver) => .bytes <$> Group.decrypt suite config name data receiver

/-- All calls but those that read a first message. -/
def Traceless : Call → Prop
  | session (.decrypt _ (.preKey _) _) => False
  | _ => True

instance : DecidablePred Traceless
  | session (.decrypt _ (.preKey _) _) => isFalse id
  | session (.decrypt _ (.signal _) _) | session (.processBundle _ _) | session (.encrypt _ _)
  | session (.processPreKeyMessage _ _) | session (.maintain _) | group _ => isTrue trivial

variable {suite config} {call : Call}

theorem atomic_perform (traceless : call.Traceless) : Step.Atomic (call.perform suite config) := by
  cases call with
  | session operation =>
      cases operation with
      | processBundle peer bundle => exact Session.atomic_processBundle.map _
      | processPreKeyMessage peer message => exact Session.atomic_processPreKeyMessage.map _
      | encrypt peer plaintext => exact Session.atomic_encrypt.map _
      | decrypt peer message receiver =>
          cases message with
          | signal message => exact Session.atomic_decryptMessage.map _
          | preKey message => exact traceless.elim
      | maintain upkeep => exact (Step.atomic_modify_only _).map _
  | group operation =>
      cases operation with
      | create name => exact Group.atomic_create.map _
      | process name message => exact (Step.atomic_modify_only _).map _
      | encrypt name plaintext => exact Group.atomic_encrypt.map _
      | decrypt name data receiver => exact Group.atomic_decrypt.map _

end Call

def isRefused {α : Type} : Except Failure α → Bool
  | .error (.refused _) => true
  | _ => false

/-- A refused step that changes nothing when it fails leaves the lock as it was. -/
theorem Locked.state_of_refused {σ α : Type} {step : Step σ α} {lock : Locked σ} {random : Randomness}
    (atomic : Step.Atomic step) (refused : isRefused (Locked.run step lock random).result = true) :
    (Locked.run step lock random).state = lock := by
  rcases lock with ⟨content, poisoned⟩
  cases poisoned with
  | true => rfl
  | false =>
      rw [Locked.run_of_free rfl] at refused ⊢
      have unchanged := atomic content random
      dsimp only at refused ⊢
      generalize step content random = outcome at refused unchanged ⊢
      rcases outcome with ⟨(error | abort) | value, after, rest⟩
      · rw [unchanged _ rfl]
        rfl
      · cases refused
      · cases refused

/-! ## Runs -/

/-- A call with the stream that it draws from; an extra one may be left out. -/
structure Entry where
  call : Call
  random : Randomness
  extra : Bool

namespace Entry

variable (suite : Suite) (config : Config)

def run (entry : Entry) (lock : Locked Store) : Outcome (Locked Store) Answer :=
  Locked.run (entry.call.perform suite config) lock entry.random

/-- The answer to each call of a run. -/
def answers : Locked Store → List Entry → List (Entry × Except Failure Answer)
  | _, [] => []
  | lock, entry :: later =>
      (entry, (entry.run suite config lock).result) ::
        answers (entry.run suite config lock).state later

def finalLock (lock : Locked Store) (entries : List Entry) : Locked Store :=
  entries.foldl (fun lock entry => (entry.run suite config lock).state) lock

variable {suite config}

/-- The entry may be left out: its call leaves no trace, and it is refused. -/
def Refused (played : Entry × Except Failure Answer) : Prop :=
  played.1.call.Traceless ∧ isRefused played.2 = true

instance : DecidablePred Refused := fun _ => inferInstanceAs (Decidable (_ ∧ _))

theorem answers_filter {lock : Locked Store} {entries : List Entry}
    (refused : ∀ played ∈ answers suite config lock entries, played.1.extra = true → Refused played) :
    answers suite config lock (entries.filter fun entry => !entry.extra) =
        (answers suite config lock entries).filter (fun played => !played.1.extra) ∧
      finalLock suite config lock (entries.filter fun entry => !entry.extra) =
        finalLock suite config lock entries := by
  induction entries generalizing lock with
  | nil => exact ⟨rfl, rfl⟩
  | cons entry later ih =>
      obtain ⟨first, others⟩ := List.forall_mem_cons.mp refused
      obtain ⟨sameAnswers, sameLock⟩ := ih others
      cases isExtra : entry.extra with
      | true =>
          obtain ⟨traceless, result⟩ := first isExtra
          have unchanged : (entry.run suite config lock).state = lock :=
            Locked.state_of_refused (Call.atomic_perform traceless) result
          rw [unchanged] at sameAnswers sameLock
          simp only [answers, finalLock, List.filter_cons, isExtra, Bool.not_true, Bool.false_eq_true,
            if_false, List.foldl_cons, unchanged]
          exact ⟨sameAnswers, sameLock⟩
      | false =>
          simp only [answers, finalLock, List.filter_cons, isExtra, Bool.not_false, if_true,
            List.foldl_cons, List.cons.injEq, true_and]
          exact ⟨sameAnswers, sameLock⟩

end Entry

theorem failed_calls_leave_no_trace (suite : Suite) (config : Config) :
    (∀ call : Call, call.Traceless → Step.Atomic (call.perform suite config) ∧
        ∀ lock random, isRefused (Locked.run (call.perform suite config) lock random).result = true →
          (Locked.run (call.perform suite config) lock random).state = lock) ∧
      (∀ keys : Handshake.Initiator, Step.Atomic (keys.establish suite config)) ∧
      (∀ keys : Handshake.Responder, Step.Atomic (keys.establish suite)) ∧
      (∀ keys : Handshake.Symmetric, Step.Atomic (keys.establish suite config)) ∧
      ∀ (lock : Locked Store) (entries : List Entry),
        (∀ played ∈ Entry.answers suite config lock entries, played.1.extra = true →
          Entry.Refused played) →
        Entry.answers suite config lock (entries.filter fun entry => !entry.extra) =
            (Entry.answers suite config lock entries).filter (fun played => !played.1.extra) ∧
          Entry.finalLock suite config lock (entries.filter fun entry => !entry.extra) =
            Entry.finalLock suite config lock entries := by
  refine ⟨?call, fun keys => keys.atomic_establish, fun keys => keys.atomic_establish,
    fun keys => keys.atomic_establish, fun lock entries => Entry.answers_filter⟩
  case call =>
    intro call traceless
    have atomic : Step.Atomic (call.perform suite config) := Call.atomic_perform traceless
    exact ⟨atomic, fun lock random => Locked.state_of_refused atomic⟩

/-- A message that skips some keys of the caller's chain, and whose tag is wrong. -/
def SignalMessage.forgedCall : SignalMessage :=
  .make Suite.additive {} Envelope.currentVersion []
    { ratchetKey := CiphertextMessage.firstCall.inner.ratchetKey
      counter := 5
      previousCounter := 0
      ciphertext := [] }
    (KeyPair.additive 4).publicKey (KeyPair.additive 1).publicKey

/-- The newcomer reads the second call after it has refused a forged one, and after it was kept from
taking the second call for the first time. -/
def disturbedCall : List Entry :=
  let refusing : Receiver := fun _ => .error (.noSession (.peer .caller))
  [⟨.session (.decrypt .caller (.signal .forgedCall) Receiver.accept), .repeated 0, true⟩,
    ⟨.session (.decrypt .caller (.signal CiphertextMessage.secondCall.inner) refusing), .repeated 1, true⟩,
    ⟨.session (.decrypt .caller .secondCall Receiver.accept), .repeated 2, false⟩]

theorem disturbed_call_leaves_no_trace :
    (∀ played ∈ Entry.answers Suite.additive {} { content := .called } disturbedCall,
        played.1.extra = true → Entry.Refused played) ∧
      Entry.finalLock Suite.additive {} { content := .called }
          (disturbedCall.filter fun entry => !entry.extra) =
        Entry.finalLock Suite.additive {} { content := .called } disturbedCall := by
  have refused : ∀ played ∈ Entry.answers Suite.additive {} { content := .called } disturbedCall,
      played.1.extra = true → Entry.Refused played := by decide +kernel
  obtain ⟨_, _, _, _, runs⟩ := failed_calls_leave_no_trace Suite.additive {}
  obtain ⟨_, sameLock⟩ := runs { content := .called } disturbedCall refused
  exact ⟨refused, sameLock⟩

end DoubleRatchet
