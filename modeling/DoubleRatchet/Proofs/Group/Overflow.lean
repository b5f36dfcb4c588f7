import DoubleRatchet.Proofs.Group.Lookup
import DoubleRatchet.Proofs.Group.Renewal

/-!
# The last iteration of a sender key

A sender key may be handed out at any iteration, also at the last one. A message of the last iteration
asks for an iteration that there is not, and reading it does not end in an answer. Nothing else that a
member can be sent does that; and members that are handed keys near their beginning come nowhere near
it.
-/

namespace DoubleRatchet

namespace Window

variable {config : Config} {window : Window} {counter : UInt32} {abort : Abort}

@[simp] theorem next_keepTo : (window.keepTo config counter).next = window.next := by
  unfold keepTo
  generalize countersFrom (counter - window.next).toNat window.next = passed
  induction passed generalizing window with
  | nil => rfl
  | cons first passed ih => exact ih

/-- Only the last counter is not answered, and only by a window that may go that far. -/
theorem ask_eq_aborted : (window.ask config counter).1 = .error (.aborted abort) ↔
    abort = .overflow ∧ counter = 0xffffffff ∧
      0xffffffff ≤ window.next.toNat + config.maxForwardJumps.toNat := by
  have nextBound := window.next.toNat_lt
  have last : (0xffffffff : UInt32).toNat = 0xffffffff := rfl
  unfold ask
  split
  · rename_i behind
    rw [UInt32.lt_iff_toNat_lt] at behind
    constructor
    · intro impossible
      split at impossible <;> cases impossible
    · rintro ⟨_, rfl, _⟩
      omega
  · rename_i notBehind
    have difference := UInt32.toNat_sub_of_le _ _ (UInt32.not_lt.mp notBehind)
    split
    · rename_i far
      rw [UInt32.lt_iff_toNat_lt] at far
      refine ⟨nofun, ?_⟩
      rintro ⟨_, rfl, near⟩
      omega
    · rename_i near
      rw [UInt32.lt_iff_toNat_lt] at near
      split
      · rename_i isLast
        subst isLast
        constructor
        · intro aborted
          cases aborted
          exact ⟨rfl, rfl, by omega⟩
        · rintro ⟨rfl, _⟩
          rfl
      · rename_i notLast
        exact ⟨nofun, fun ⟨_, isLast, _⟩ => absurd isLast notLast⟩

/-- A window moves at most past the furthest counter that it may go to. -/
theorem next_ask_le : (window.ask config counter).2.next.toNat ≤
    window.next.toNat + (config.maxForwardJumps.toNat + 1) := by
  unfold ask
  split
  · split <;> exact Nat.le_add_right _ _
  · rename_i notBehind
    have difference := UInt32.toNat_sub_of_le _ _ (UInt32.not_lt.mp notBehind)
    split
    · exact Nat.le_add_right _ _
    · rename_i near
      rw [UInt32.lt_iff_toNat_lt] at near
      split
      · rw [next_keepTo]
        exact Nat.le_add_right _ _
      · rename_i notLast
        dsimp only
        rw [toNat_succ_of_ne notLast]
        omega

end Window

namespace SenderKeyState

variable {suite : Suite} {config : Config} {state after : SenderKeyState} {iteration : UInt32}
  {key : SenderMessageKey} {failure : Failure} {random rest : Randomness}

/-- A state fails as its window does. -/
theorem result_messageKey_eq_error :
    (messageKey suite config iteration state random).result = .error failure ↔
      (state.window.ask config iteration).1 = .error failure := by
  obtain ⟨result, after, given, verdict, _⟩ :=
    messageKey_window suite config iteration state random
  rw [given, ← verdict]
  cases result with
  | error reason => simp only [Except.map, Except.error.injEq]
  | ok key => exact ⟨nofun, nofun⟩

theorem iteration_le_of_messageKey
    (given : messageKey suite config iteration state random = ⟨.ok key, after, rest⟩) :
    after.chainKey.iteration.toNat ≤
      state.chainKey.iteration.toNat + (config.maxForwardJumps.toNat + 1) := by
  obtain ⟨result, other, same, _, window_eq⟩ :=
    messageKey_window suite config iteration state random
  cases given.symm.trans same
  have moved : after.window.next.toNat ≤ state.window.next.toNat + _ :=
    window_eq ▸ Window.next_ask_le
  exact moved

end SenderKeyState

namespace Group

variable {suite : Suite} {config : Config} {name : SenderKeyName} {data plaintext : Bytes}
  {store : Store} {message : SenderKeyMessage} {state final : SenderKeyState} {abort : Abort}
  {random rest : Randomness} {first count : Nat}

/-! ## What aborts a decryption -/

/-- A message is not answered by the state that answers for it just when the state knows its signature
and cannot move past its iteration. -/
theorem result_decryptWith_eq_aborted :
    (decryptWith suite config message state random).result = .error (.aborted abort) ↔
      message.verifySignature suite state.signingKey = true ∧
        (SenderKeyState.messageKey suite config message.iteration state random).result =
          .error (.aborted abort) := by
  cases verified : message.verifySignature suite state.signingKey with
  | false =>
      unfold decryptWith
      rw [Step.get_bind]
      simp only [verified, Bool.not_false, if_true]
      exact ⟨nofun, nofun⟩
  | true =>
      rw [decryptWith_of_verified verified, Step.result_bind_eq_error]
      constructor
      · rintro (asked | ⟨_, _, _, _, opening⟩)
        · exact ⟨rfl, asked⟩
        · rcases Suite.openText_eq_error opening with ⟨_, impossible⟩ | impossible <;>
            cases impossible
      · exact fun ⟨_, asked⟩ => .inl asked

/-- A member that has no state for a message, or cannot read it, refuses it. -/
theorem result_decrypt_eq_aborted :
    (decrypt suite config name data Receiver.accept store random).result = .error (.aborted abort) ↔
      ∃ message state, SenderKeyMessage.parse data = .ok message ∧
        (store.senderKey name).withId message.keyId = .ok state ∧
        (decryptWith suite config message state random).result = .error (.aborted abort) := by
  constructor
  · intro aborted
    by_cases empty : (store.senderKey name).isEmpty = true
    · rw [decrypt_of_empty empty] at aborted
      cases aborted
    cases parsed : SenderKeyMessage.parse data with
    | error failure =>
        unfold decrypt at aborted
        rw [Step.get_bind] at aborted
        dsimp only at aborted
        rw [if_neg empty, parsed] at aborted
        cases aborted
    | ok message =>
        cases found : (store.senderKey name).withId message.keyId with
        | error failure =>
            rw [decrypt_of_missing parsed empty found] at aborted
            unfold SenderKeyRecord.withId at found
            split at found
            · cases found
              cases aborted
            · cases found
        | ok state =>
            refine ⟨message, state, rfl, found, ?_⟩
            rcases opened : decryptWith suite config message state random with
              ⟨failure | plaintext, final, rest⟩
            · rw [decrypt_of_failed parsed found opened] at aborted
              exact aborted
            · rw [decrypt_eq_ok.mpr ⟨message, state, final, parsed, found, opened, rfl, rfl⟩] at aborted
              cases aborted
  · rintro ⟨message, state, parsed, found, aborted⟩
    rw [decrypt_of_failed parsed found (Outcome.eq_of_result aborted)]

/-- The data are a message of the last iteration, signed with the key that answers for it, and the
chain of this key may move that far. -/
def Exhausts (suite : Suite) (config : Config) (name : SenderKeyName) (data : Bytes)
    (store : Store) : Prop :=
  ∃ message state, SenderKeyMessage.parse data = .ok message ∧
    (store.senderKey name).withId message.keyId = .ok state ∧
    message.verifySignature suite state.signingKey = true ∧ message.iteration = 0xffffffff ∧
    0xffffffff ≤ state.chainKey.iteration.toNat + config.maxForwardJumps.toNat

theorem result_decrypt_eq_aborted_iff :
    (decrypt suite config name data Receiver.accept store random).result = .error (.aborted abort) ↔
      abort = .overflow ∧ Exhausts suite config name data store := by
  simp only [result_decrypt_eq_aborted, result_decryptWith_eq_aborted,
    SenderKeyState.result_messageKey_eq_error, Window.ask_eq_aborted, Exhausts]
  constructor
  · rintro ⟨message, state, parsed, found, verified, isOverflow, last, near⟩
    exact ⟨isOverflow, message, state, parsed, found, verified, last, near⟩
  · rintro ⟨isOverflow, message, state, parsed, found, verified, last, near⟩
    exact ⟨message, state, parsed, found, verified, isOverflow, last, near⟩

/-! ## Members far from the last iteration -/

/-- The operation hands out no key beyond an iteration. -/
def Operation.BeginsBy (first : Nat) : Operation → Prop
  | create _ => True
  | process _ message => message.iteration.toNat ≤ first
  | encrypt _ _ => True
  | decrypt _ _ _ => True

/-- The stores that a member without sender keys can come to with so many operations, when it is handed
no key beyond an iteration. -/
inductive Within (suite : Suite) (config : Config) (first : Nat) : Nat → Store → Prop where
  | start {store : Store} (none : store.senderKeys = .empty) : Within suite config first 0 store
  | step {count : Nat} {store : Store} (within : Within suite config first count store)
      (operation : Operation) (begins : operation.BeginsBy first) (random : Randomness) :
      Within suite config first (count + 1) (operation.after suite config store random)

/-- No chain of a record is past an iteration. -/
def Behind (limit : Nat) (record : SenderKeyRecord) : Prop :=
  ∀ state ∈ record.states, state.chainKey.iteration.toNat ≤ limit

section Behind

variable {limit more : Nat} {record : SenderKeyRecord} {operation : Operation}

theorem Behind.mono (behind : Behind limit record) (le : limit ≤ more) : Behind more record :=
  fun state member => Nat.le_trans (behind state member) le

theorem Behind.update (behind : Behind limit record)
    (stateBehind : state.chainKey.iteration.toNat ≤ limit) : Behind limit (record.update state) := by
  intro other member
  rcases SenderKeyRecord.mem_replaceFirst member with rfl | old
  · exact stateBehind
  · exact behind other old

theorem given_of_decryptWith
    (read : decryptWith suite config message state random = ⟨.ok plaintext, final, rest⟩) :
    ∃ key drawn, SenderKeyState.messageKey suite config message.iteration state random =
      ⟨.ok key, final, drawn⟩ := by
  obtain ⟨verified, _⟩ := decryptWith_eq_ok read
  rw [decryptWith_of_verified verified] at read
  obtain ⟨key, middle, drawn, given, opening⟩ := Step.bind_eq_ok.mp read
  simp only [Step.lift_run, Outcome.mk.injEq] at opening
  obtain ⟨_, rfl, _⟩ := opening
  exact ⟨key, drawn, given⟩

/-- Reading moves one chain, and not further than a message may be ahead. -/
theorem Behind.decrypt (behind : Behind limit (store.senderKey name)) (other : SenderKeyName)
    (data : Bytes) (receiver : Receiver) (random : Randomness) :
    Behind (limit + (config.maxForwardJumps.toNat + 1))
      ((decrypt suite config other data receiver store random).state.senderKey name) := by
  have wider := behind.mono (Nat.le_add_right limit (config.maxForwardJumps.toNat + 1))
  cases result : (Group.decrypt suite config other data receiver store random).result with
  | error failure =>
      rw [atomic_decrypt store random failure result]
      exact wider
  | ok plaintext =>
      obtain ⟨message, state, final, _, found, read, _, put⟩ :=
        decrypt_eq_ok.mp (Outcome.eq_of_result result)
      rw [put]
      by_cases same : name = other
      · subst same
        obtain ⟨key, drawn, given⟩ := given_of_decryptWith read
        have moved := SenderKeyState.iteration_le_of_messageKey given
        have before := behind state (SenderKeyRecord.mem_of_withId found)
        rw [Store.senderKey_putSenderKey]
        exact wider.update (by omega)
      · rw [Store.senderKey_putSenderKey_of_ne _ _ _ same]
        exact wider

theorem Behind.after (behind : Behind limit (store.senderKey name)) (le : first ≤ limit)
    (begins : operation.BeginsBy first) (random : Randomness) :
    Behind (limit + (config.maxForwardJumps.toNat + 1))
      ((operation.after suite config store random).senderKey name) := by
  have wider := behind.mono (Nat.le_add_right limit (config.maxForwardJumps.toNat + 1))
  have changes : Changes suite config name (store.senderKey name) operation _ :=
    operation.changes name store random
  cases operation with
  | decrypt other data receiver => exact behind.decrypt other data receiver random
  | create other =>
      generalize (Operation.after suite config (.create other) store random).senderKey name = record
        at changes
      cases changes with
      | stays => exact wider
      | made =>
          intro state member
          rw [List.mem_singleton.mp member]
          exact Nat.zero_le _
  | process other message =>
      generalize (Operation.after suite config (.process other message) store random).senderKey
        name = record at changes
      cases changes with
      | stays => exact wider
      | received =>
          have handed : message.iteration.toNat ≤ first := begins
          intro state member
          rcases List.mem_cons.mp ((List.take_subset _ _) member) with rfl | old
          · dsimp only
            omega
          · exact wider state old
  | encrypt other plaintext =>
      generalize (Operation.after suite config (.encrypt other plaintext) store random).senderKey
        name = record at changes
      cases changes with
      | stays => exact wider
      | sent found moved =>
          have before := behind _ (SenderKeyRecord.mem_of_withId found)
          have next := SenderChainKey.toNat_iteration_of_next moved
          exact wider.update (by dsimp only; omega)

/-- Every operation moves a chain by so much at most. -/
theorem Within.behind (within : Within suite config first count store) (name : SenderKeyName) :
    Behind (first + count * (config.maxForwardJumps.toNat + 1)) (store.senderKey name) := by
  induction within with
  | start none =>
      intro state member
      rw [Store.senderKey, none] at member
      cases member
  | @step count store _ operation begins random ih =>
      have after : Behind _ ((operation.after suite config store random).senderKey name) :=
        ih.after (Nat.le_add_right _ _) begins random
      rw [Nat.add_mul, Nat.one_mul, ← Nat.add_assoc]
      exact after

end Behind

theorem Within.not_exhausts (within : Within suite config first count store)
    (room : first + count * (config.maxForwardJumps.toNat + 1) + config.maxForwardJumps.toNat <
      0xffffffff) : ¬Exhausts suite config name data store := by
  rintro ⟨message, state, _, found, _, _, near⟩
  have behind := within.behind name state (SenderKeyRecord.mem_of_withId found)
  omega

/-- A key that is handed out near the last iteration can be brought past it by its owner. -/
theorem exhausts_process (positive : 0 < config.maxSenderKeyStates) {name : SenderKeyName}
    {distribution : DistributionMessage} (parsed : SenderKeyMessage.parse data = .ok message)
    (same : message.keyId = distribution.id)
    (verified : message.verifySignature suite distribution.signingKey = true)
    (last : message.iteration = 0xffffffff)
    (near : 0xffffffff ≤ distribution.iteration.toNat + config.maxForwardJumps.toNat)
    (store : Store) (random : Randomness) :
    Exhausts suite config name data (process config name distribution store random).state := by
  refine ⟨message, .received distribution.id distribution.iteration distribution.chainKey
    distribution.signingKey, parsed, ?_, verified, last, near⟩
  rw [same]
  exact withId_process positive name distribution store random

/-! ## The main statement -/

/-- A member answers all data but a message of the last iteration, signed with a key that may move that
far. Reading such a message aborts and poisons the lock, so that nothing in the store can be used any
more. Whoever hands out a key near the last iteration can send it; a member that was handed no such
key and has done little enough cannot be sent it. -/
theorem only_the_last_iteration_aborts (suite : Suite) (config : Config) (name : SenderKeyName)
    (data : Bytes) :
    (∀ store random abort,
      (decrypt suite config name data Receiver.accept store random).result =
        .error (.aborted abort) ↔ abort = .overflow ∧ Exhausts suite config name data store) ∧
    (∀ store random, Exhausts suite config name data store →
      let outcome := Locked.run (decrypt suite config name data Receiver.accept)
        { content := store } random
      outcome.result = .error (.aborted .overflow) ∧
      outcome.state = { content := store, poisoned := true } ∧
      ∀ (α : Type) (step : Step Store α) later,
        (Locked.run step outcome.state later).result = .error (.refused .lockPoisoned)) ∧
    (∀ store random distribution message, 0 < config.maxSenderKeyStates →
      SenderKeyMessage.parse data = .ok message → message.keyId = distribution.id →
      message.verifySignature suite distribution.signingKey = true →
      message.iteration = 0xffffffff →
      0xffffffff ≤ distribution.iteration.toNat + config.maxForwardJumps.toNat →
      Exhausts suite config name data (process config name distribution store random).state) ∧
    ∀ first count store, Within suite config first count store →
      first + count * (config.maxForwardJumps.toNat + 1) + config.maxForwardJumps.toNat <
        0xffffffff →
      ∀ random abort, (decrypt suite config name data Receiver.accept store random).result ≠
        .error (.aborted abort) := by
  refine ⟨fun _ _ _ => result_decrypt_eq_aborted_iff, fun store random exhausts => ?_,
    fun store random _ _ positive parsed same verified last near =>
      exhausts_process positive parsed same verified last near store random,
    fun first count store within room random abort aborted => ?_⟩
  · have aborted : (decrypt suite config name data Receiver.accept store random).result =
        .error (.aborted .overflow) := result_decrypt_eq_aborted_iff.mpr ⟨rfl, exhausts⟩
    have unchanged := atomic_decrypt store random _ aborted
    dsimp only
    rw [Locked.run_of_free rfl, aborted, unchanged]
    exact ⟨rfl, rfl, fun α step later => congrArg Outcome.result (Locked.run_of_poisoned rfl)⟩
  · exact within.not_exhausts room (result_decrypt_eq_aborted_iff.mp aborted).2

/-- The speaker's key, handed out at its last iteration. -/
def lateInvitation : DistributionMessage := { invitation with iteration := 0xffffffff }

/-- What only this key could sign. -/
def lastWord : Bytes :=
  (SenderKeyMessage.make Suite.additive Envelope.currentVersion
    { keyId := 5, iteration := 0xffffffff, ciphertext := [1, 2, 3] }
    (KeyPair.additive 8).privateKey (.repeated 0)).1.serialized

/-- A member that was invited late. -/
def lateListener : Store :=
  (process {} talk lateInvitation { identity := KeyPair.additive 1, registrationId := 1 }
    (.repeated 0)).state

/-- The last word takes all of the late listener's store away from it, and does nothing to one that was
invited at the beginning. -/
theorem last_word_poisons :
    Reachable Suite.additive {} lateListener ∧
      (Locked.run (decrypt Suite.additive {} talk lastWord Receiver.accept)
        { content := lateListener } (.repeated 0)).result = .error (.aborted .overflow) ∧
      (Locked.run (decrypt Suite.additive {} talk lastWord Receiver.accept)
        { content := lateListener } (.repeated 0)).state.poisoned = true ∧
      ∀ abort, (decrypt Suite.additive {} talk lastWord Receiver.accept listener
        (.repeated 0)).result ≠ .error (.aborted abort) := by
  obtain ⟨_, poisons, reaches, early⟩ :=
    only_the_last_iteration_aborts Suite.additive {} talk lastWord
  have header : (SenderKeyMessage.parse lastWord).toOption.map (fun message =>
      (message.keyId, message.iteration)) = some (invitation.id, 0xffffffff) := by decide +kernel
  obtain ⟨message, found, fields⟩ := Option.map_eq_some_iff.mp header
  obtain ⟨same, last⟩ := Prod.mk.inj fields
  have exhausts := reaches { identity := KeyPair.additive 1, registrationId := 1 } (.repeated 0)
    lateInvitation message (by decide) (eq_ok_of_toOption found) same rfl last (by decide +kernel)
  obtain ⟨aborted, poisoned, _⟩ := poisons lateListener (.repeated 0) exhausts
  have invitedEarly : Within Suite.additive {} 0 1 listener :=
    (Within.start rfl).step (.process talk invitation) (show invitation.iteration.toNat ≤ 0 by
      decide +kernel) (.repeated 0)
  exact ⟨(Reachable.start rfl).step (.process talk lateInvitation) (.repeated 0), aborted,
    congrArg Locked.poisoned poisoned, early 0 1 listener invitedEarly (by decide) (.repeated 0)⟩

end Group
end DoubleRatchet
