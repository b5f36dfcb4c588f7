import DoubleRatchet.Proofs.Group.Exchange
import DoubleRatchet.Proofs.Suite

/-!
# Replayed group messages

A message of a sender key that was read is refused from then on, whatever other messages are read and
whatever sender keys are handed out, until a distribution message hands out a chain of its key id that
begins at or before it. Such a distribution message makes the party forget what it has read: the
message is read again as if for the first time.
-/

namespace DoubleRatchet
namespace Group

/-- What a member of groups does. -/
inductive Operation where
  | create (name : SenderKeyName)
  | process (name : SenderKeyName) (message : DistributionMessage)
  | encrypt (name : SenderKeyName) (plaintext : Bytes)
  | decrypt (name : SenderKeyName) (data : Bytes) (receiver : Receiver)

namespace Operation

/-- The store after an operation, whether it succeeds or fails. -/
def after (suite : Suite) (config : Config) : Operation → Store → Randomness → Store
  | create name, store, random => (Group.create suite name store random).state
  | process name message, store, random => (Group.process config name message store random).state
  | encrypt name plaintext, store, random =>
      (Group.encrypt suite config name plaintext store random).state
  | decrypt name data receiver, store, random =>
      (Group.decrypt suite config name data receiver store random).state

/-- The operation may hand out a chain of the key id that has not passed the iteration. -/
def Renews (name : SenderKeyName) (keyId iteration : UInt32) : Operation → Prop
  | create other => other = name
  | process other message =>
      other = name ∧ message.id = keyId ∧ message.iteration ≤ iteration
  | encrypt _ _ => False
  | decrypt _ _ _ => False

end Operation

/-- The stores that a member can come to from one without sender keys. -/
inductive Reachable (suite : Suite) (config : Config) : Store → Prop where
  | start {store : Store} (none : store.senderKeys = .empty) : Reachable suite config store
  | step {store : Store} (reachable : Reachable suite config store) (operation : Operation)
      (random : Randomness) : Reachable suite config (operation.after suite config store random)

/-- The stores that a member can come to from a given one with certain operations. -/
inductive Later (suite : Suite) (config : Config) (allowed : Operation → Prop) (store : Store) :
    Store → Prop where
  | now : Later suite config allowed store store
  | step {middle : Store} (later : Later suite config allowed store middle) (operation : Operation)
      (permitted : allowed operation) (random : Randomness) :
      Later suite config allowed store (operation.after suite config middle random)

/-! ## What an operation does to the record of a name -/

inductive Changes (suite : Suite) (config : Config) (name : SenderKeyName)
    (record : SenderKeyRecord) : Operation → SenderKeyRecord → Prop where
  | stays (operation : Operation) : Changes suite config name record operation record
  | made (keyId : UInt32) (seed : Block 32) (signingKey : KeyPair) :
      Changes suite config name record (.create name) (.own keyId 0 seed signingKey)
  | received (message : DistributionMessage) :
      Changes suite config name record (.process name message)
        (record.add config message.id message.iteration message.chainKey message.signingKey)
  | sent {state : SenderKeyState} {next : SenderChainKey} {plaintext : Bytes}
      (found : record.withId state.keyId = .ok state)
      (moved : state.chainKey.next suite = .ok next) :
      Changes suite config name record (.encrypt name plaintext)
        (record.update { state with chainKey := next })
  | read {state final : SenderKeyState} {keyId iteration : UInt32} {key : SenderMessageKey}
      {data : Bytes} {receiver : Receiver} (found : record.withId keyId = .ok state)
      (gives : SenderKeyState.Gives suite config iteration state key final) :
      Changes suite config name record (.decrypt name data receiver) (record.update final)

variable {suite : Suite} {config : Config} {name : SenderKeyName} {operation : Operation}
  {record after : SenderKeyRecord} {store final : Store} {random rest : Randomness}
  {state : SenderKeyState} {keyId iteration : UInt32}

/-- A change of the record of one name, looked at from any name. -/
theorem changes_put {other : SenderKeyName} (store : Store)
    (stays : Changes suite config name (store.senderKey name) operation (store.senderKey name))
    (changes : name = other → Changes suite config name (store.senderKey name) operation after) :
    Changes suite config name (store.senderKey name) operation
      ((store.putSenderKey other after).senderKey name) := by
  by_cases same : name = other
  · have changed := changes same
    subst same
    rw [Store.senderKey_putSenderKey]
    exact changed
  · rw [Store.senderKey_putSenderKey_of_ne _ _ _ same]
    exact stays

theorem Operation.changes (operation : Operation) (name : SenderKeyName) (store : Store)
    (random : Randomness) :
    Changes suite config name (store.senderKey name) operation
      ((operation.after suite config store random).senderKey name) := by
  cases operation with
  | create other =>
      change Changes suite config name _ _ ((Group.create suite other store random).state.senderKey name)
      rw [create_eq, state_createFrom]
      split
      · obtain ⟨keyId, seed, signingKey, _, own⟩ := own_of_generateSenderKey suite random
        rw [own]
        refine changes_put store (.stays _) ?_
        rintro rfl
        exact .made keyId seed signingKey
      · exact .stays _
  | process other message =>
      refine changes_put store (.stays _) ?_
      rintro rfl
      exact .received message
  | encrypt other plaintext =>
      change Changes suite config name _ _
        ((Group.encrypt suite config other plaintext store random).state.senderKey name)
      rcases state_encrypt suite config other plaintext store random with
        unchanged | ⟨state, next, found, moved, put⟩
      · rw [unchanged]
        exact .stays _
      · rw [put]
        refine changes_put store (.stays _) ?_
        rintro rfl
        exact .sent found moved
  | decrypt other data receiver =>
      change Changes suite config name _ _
        ((Group.decrypt suite config other data receiver store random).state.senderKey name)
      cases result : (Group.decrypt suite config other data receiver store random).result with
      | error failure =>
          rw [atomic_decrypt store random failure result]
          exact .stays _
      | ok plaintext =>
          obtain ⟨message, state, final, _, found, read, _, put⟩ :=
            decrypt_eq_ok.mp (Outcome.eq_of_result result)
          obtain ⟨_, key, gives⟩ := decryptWith_eq_ok read
          rw [put]
          refine changes_put store (.stays _) ?_
          rintro rfl
          exact .read found gives

/-! ## What operations keep -/

/-- What holds of every state that has skipped nothing, and outlasts sending and reading, holds of all
states of a record. -/
theorem Changes.keeps (changes : Changes suite config name record operation after)
    (holds : SenderKeyState → Prop) (fresh : ∀ state, state.skipped = [] → holds state)
    (sent : ∀ state next, state.chainKey.next suite = .ok next → holds state →
      holds { state with chainKey := next })
    (read : ∀ iteration state key final,
      SenderKeyState.Gives suite config iteration state key final → holds state → holds final)
    (before : ∀ state ∈ record.states, holds state) : ∀ state ∈ after.states, holds state := by
  intro state member
  cases changes with
  | stays => exact before state member
  | made =>
      rw [List.mem_singleton.mp member]
      exact fresh _ rfl
  | received message =>
      rcases List.mem_cons.mp ((List.take_subset _ _) member) with rfl | old
      · exact fresh _ rfl
      · exact before state old
  | sent found moved =>
      rcases SenderKeyRecord.mem_replaceFirst member with rfl | old
      · exact sent _ _ moved (before _ (SenderKeyRecord.mem_of_withId found))
      · exact before state old
  | read found gives =>
      rcases SenderKeyRecord.mem_replaceFirst member with rfl | old
      · exact read _ _ _ _ gives (before _ (SenderKeyRecord.mem_of_withId found))
      · exact before state old

theorem Reachable.keeps (reachable : Reachable suite config store) (name : SenderKeyName)
    (holds : SenderKeyState → Prop) (fresh : ∀ state, state.skipped = [] → holds state)
    (sent : ∀ state next, state.chainKey.next suite = .ok next → holds state →
      holds { state with chainKey := next })
    (read : ∀ iteration state key final,
      SenderKeyState.Gives suite config iteration state key final → holds state → holds final) :
    ∀ state ∈ (store.senderKey name).states, holds state := by
  induction reachable with
  | start none =>
      intro state member
      rw [Store.senderKey, none] at member
      cases member
  | @step store _ operation random ih =>
      exact (operation.changes name store random).keeps holds fresh sent read ih

theorem ordered_of_skipped (empty : state.skipped = []) : state.Ordered := by
  refine ⟨?_, fun key member => ?_⟩
  · rw [empty]
    exact .nil
  · rw [empty] at member
    cases member

/-- The caches of a record stay in order. -/
theorem Reachable.ordered (reachable : Reachable suite config store) (name : SenderKeyName) :
    ∀ state ∈ (store.senderKey name).states, state.Ordered :=
  reachable.keeps name SenderKeyState.Ordered (fun _ => ordered_of_skipped)
    (fun _ _ moved ordered => SenderKeyState.OrderedTo.moved ordered moved)
    (fun _ _ _ _ gives ordered => gives.ordered ordered)

/-- Whichever state of the record answers for the key id has spent the iteration. -/
def Spent (keyId iteration : UInt32) (record : SenderKeyRecord) : Prop :=
  ∀ state, record.withId keyId = .ok state → state.Spent iteration

theorem Spent.update {old new : SenderKeyState} (spent : Spent keyId iteration record)
    (found : record.withId new.keyId = .ok old)
    (keeps : old.Spent iteration → new.Spent iteration) :
    Spent keyId iteration (record.update new) := by
  intro state answers
  rw [SenderKeyRecord.withId_update found] at answers
  split at answers
  · rename_i same
    cases answers
    exact keeps (spent old (same ▸ found))
  · exact spent state answers

/-- One operation leaves a spent iteration spent, unless it hands out the chain again. -/
theorem Changes.spent (changes : Changes suite config name record operation after)
    (keeps : ¬operation.Renews name keyId iteration) (spent : Spent keyId iteration record) :
    Spent keyId iteration after := by
  cases changes with
  | stays => exact spent
  | made => exact absurd rfl keeps
  | received message =>
      intro state answers
      rcases SenderKeyRecord.withId_of_add answers with ⟨rfl, rfl⟩ | ⟨_, found⟩
      · refine ⟨?_, fun _ impossible => nomatch impossible⟩
        exact UInt32.not_le.mp fun before => keeps ⟨rfl, rfl, before⟩
      · exact spent state found
  | sent found moved => exact spent.update found fun spent => spent.moved moved
  | @read old final _ _ _ _ _ found gives =>
      have same : final.keyId = old.keyId := congrArg Prod.fst gives.identity_eq
      rw [← SenderKeyRecord.keyId_of_withId found, ← same] at found
      exact spent.update found gives.keeps_spent

theorem Later.spent {allowed : Operation → Prop} (later : Later suite config allowed store final)
    (keeps : ∀ operation, allowed operation → ¬operation.Renews name keyId iteration)
    (spent : Spent keyId iteration (store.senderKey name)) :
    Spent keyId iteration (final.senderKey name) := by
  induction later with
  | now => exact spent
  | @step middle _ operation permitted random ih =>
      exact (operation.changes name middle random).spent (keeps operation permitted) ih

/-! ## The main statement -/

/-- A message that was read is refused and changes nothing, after all operations that do not hand
out its chain again; the refusal names the duplicate where the state that answers for its key id
knows its signature. When the key that it was read with is handed out once more, the message is
read once more, whatever happened in between. -/
theorem read_message_is_refused_until_its_key_returns {data plaintext : Bytes}
    {message : SenderKeyMessage} {receiver : Receiver} {after : Store}
    (reachable : Reachable suite config store)
    (parsed : SenderKeyMessage.parse data = .ok message)
    (read : decrypt suite config name data receiver store random = ⟨.ok plaintext, after, rest⟩) :
    (∀ final, Later suite config
        (fun operation => ¬operation.Renews name message.keyId message.iteration) after final →
      ∀ receiver random, ∃ failure,
        decrypt suite config name data receiver final random = ⟨.error failure, final, random⟩ ∧
        ∀ state, (final.senderKey name).withId message.keyId = .ok state →
          message.verifySignature suite state.signingKey = true →
          failure = .refused (.duplicateMessage state.chainKey.iteration message.iteration)) ∧
    ∀ distribution earlier drawn, distribution.id = message.keyId →
      store = (process config name distribution earlier drawn).state →
      ∀ other drawn random,
        (decrypt suite config name data receiver
          (process config name distribution other drawn).state random).result = .ok plaintext := by
  obtain ⟨_, state, final, parsed', found, opened, accepted, rfl⟩ := decrypt_eq_ok.mp read
  cases parsed.symm.trans parsed'
  constructor
  · intro last later receiver random
    obtain ⟨_, key, gives⟩ := decryptWith_eq_ok opened
    have answers : final.keyId = message.keyId :=
      (congrArg Prod.fst gives.identity_eq).trans (SenderKeyRecord.keyId_of_withId found)
    have ordered := reachable.ordered name state (SenderKeyRecord.mem_of_withId found)
    have spent : Spent message.keyId message.iteration
        ((store.putSenderKey name ((store.senderKey name).update final)).senderKey name) := by
      intro other answered
      rw [Store.senderKey_putSenderKey, ← answers,
        SenderKeyRecord.withId_update (answers ▸ found), if_pos rfl] at answered
      cases answered
      exact gives.spends ordered
    exact decrypt_of_spent parsed (later.spent (fun _ keeps => keeps) spent) receiver random
  · rintro distribution earlier drawn same rfl other drawn' random'
    -- The state that answers for the key id is the one that was handed out, both times.
    have found' : ((process config name distribution other drawn').state.senderKey name).withId
        message.keyId = .ok state := by
      rw [← found, ← same, senderKey_process, senderKey_process]
      exact SenderKeyRecord.withId_add_self ..
    have opened' : decryptWith suite config message state random' =
        ⟨.ok plaintext, final, random'⟩ := by
      rw [drawless_decryptWith state random random', opened]
    rw [decrypt_eq_ok.mpr ⟨message, state, final, parsed, found', opened', accepted, rfl⟩]

/-! ## A member that listens to a speaker -/

def talk : SenderKeyName := ⟨"talk", .caller⟩

/-- A party with a sender key of its own. -/
def speaker : Store :=
  Store.putSenderKey talk (.own 5 0 (Suite.summed 32 [6]) (KeyPair.additive 8))
    { identity := KeyPair.additive 4, registrationId := 2 }

/-- What the speaker hands out to the group. -/
def invitation : DistributionMessage :=
  (create Suite.additive talk speaker (.repeated 8)).result.toOption.get (by decide +kernel)

/-- The first thing that the speaker says. -/
def word : Bytes :=
  (encrypt Suite.additive {} talk [1, 2, 3] speaker (.repeated 0)).result.toOption.get
    (by decide +kernel)

/-- A member that was invited. -/
def listener : Store :=
  (process {} talk invitation { identity := KeyPair.additive 1, registrationId := 1 }
    (.repeated 0)).state

/-- The listener after the word. -/
def informed : Store :=
  (decrypt Suite.additive {} talk word Receiver.accept listener (.repeated 0)).state

theorem reachable_listener : Reachable Suite.additive {} listener :=
  (Reachable.start rfl).step (.process talk invitation) (.repeated 0)

/-- The listener after another key of the same speaker. -/
def reinvited : Store :=
  (process {} talk { invitation with id := 9 } informed (.repeated 0)).state

/-- The listener refuses the word the second time, and hears it again after the same invitation. -/
theorem word_is_heard_again :
    (decrypt Suite.additive {} talk word Receiver.accept listener (.repeated 0)).result =
        .ok [1, 2, 3] ∧
      (∃ failure, decrypt Suite.additive {} talk word Receiver.accept reinvited (.repeated 0) =
        ⟨.error failure, reinvited, .repeated 0⟩) ∧
      (decrypt Suite.additive {} talk word Receiver.accept
        (process {} talk invitation reinvited (.repeated 0)).state (.repeated 0)).result =
          .ok [1, 2, 3] := by
  have heard : (decrypt Suite.additive {} talk word Receiver.accept listener
      (.repeated 0)).result.toOption = some [1, 2, 3] := by decide +kernel
  have read := Outcome.eq_of_toOption heard
  obtain ⟨message, _, _, parsed, _⟩ := decrypt_eq_ok.mp read
  have header : (SenderKeyMessage.parse word).toOption.map (fun message =>
      (message.keyId, message.iteration)) = some (5, 0) := by decide +kernel
  rw [parsed] at header
  obtain ⟨keyId_eq, iteration_eq⟩ := Prod.mk.inj (Option.some.inj header)
  obtain ⟨refused, again⟩ :=
    read_message_is_refused_until_its_key_returns reachable_listener parsed read
  have later : Later Suite.additive {}
      (fun operation => ¬operation.Renews talk message.keyId message.iteration) informed
      reinvited := by
    refine Later.now.step (.process talk { invitation with id := 9 }) ?_ (.repeated 0)
    rintro ⟨_, same, _⟩
    rw [keyId_eq] at same
    exact absurd same (by decide)
  obtain ⟨failure, isRefused, _⟩ := refused reinvited later Receiver.accept (.repeated 0)
  have invited : invitation.id = message.keyId := by
    rw [keyId_eq]
    decide +kernel
  exact ⟨congrArg Outcome.result read, ⟨failure, isRefused⟩,
    again invitation { identity := KeyPair.additive 1, registrationId := 1 } (.repeated 0) invited rfl
      reinvited (.repeated 0) (.repeated 0)⟩

end Group
end DoubleRatchet
