import DoubleRatchet.Proofs.Session.Account
import DoubleRatchet.Proofs.Session.Opener
import Mathlib.Logic.Function.Basic

/-!
# Correspondences

Two parties that may begin sessions with each other at any time, so that each may hold several. Between
them is a network that keeps every dispatch and may deliver it late, never, or again and again. What is
allowed in a run is a parameter: here is only what each action does, and what an observer notes of it.
-/

namespace DoubleRatchet

inductive Party where
  | first
  | second
  deriving DecidableEq

namespace Party

def other : Party → Party
  | first => second
  | second => first

@[simp] theorem other_other (party : Party) : party.other.other = party := by
  cases party <;> rfl

theorem other_injective {party each : Party} (same : party.other = each.other) : party = each := by
  rw [← other_other party, same, other_other]

theorem other_ne (party : Party) : party.other ≠ party := by
  cases party <;> decide

instance {property : Party → Prop} [DecidablePred property] : Decidable (∀ party, property party) :=
  decidable_of_iff (property first ∧ property second)
    ⟨fun ⟨atFirst, atSecond⟩ party => by cases party <;> assumption,
      fun always => ⟨always first, always second⟩⟩

theorem eq_or_eq_other (each party : Party) : each = party ∨ each = party.other := by
  cases each <;> cases party <;> decide

/-- What one party adds to its own list takes nothing from anybody's. -/
theorem prefix_update_append {α : Type} (lists : Party → List α) (party : Party) (added : List α)
    (each : Party) : lists each <+: Function.update lists party (lists party ++ added) each := by
  by_cases same : each = party
  · rw [same, Function.update_self]
    exact List.prefix_append _ _
  · simp only [Function.update_of_ne same, List.prefix_refl]

end Party

/-- Two parties without a session with each other. -/
structure Meeting where
  store : Party → Store
  /-- Where each party finds the other. -/
  peer : Party → Address
  noSession : ∀ party, (store party).sessions.find? (peer party) = none

namespace Meeting

/-- The signed prekeys that a party keeps. -/
def signedPreKeys (meeting : Meeting) (party : Party) : List PublicKey :=
  (meeting.store party).signedPreKeys.entries.map fun entry => entry.2.keyPair.publicKey

theorem mem_signedPreKeys {meeting : Meeting} {party : Party} {id : UInt32}
    {record : SignedPreKeyRecord}
    (found : (meeting.store party).signedPreKeys.find? id = some record) :
    record.keyPair.publicKey ∈ meeting.signedPreKeys party := by
  obtain ⟨entry, isEntry, rfl⟩ := Option.map_eq_some_iff.mp found
  exact List.mem_map_of_mem (List.mem_of_find?_eq_some isEntry)

theorem session_eq (meeting : Meeting) (party : Party) :
    (meeting.store party).session (meeting.peer party) = {} := by
  unfold Store.session
  rw [meeting.noSession party]
  rfl

end Meeting

/-- A message on the network, with its author, the session that it was sent in, by its base key, and
the text that it was made of. -/
structure Dispatch where
  sender : Party
  base : Option PublicKey
  message : CiphertextMessage
  plaintext : Bytes
  deriving DecidableEq

namespace Dispatch

def addressee (dispatch : Dispatch) : Party :=
  dispatch.sender.other

def key (dispatch : Dispatch) : PublicKey :=
  dispatch.message.inner.ratchetKey

def counter (dispatch : Dispatch) : Nat :=
  dispatch.message.inner.counter.toNat

/-- The dispatch has the place of another one on the chains of its sender. -/
def SamePlace (dispatch other : Dispatch) : Prop :=
  dispatch.sender = other.sender ∧ dispatch.key = other.key ∧ dispatch.counter = other.counter

end Dispatch

/-- The keys that have been drawn once a state has read a message under a key and become `final`. It
draws one if the key is new to it. -/
def SessionState.keysAfter (key : PublicKey) (state final : SessionState) (keys : List PublicKey) :
    List PublicKey :=
  if (state.receiverChain? key).isSome then keys else keys ++ final.sendingKey?.toList

theorem SessionState.prefix_keysAfter {key : PublicKey} {state final : SessionState}
    {keys : List PublicKey} : keys <+: state.keysAfter key final keys := by
  unfold keysAfter
  split
  · exact List.prefix_refl _
  · exact List.prefix_append _ _

structure Correspondence where
  parties : Party → Locked Store
  /-- The bundles with which each party has begun sessions. -/
  bundles : Party → List PreKeyBundle
  /-- The base keys and ratchet keys that were drawn for a session, oldest first. -/
  keys : List PublicKey
  sent : List Dispatch
  read : List Dispatch
  /-- The skipped messages, by ratchet key and counter, whose keys each party gave up for newer ones. -/
  evicted : Party → List (PublicKey × Nat)

namespace Correspondence

inductive Action where
  /-- A party begins a session with a bundle. -/
  | initiate (party : Party) (bundle : PreKeyBundle)
  /-- A party joins a session without reading the message that announces it. -/
  | accept (party : Party) (message : PreKeyMessage)
  | send (party : Party) (plaintext : Bytes)
  | deliver (dispatch : Dispatch)

variable (suite : Suite) (config : Config) (meeting : Meeting)

/-- What a party holds of its sessions with the other. -/
def record (party : Party) (correspondence : Correspondence) : SessionRecord :=
  (correspondence.parties party).content.session (meeting.peer party)

/-- The parties have not done anything yet. -/
def start : Correspondence :=
  { parties := fun party => { content := meeting.store party }
    bundles := fun _ => []
    keys := []
    sent := []
    read := []
    evicted := fun _ => [] }

def storing (party : Party) (store : Locked Store) (correspondence : Correspondence) :
    Correspondence :=
  { correspondence with parties := Function.update correspondence.parties party store }

@[simp] theorem record_storing_self (party : Party) (store : Locked Store)
    (correspondence : Correspondence) :
    (correspondence.storing party store).record meeting party =
      store.content.session (meeting.peer party) := by
  simp only [record, storing, Function.update_self]

/-- The base key and the ratchet key that a new session draws. -/
def begunKeys (random : Randomness) : List PublicKey :=
  let (base, random) := KeyPair.generate suite random
  [base.publicKey, (KeyPair.generate suite random).1.publicKey]

def initiate (party : Party) (bundle : PreKeyBundle) (random : Randomness)
    (correspondence : Correspondence) : Correspondence :=
  let outcome := Locked.run (Session.processBundle suite config (meeting.peer party) bundle)
    (correspondence.parties party) random
  match outcome.result with
  | .error _ => correspondence.storing party outcome.state
  | .ok () =>
      { correspondence.storing party outcome.state with
        bundles := Function.update correspondence.bundles party
          (correspondence.bundles party ++ [bundle])
        keys := correspondence.keys ++ begunKeys suite random }

def accept (party : Party) (message : PreKeyMessage) (random : Randomness)
    (correspondence : Correspondence) : Correspondence :=
  correspondence.storing party
    (Locked.run (Session.processPreKeyMessage suite config (meeting.peer party) message)
      (correspondence.parties party) random).state

def send (party : Party) (plaintext : Bytes) (random : Randomness)
    (correspondence : Correspondence) : Correspondence :=
  let outcome := Locked.run (Session.encrypt suite config (meeting.peer party) plaintext)
    (correspondence.parties party) random
  match outcome.result with
  | .error _ => correspondence.storing party outcome.state
  | .ok message =>
      let base := (correspondence.record meeting party).current.initiatorBaseKey
      { correspondence.storing party outcome.state with
        sent := correspondence.sent ++ [{ sender := party, base, message, plaintext }] }

/-- The addressee of a dispatch decrypts it. -/
def decrypted (dispatch : Dispatch) (random : Randomness) (correspondence : Correspondence) :
    Outcome (Locked Store) Bytes :=
  Locked.run (Session.decrypt suite config (meeting.peer dispatch.addressee) dispatch.message
    Receiver.accept) (correspondence.parties dispatch.addressee) random

/-- The state that opens a dispatch, if one does. -/
def opener (dispatch : Dispatch) (random : Randomness) (correspondence : Correspondence) :
    SessionState :=
  Session.opener suite config (meeting.peer dispatch.addressee) dispatch.message
    (correspondence.parties dispatch.addressee).content random

/-- A ratchet key is drawn when a state reads the first message under a ratchet key of the other
side. -/
def deliver (dispatch : Dispatch) (random : Randomness) (correspondence : Correspondence) :
    Correspondence :=
  let party := dispatch.addressee
  let outcome := correspondence.decrypted suite config meeting dispatch random
  let opener := correspondence.opener suite config meeting dispatch random
  let next := correspondence.storing party outcome.state
  match outcome.result with
  | .error _ => next
  | .ok _ =>
      { next with
        keys := if (opener.receiverChain? dispatch.key).isSome then correspondence.keys
          else correspondence.keys ++ (next.record meeting party).current.sendingKey?.toList
        read := correspondence.read ++ [dispatch]
        evicted := Function.update correspondence.evicted party
          (correspondence.evicted party ++
            (opener.evictions config dispatch.message.inner).map fun counter =>
              (dispatch.key, counter)) }

def after (action : Action) (random : Randomness) (correspondence : Correspondence) :
    Correspondence :=
  match action with
  | .initiate party bundle => correspondence.initiate suite config meeting party bundle random
  | .accept party message => correspondence.accept suite config meeting party message random
  | .send party plaintext => correspondence.send suite config meeting party plaintext random
  | .deliver dispatch => correspondence.deliver suite config meeting dispatch random

/-! ### What an action can do -/

/-- A party has begun a session. -/
def begun (party : Party) (bundle : PreKeyBundle) (random : Randomness) (lock : Locked Store)
    (correspondence : Correspondence) : Correspondence :=
  { correspondence.storing party lock with
    bundles := Function.update correspondence.bundles party
      (correspondence.bundles party ++ [bundle])
    keys := correspondence.keys ++ begunKeys suite random }

/-- A party has sent a message in the session that is in front. -/
def posting (party : Party) (lock : Locked Store) (message : CiphertextMessage) (plaintext : Bytes)
    (correspondence : Correspondence) : Correspondence :=
  let base := (correspondence.record meeting party).current.initiatorBaseKey
  { correspondence.storing party lock with
    sent := correspondence.sent ++ [{ sender := party, base, message, plaintext }] }

/-- The state `opener` has read a dispatch and become `final`. -/
def reading (dispatch : Dispatch) (lock : Locked Store) (opener final : SessionState)
    (correspondence : Correspondence) : Correspondence :=
  { correspondence.storing dispatch.addressee lock with
    keys := opener.keysAfter dispatch.key final correspondence.keys
    read := correspondence.read ++ [dispatch]
    evicted := Function.update correspondence.evicted dispatch.addressee
      (correspondence.evicted dispatch.addressee ++
        (opener.evictions config dispatch.message.inner).map fun counter =>
          (dispatch.key, counter)) }

section After

variable {suite config meeting} {correspondence : Correspondence} {action : Action}
  {random : Randomness} {dispatch : Dispatch}

theorem initiate_cases (party : Party) (bundle : PreKeyBundle) (random : Randomness)
    (correspondence : Correspondence) :
    (∃ lock : Locked Store, lock.content = (correspondence.parties party).content ∧
      correspondence.initiate suite config meeting party bundle random =
        correspondence.storing party lock) ∨
    ∃ (lock : Locked Store) (rest : Randomness),
      Session.processBundle suite config (meeting.peer party) bundle
        (correspondence.parties party).content random = ⟨.ok (), lock.content, rest⟩ ∧
      correspondence.initiate suite config meeting party bundle random =
        correspondence.begun suite party bundle random lock := by
  unfold initiate
  dsimp only
  rcases outcome : Locked.run (Session.processBundle suite config (meeting.peer party) bundle)
    (correspondence.parties party) random with ⟨failure | done, lock, rest⟩
  · exact .inl ⟨lock, Locked.content_of_failed outcome Session.atomic_processBundle, rfl⟩
  · exact .inr ⟨lock, rest, (Locked.run_eq_ok outcome).2.2, rfl⟩

theorem send_cases (party : Party) (plaintext : Bytes) (random : Randomness)
    (correspondence : Correspondence) :
    (∃ lock : Locked Store, lock.content = (correspondence.parties party).content ∧
      correspondence.send suite config meeting party plaintext random =
        correspondence.storing party lock) ∨
    ∃ (message : CiphertextMessage) (lock : Locked Store) (rest : Randomness),
      Session.encrypt suite config (meeting.peer party) plaintext
        (correspondence.parties party).content random = ⟨.ok message, lock.content, rest⟩ ∧
      correspondence.send suite config meeting party plaintext random =
        correspondence.posting meeting party lock message plaintext := by
  unfold send
  dsimp only
  rcases outcome : Locked.run (Session.encrypt suite config (meeting.peer party) plaintext)
    (correspondence.parties party) random with ⟨failure | message, lock, rest⟩
  · exact .inl ⟨lock, Locked.content_of_failed outcome Session.atomic_encrypt, rfl⟩
  · exact .inr ⟨message, lock, rest, (Locked.run_eq_ok outcome).2.2, rfl⟩

/-- A delivery that fails leaves the store as it is, or as the failed decryption leaves it. -/
theorem deliver_cases (dispatch : Dispatch) (random : Randomness)
    (correspondence : Correspondence) :
    (∃ lock : Locked Store, (lock = correspondence.parties dispatch.addressee ∨
        ∃ failure rest, Session.decrypt suite config (meeting.peer dispatch.addressee)
          dispatch.message Receiver.accept (correspondence.parties dispatch.addressee).content
            random = ⟨.error failure, lock.content, rest⟩) ∧
      correspondence.deliver suite config meeting dispatch random =
        correspondence.storing dispatch.addressee lock) ∨
    ∃ (plaintext : Bytes) (lock : Locked Store) (rest : Randomness),
      correspondence.decrypted suite config meeting dispatch random = ⟨.ok plaintext, lock, rest⟩ ∧
      correspondence.deliver suite config meeting dispatch random =
        correspondence.reading config dispatch lock
          (correspondence.opener suite config meeting dispatch random)
          (lock.content.session (meeting.peer dispatch.addressee)).current := by
  unfold deliver
  dsimp only
  rcases outcome : correspondence.decrypted suite config meeting dispatch random with
    ⟨failure | plaintext, lock, rest⟩
  · refine .inl ⟨lock, ?_, rfl⟩
    rcases Locked.run_eq_error outcome with ⟨_, same⟩ | failed
    · exact .inl same
    · exact .inr ⟨failure, rest, failed⟩
  · refine .inr ⟨plaintext, lock, rest, rfl, ?_⟩
    dsimp only
    rw [record_storing_self]
    rfl

/-- Nothing that is noted in a correspondence is taken back in a later one. -/
structure Grows (correspondence later : Correspondence) : Prop where
  bundles : ∀ party, correspondence.bundles party <+: later.bundles party
  keys : correspondence.keys <+: later.keys
  sent : correspondence.sent <+: later.sent
  read : correspondence.read <+: later.read
  evicted : ∀ party, correspondence.evicted party <+: later.evicted party

theorem grows_storing (party : Party) (lock : Locked Store) (correspondence : Correspondence) :
    Grows correspondence (correspondence.storing party lock) where
  bundles _ := List.prefix_refl _
  keys := List.prefix_refl _
  sent := List.prefix_refl _
  read := List.prefix_refl _
  evicted _ := List.prefix_refl _

theorem grows_begun (party : Party) (bundle : PreKeyBundle) (random : Randomness)
    (lock : Locked Store) (correspondence : Correspondence) :
    Grows correspondence (correspondence.begun suite party bundle random lock) where
  bundles := Party.prefix_update_append _ _ _
  keys := List.prefix_append _ _
  sent := List.prefix_refl _
  read := List.prefix_refl _
  evicted _ := List.prefix_refl _

theorem grows_posting (party : Party) (lock : Locked Store) (message : CiphertextMessage)
    (plaintext : Bytes) (correspondence : Correspondence) :
    Grows correspondence (correspondence.posting meeting party lock message plaintext) where
  bundles _ := List.prefix_refl _
  keys := List.prefix_refl _
  sent := List.prefix_append _ _
  read := List.prefix_refl _
  evicted _ := List.prefix_refl _

theorem grows_reading (dispatch : Dispatch) (lock : Locked Store) (opener final : SessionState)
    (correspondence : Correspondence) :
    Grows correspondence (correspondence.reading config dispatch lock opener final) where
  bundles _ := List.prefix_refl _
  keys := SessionState.prefix_keysAfter
  sent := List.prefix_refl _
  read := List.prefix_append _ _
  evicted := Party.prefix_update_append _ _ _

/-- What the state gives up for a dispatch is noted. -/
theorem mem_evicted_reading {lock : Locked Store} {opener final : SessionState} {counter : Nat}
    (isEvicted : counter ∈ opener.evictions config dispatch.message.inner) :
    (dispatch.key, counter) ∈
      (correspondence.reading config dispatch lock opener final).evicted dispatch.addressee := by
  dsimp only [reading]
  rw [Function.update_self]
  exact List.mem_append_right _ (List.mem_map_of_mem isEvicted)

theorem grows_after :
    Grows correspondence (correspondence.after suite config meeting action random) := by
  cases action with
  | initiate party bundle =>
      rw [after]
      rcases initiate_cases party bundle random correspondence with
        ⟨lock, _, initiate_eq⟩ | ⟨lock, _, _, initiate_eq⟩
      · exact initiate_eq ▸ grows_storing party lock correspondence
      · exact initiate_eq ▸ grows_begun party bundle random lock correspondence
  | accept party message => exact grows_storing party _ correspondence
  | send party plaintext =>
      rw [after]
      rcases send_cases party plaintext random correspondence with
        ⟨lock, _, send_eq⟩ | ⟨message, lock, _, _, send_eq⟩
      · exact send_eq ▸ grows_storing party lock correspondence
      · exact send_eq ▸ grows_posting party lock message plaintext correspondence
  | deliver dispatch =>
      rw [after]
      rcases deliver_cases dispatch random correspondence with
        ⟨lock, _, deliver_eq⟩ | ⟨_, lock, _, _, deliver_eq⟩
      · exact deliver_eq ▸ grows_storing dispatch.addressee lock correspondence
      · exact deliver_eq ▸ grows_reading dispatch lock _ _ correspondence

/-- A dispatch is read when it is delivered. -/
theorem mem_read_after
    (isRead : dispatch ∈ (correspondence.after suite config meeting action random).read) :
    dispatch ∈ correspondence.read ∨ action = .deliver dispatch := by
  cases action with
  | initiate party bundle =>
      rw [after] at isRead
      rcases initiate_cases party bundle random correspondence with
        ⟨_, _, initiate_eq⟩ | ⟨_, _, _, initiate_eq⟩
      · rw [initiate_eq] at isRead
        exact .inl isRead
      · rw [initiate_eq] at isRead
        exact .inl isRead
  | accept party message => exact .inl isRead
  | send party plaintext =>
      rw [after] at isRead
      rcases send_cases party plaintext random correspondence with
        ⟨_, _, send_eq⟩ | ⟨_, _, _, _, send_eq⟩
      · rw [send_eq] at isRead
        exact .inl isRead
      · rw [send_eq] at isRead
        exact .inl isRead
  | deliver delivered =>
      rw [after] at isRead
      rcases deliver_cases delivered random correspondence with
        ⟨_, _, deliver_eq⟩ | ⟨_, _, _, _, deliver_eq⟩
      · rw [deliver_eq] at isRead
        exact .inl isRead
      · rw [deliver_eq] at isRead
        refine (List.mem_append.mp isRead).imp_right fun new => ?_
        rw [List.mem_singleton.mp new]

end After

/-- What can happen, where `allows` says which action may be next with which randomness. -/
inductive Run (allows : Correspondence → Action → Randomness → Prop) : Correspondence → Prop where
  | start : Run allows (start meeting)
  | step {correspondence : Correspondence} (run : Run allows correspondence) (action : Action)
      (random : Randomness) (allowed : allows correspondence action random) :
      Run allows (correspondence.after suite config meeting action random)

/-- One action after the other. -/
def perform : List (Action × Randomness) → Correspondence → Correspondence
  | [], correspondence => correspondence
  | (action, random) :: rest, correspondence =>
      perform rest (correspondence.after suite config meeting action random)

/-- Each of the actions is allowed when it is its turn. -/
def Permits (allows : Correspondence → Action → Randomness → Prop) :
    List (Action × Randomness) → Correspondence → Prop
  | [], _ => True
  | (action, random) :: rest, correspondence =>
      allows correspondence action random ∧
        Permits allows rest (correspondence.after suite config meeting action random)

instance decidablePermits (allows : Correspondence → Action → Randomness → Prop)
    [∀ correspondence action random, Decidable (allows correspondence action random)] :
    (actions : List (Action × Randomness)) → (correspondence : Correspondence) →
      Decidable (Permits suite config meeting allows actions correspondence)
  | [], _ => .isTrue trivial
  | (action, random) :: rest, correspondence =>
      have := decidablePermits allows rest (correspondence.after suite config meeting action random)
      inferInstanceAs (Decidable (_ ∧ _))

variable {suite config meeting} in
theorem Run.perform {allows : Correspondence → Action → Randomness → Prop}
    {actions : List (Action × Randomness)} {correspondence : Correspondence}
    (run : Run suite config meeting allows correspondence)
    (permitted : Permits suite config meeting allows actions correspondence) :
    Run suite config meeting allows (correspondence.perform suite config meeting actions) := by
  induction actions generalizing correspondence with
  | nil => exact run
  | cons first rest ih =>
      obtain ⟨action, random⟩ := first
      exact ih (run.step action random permitted.1) permitted.2

variable {correspondence : Correspondence} {action : Action} {random : Randomness}

/-- What is delivered was sent. -/
def Genuine (correspondence : Correspondence) : Action → Prop
  | .deliver dispatch => dispatch ∈ correspondence.sent
  | _ => True

/-- The network delivers what was sent, and no key is drawn twice or is a signed prekey. -/
structure Honest (correspondence : Correspondence) (action : Action) (random : Randomness) :
    Prop where
  genuine : Genuine correspondence action
  distinct : (correspondence.after suite config meeting action random).keys.Nodup
  unsigned : ∀ party, ∀ key ∈ meeting.signedPreKeys party,
    key ∉ (correspondence.after suite config meeting action random).keys

instance : DecidablePred (Genuine correspondence)
  | .deliver dispatch => inferInstanceAs (Decidable (dispatch ∈ correspondence.sent))
  | .initiate .. | .accept .. | .send .. => .isTrue trivial

instance : Decidable (Honest suite config meeting correspondence action random) :=
  decidable_of_iff
    (Genuine correspondence action ∧
      (correspondence.after suite config meeting action random).keys.Nodup ∧
      ∀ party, ∀ key ∈ meeting.signedPreKeys party,
        key ∉ (correspondence.after suite config meeting action random).keys)
    ⟨fun ⟨genuine, distinct, unsigned⟩ => ⟨genuine, distinct, unsigned⟩,
      fun honest => ⟨honest.genuine, honest.distinct, honest.unsigned⟩⟩

variable {suite config meeting} in
/-- Only what was sent is read. -/
theorem Run.sent_of_read
    (run : Run suite config meeting (Honest suite config meeting) correspondence) :
    correspondence.read ⊆ correspondence.sent := by
  induction run with
  | start => exact List.Subset.refl _
  | step _ action random honest ih =>
      intro dispatch isRead
      apply grows_after.sent.subset
      rcases mem_read_after isRead with before | delivered
      · exact ih before
      · rw [delivered] at honest
        exact honest.genuine

end Correspondence
end DoubleRatchet
