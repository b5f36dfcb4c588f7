import DoubleRatchet.Proofs.Message.Signal
import DoubleRatchet.Proofs.Session.Operation
import DoubleRatchet.Proofs.Session.Receive
import Mathlib.Data.List.Nodup

/-!
# Replays

A message that a session state has read is spent on that state. It stays spent however the state is
moved about in its record and whatever is sent, received or begun meanwhile, for as long as the state
keeps the receiving chain of the message.
-/

namespace DoubleRatchet

variable {suite : Suite} {config : Config} {key : PublicKey} {counter : UInt32}
  {chain before : ReceiverChain} {old new : SessionState}

namespace SessionState

/-- What holds of a state at any time. -/
structure Sound (state : SessionState) : Prop where
  distinct : (state.receiverChains.map ReceiverChain.ratchetKey).Nodup
  ordered : ∀ chain ∈ state.receiverChains, chain.Ordered
  blank : state.rootKey = none → state.receiverChains = []
  started : state.rootKey.isSome = true →
    state.senderChain.isSome = true ∧ state.version = Envelope.currentVersion

theorem sound_blank : Sound {} where
  distinct := List.nodup_nil
  ordered := nofun
  blank _ := rfl
  started := nofun

theorem ordered_new (key : PublicKey) (chainKey : ChainKey) :
    ReceiverChain.Ordered { ratchetKey := key, chainKey := chainKey } :=
  ⟨.nil, nofun⟩

theorem Sound.begins (sound : Sound old) (isBlank : old.rootKey = none)
    (begins : Begins suite config old new) : Sound new := by
  have noChains := sound.blank isBlank
  cases begins with
  | initiated established =>
      obtain ⟨secret, sending, _, _, rfl, _⟩ :=
        Handshake.Initiator.establish_eq_ok.mp established
      constructor
      · change ((newest config.maxReceiverChains (old.receiverChains ++ [_])).map _).Nodup
        rw [noChains]
        exact ((newest_sublist _ _).map _).nodup (List.nodup_singleton _)
      · intro chain member
        change chain ∈ newest config.maxReceiverChains (old.receiverChains ++ [_]) at member
        rw [noChains] at member
        cases List.mem_singleton.mp ((newest_sublist _ _).subset member)
        exact ordered_new _ _
      · exact nofun
      · exact fun _ => ⟨rfl, rfl⟩
  | joined established =>
      obtain ⟨secret, _, rfl, _⟩ := Handshake.Responder.establish_eq_ok.mp established
      exact ⟨sound.distinct, sound.ordered, nofun, fun _ => ⟨rfl, rfl⟩⟩

theorem Sound.ready {random rest : Randomness} {ready : SessionState} (sound : Sound old)
    (isReady : Ready suite config key old random ready rest) : Sound ready := by
  cases isReady with
  | known => exact sound
  | turned missing turn =>
      have started := sound.started (by rw [turn.hasRoot]; rfl)
      have fresh : key ∉ old.receiverChains.map ReceiverChain.ratchetKey := by
        intro member
        obtain ⟨chain, present, same⟩ := List.mem_map.mp member
        have different := List.find?_eq_none.mp missing chain present
        simp [same] at different
      constructor
      · rw [turn.receiverChains_turned]
        refine ((newest_sublist _ _).map _).nodup ?_
        rw [List.map_append, List.nodup_append]
        refine ⟨sound.distinct, List.nodup_singleton _, ?_⟩
        intro older isOlder newer isNewer same
        have isKey : older = key := same.trans (List.mem_singleton.mp isNewer)
        rw [isKey] at isOlder
        exact fresh isOlder
      · intro chain member
        rw [turn.receiverChains_turned] at member
        rcases List.mem_append.mp ((newest_sublist _ _).subset member) with older | isNew
        · exact sound.ordered chain older
        · cases List.mem_singleton.mp isNew
          exact ordered_new _ _
      · exact nofun
      · exact fun _ => ⟨rfl, started.2⟩

theorem Sound.evolves (sound : Sound old) (evolves : Evolves suite config old new) :
    Sound new := by
  cases evolves with
  | same => exact sound
  | sent encrypted =>
      obtain ⟨sending, _, _, _, _, _, rfl, _⟩ := encrypt_eq_ok.mp encrypted
      exact ⟨sound.distinct, sound.ordered, sound.blank, fun has => ⟨rfl, (sound.started has).2⟩⟩
  | read decrypted =>
      obtain ⟨ready, isReady, decryption, rfl⟩ := decrypt_eq_ok decrypted
      have readySound := sound.ready isReady
      have asked : decryption.chain.Ordered :=
        readySound.ordered _ (List.mem_of_find?_eq_some decryption.found)
      have granted := ReceiverChain.request_eq_ok.mp decryption.granted
      have hasRoot : ready.rootKey.isSome = true := by
        cases rooted : ready.rootKey with
        | some root => rfl
        | none =>
            have found := decryption.found
            rw [receiverChain?, readySound.blank rooted] at found
            cases found
      constructor
      · change ((ReceiverChain.replace decryption.new ready.receiverChains).map _).Nodup
        rw [ReceiverChain.map_ratchetKey_replace]
        exact readySound.distinct
      · intro chain member
        rcases ReceiverChain.mem_replace member with rfl | older
        · exact granted.ordered asked
        · exact readySound.ordered chain older
      · intro notRooted
        rw [show ready.rootKey = none from notRooted] at hasRoot
        cases hasRoot
      · exact fun _ => readySound.started hasRoot

/-- A turn of the ratchet may drop a chain, but it replaces none. -/
theorem Sound.chain_of_ready {theirs : PublicKey} {random rest : Randomness} {ready : SessionState}
    (sound : Sound old) (isReady : Ready suite config theirs old random ready rest)
    (was : old.receiverChain? key = some before) (found : ready.receiverChain? key = some chain) :
    chain = before := by
  cases isReady with
  | known =>
      rw [was] at found
      exact (Option.some.inj found).symm
  | turned missing turn =>
      have chain_key : chain.ratchetKey = key := ReceiverChain.ratchetKey_of_lookup found
      have member := List.mem_of_find?_eq_some found
      rw [turn.receiverChains_turned] at member
      rcases List.mem_append.mp ((newest_sublist _ _).subset member) with older | isNew
      · have unique := ReceiverChain.lookup_of_mem sound.distinct older
        rw [chain_key] at unique
        change old.receiverChain? key = some chain at unique
        rw [was] at unique
        exact (Option.some.inj unique).symm
      · rw [List.mem_singleton.mp isNew] at chain_key
        change theirs = key at chain_key
        rw [chain_key, was] at missing
        cases missing

/-- After a message the chain of its ratchet key has granted its counter. -/
theorem chain_of_decrypt {message : SignalMessage} {plaintext : Bytes} {random rest : Randomness}
    (decrypted : decrypt suite config message old random = ⟨.ok plaintext, new, rest⟩) :
    ∃ ready asked granted keys, Ready suite config message.ratchetKey old random ready rest ∧
      ready.receiverChain? message.ratchetKey = some asked ∧
      ReceiverChain.Granted suite config message.counter asked keys granted ∧
      new.receiverChain? message.ratchetKey = some granted ∧
      ∀ other, other ≠ message.ratchetKey →
        new.receiverChain? other = ready.receiverChain? other := by
  obtain ⟨ready, isReady, decryption, rfl⟩ := decrypt_eq_ok decrypted
  have granted := ReceiverChain.request_eq_ok.mp decryption.granted
  have new_key : decryption.new.ratchetKey = message.ratchetKey :=
    granted.ratchetKey_eq.trans (ReceiverChain.ratchetKey_of_lookup decryption.found)
  refine ⟨ready, decryption.chain, decryption.new, decryption.keys, isReady, decryption.found,
    granted, ?_, ?_⟩
  · have present : (ready.receiverChain? decryption.new.ratchetKey).isSome = true := by
      rw [new_key, decryption.found]
      rfl
    rw [← new_key]
    exact receiverChain?_withChain_self present
  · intro other different
    exact receiverChain?_withChain_of_ne (new_key ▸ different)

/-- One message leaves a chain that stays alone, or moves it by granting a counter. -/
theorem Sound.chain_of_evolves (sound : Sound old) (evolves : Evolves suite config old new)
    (was : old.receiverChain? key = some before) (found : new.receiverChain? key = some chain) :
    chain = before ∨
      ∃ counter keys, ReceiverChain.Granted suite config counter before keys chain := by
  cases evolves with
  | same =>
      rw [was] at found
      exact .inl (Option.some.inj found).symm
  | sent encrypted =>
      obtain ⟨_, _, _, _, _, _, rfl, _⟩ := encrypt_eq_ok.mp encrypted
      change old.receiverChain? key = some chain at found
      rw [was] at found
      exact .inl (Option.some.inj found).symm
  | @read _ message _ _ _ decrypted =>
      obtain ⟨ready, asked, moved, keys, isReady, asked_found, granted, moved_found, others⟩ :=
        chain_of_decrypt decrypted
      by_cases same : key = message.ratchetKey
      · rw [← same] at asked_found moved_found
        rw [moved_found] at found
        cases found
        cases sound.chain_of_ready isReady was asked_found
        exact .inr ⟨_, _, granted⟩
      · rw [others key same] at found
        exact .inl (sound.chain_of_ready isReady was found)

/-- One message leaves a spent counter spent, and moves its chain forward if at all. -/
theorem Sound.spent_of_evolves (sound : Sound old) (evolves : Evolves suite config old new)
    (was : old.receiverChain? key = some before) (found : new.receiverChain? key = some chain)
    (spent : before.Spent counter) :
    chain.Spent counter ∧ before.chainKey.index ≤ chain.chainKey.index := by
  rcases sound.chain_of_evolves evolves was found with same | ⟨_, _, granted⟩
  · rw [same]
    exact ⟨spent, UInt32.le_refl _⟩
  · exact ⟨granted.keeps_spent spent, UInt32.le_iff_toNat_le.mpr granted.toNat_index_le⟩

/-- A state spends the counters that it reads. -/
theorem Sound.spends {message : SignalMessage} {plaintext : Bytes} {random rest : Randomness}
    (sound : Sound old)
    (decrypted : decrypt suite config message old random = ⟨.ok plaintext, new, rest⟩) :
    ∃ chain, new.receiverChain? message.ratchetKey = some chain ∧ chain.Spent message.counter := by
  obtain ⟨ready, asked, granted_chain, keys, isReady, asked_found, granted, found, _⟩ :=
    chain_of_decrypt decrypted
  have asked_ordered : asked.Ordered :=
    (sound.ready isReady).ordered _ (List.mem_of_find?_eq_some asked_found)
  exact ⟨granted_chain, found, granted.spends asked_ordered⟩

end SessionState

theorem Reachable.sound {store : Store} (reachable : Reachable suite config store)
    (address : Address) : ∀ state ∈ (store.session address).states, state.Sound := by
  apply reachable.forall_states SessionState.sound_blank
  · intro old new sound isBlank begins
    exact sound.begins isBlank begins
  · intro old new sound evolves
    exact sound.evolves evolves

/-! ## Following one state through a run -/

/-- A place in the record of an address. -/
structure Place where
  store : Store
  address : Address
  position : Nat

namespace Place

def state? (place : Place) : Option SessionState :=
  (place.store.session place.address).states[place.position]?

def chain? (key : PublicKey) (place : Place) : Option ReceiverChain :=
  place.state?.bind (·.receiverChain? key)

/-- Where the state of a place is after an operation. -/
def after (suite : Suite) (config : Config) (operation : Operation) (random : Randomness)
    (place : Place) : Place :=
  { place with
    store := operation.after suite config place.store random
    position := operation.follow suite config place.store random place.address place.position }

end Place

/-- A run in which one state stays in its record and keeps a receiving chain. -/
inductive Keeping (suite : Suite) (config : Config) (key : PublicKey) : Place → Place → Prop where
  | here {place : Place} (kept : (place.chain? key).isSome = true) :
      Keeping suite config key place place
  | step {first last : Place} (before : Keeping suite config key first last)
      (operation : Operation) (random : Randomness)
      (kept : ((last.after suite config operation random).chain? key).isSome = true) :
      Keeping suite config key first (last.after suite config operation random)

namespace Keeping

variable {first last : Place}

theorem reachable (keeping : Keeping suite config key first last)
    (start : Reachable suite config first.store) : Reachable suite config last.store := by
  induction keeping with
  | here => exact start
  | step _ operation random _ ih => exact ih.step operation random

end Keeping

/-- One operation leaves a spent counter spent, and moves its chain forward if at all. -/
theorem Place.spent_after {place : Place} {operation : Operation} {random : Randomness}
    (reachable : Reachable suite config place.store) (was : place.chain? key = some before)
    (found : (place.after suite config operation random).chain? key = some chain)
    (spent : before.Spent counter) :
    chain.Spent counter ∧ before.chainKey.index ≤ chain.chainKey.index := by
  obtain ⟨state, at_place, was⟩ := Option.bind_eq_some_iff.mp was
  obtain ⟨new, at_after, found⟩ := Option.bind_eq_some_iff.mp found
  have sound := reachable.sound place.address state (List.mem_of_getElem? at_place)
  have moves : Moves suite config (place.store.session place.address)
      ((place.after suite config operation random).store.session place.address)
      (operation.follow suite config place.store random place.address) :=
    operation.moves place.store random place.address
  rcases moves.evolves_of_place at_after with ⟨fresh, at_front⟩ | isBlank |
    ⟨old, old_found, evolves⟩
  · -- A state that is about to make way for a session has no chain.
    have isCurrent : (place.store.session place.address).current = state := by
      rw [Place.state?, at_front] at at_place
      exact Option.some.inj at_place
    have notRooted : state.rootKey = none := by
      rw [← isCurrent]
      simpa [SessionRecord.isFresh, SessionState.isInitialized] using fresh
    rw [SessionState.receiverChain?, sound.blank notRooted] at was
    cases was
  · rw [isBlank] at found
    cases found
  · have same : old = state := by
      rw [Place.state?] at at_place
      rw [at_place] at old_found
      exact (Option.some.inj old_found).symm
    rw [same] at evolves
    exact sound.spent_of_evolves evolves was found spent

/-- What is spent at the beginning of a run is spent at its end, if the chain is kept throughout. -/
theorem Keeping.spent {first last : Place} (keeping : Keeping suite config key first last)
    (start : Reachable suite config first.store) (was : first.chain? key = some before)
    (spent : before.Spent counter) :
    ∃ chain, last.chain? key = some chain ∧ chain.Spent counter ∧
      before.chainKey.index ≤ chain.chainKey.index := by
  induction keeping with
  | here => exact ⟨before, was, spent, UInt32.le_refl _⟩
  | @step last earlier operation random kept ih =>
      obtain ⟨middle, middle_found, middle_spent, forward⟩ := ih
      obtain ⟨chain, found⟩ := Option.isSome_iff_exists.mp kept
      have ⟨stays, onward⟩ :=
        Place.spent_after (earlier.reachable start) middle_found found middle_spent
      exact ⟨chain, found, stays, UInt32.le_trans forward onward⟩

/-- The state that has read a message leads its record, with the counter spent. -/
theorem Session.spends_of_decrypt {address : Address} {message : CiphertextMessage}
    {receiver : Receiver} {store after : Store} {random rest : Randomness} {plaintext : Bytes}
    (reachable : Reachable suite config store)
    (read : Session.decrypt suite config address message receiver store random =
      ⟨.ok plaintext, after, rest⟩) :
    ∃ chain, Place.chain? message.inner.ratchetKey ⟨after, address, 0⟩ = some chain ∧
      chain.Spent message.inner.counter := by
  -- Both kinds of message are decrypted in a record whose states are sound.
  have leads {record final : SessionRecord} {drawn : Randomness} {place : Nat → Nat}
      (prepares : Prepares suite config (store.session address) record place)
      (decrypted : SessionRecord.decrypt suite config message.inner record drawn =
        ⟨.ok plaintext, final, rest⟩) :
      ∃ chain, final.current.receiverChain? message.inner.ratchetKey = some chain ∧
        chain.Spent message.inner.counter := by
    obtain ⟨state, answer, _, answers, _, rfl⟩ := SessionRecord.decrypt_eq_ok decrypted
    obtain ⟨_, succeeded⟩ := answers.succeeded
    have prepared : ∀ state ∈ record.states, state.Sound := by
      apply (Moves.of_prepares prepares).forall_states SessionState.sound_blank
      · intro old new sound isBlank begins
        exact sound.begins isBlank begins
      · intro old new sound evolves
        exact sound.evolves evolves
      · exact reachable.sound address
    have sound := prepared state (List.mem_of_getElem? answers.found)
    rw [SessionRecord.current_answered]
    exact sound.spends succeeded
  have at_front (chain : ReceiverChain) {record : SessionRecord}
      (stored : after.session address = record)
      (found : record.current.receiverChain? message.inner.ratchetKey = some chain) :
      Place.chain? message.inner.ratchetKey ⟨after, address, 0⟩ = some chain := by
    rw [← stored] at found
    exact found
  cases message with
  | signal message =>
      obtain ⟨_, _, record, decrypted, rfl⟩ := Session.decryptMessage_eq_ok read
      obtain ⟨chain, found, spent⟩ := leads .stays decrypted
      exact ⟨chain, at_front chain (Store.session_putSession _ _ _) found, spent⟩
  | preKey message =>
      obtain ⟨used, joined, pinned, _, record, accepted, decrypted, _, rfl⟩ :=
        Session.decryptPreKeyMessage_eq_ok read
      obtain ⟨chain, found, spent⟩ := leads (Session.prepares_of_accept accepted) decrypted
      have stored : (Session.withoutUsed used (pinned.putSession address record)).session address =
          record := (Session.session_withoutUsed _ _).trans (Store.session_putSession _ _ _)
      exact ⟨chain, at_front chain stored found, spent⟩

/-- Once a state has read a message, and for as long as the state stays in its record and keeps the
receiving chain, that chain is past the message, never goes back and has no keys for it; whatever
bytes claim its ratchet key and counter are a duplicate to this state and change nothing. -/
theorem read_message_stays_spent {address : Address} {message : CiphertextMessage}
    {receiver : Receiver} {store after : Store} {random rest : Randomness} {plaintext : Bytes}
    {middle final : Place} (reachable : Reachable suite config store)
    (read : Session.decrypt suite config address message receiver store random =
      ⟨.ok plaintext, after, rest⟩)
    (first : Keeping suite config message.inner.ratchetKey ⟨after, address, 0⟩ middle)
    (second : Keeping suite config message.inner.ratchetKey middle final) :
    ∃ state earlier chain, final.state? = some state ∧
      middle.chain? message.inner.ratchetKey = some earlier ∧
      state.receiverChain? message.inner.ratchetKey = some chain ∧
      earlier.chainKey.index ≤ chain.chainKey.index ∧
      message.inner.counter < chain.chainKey.index ∧
      (∀ keys ∈ chain.skipped, keys.counter ≠ message.inner.counter) ∧
      ∀ data again random, SignalMessage.parse config data = .ok again →
        again.ratchetKey = message.inner.ratchetKey → again.counter = message.inner.counter →
        SessionState.decrypt suite config again state random =
          ⟨.error (.refused (.duplicateMessage chain.chainKey.index again.counter)), state,
            random⟩ := by
  have start : Reachable suite config after := by
    have stepped := reachable.step (.decrypt address message receiver) random
    change Reachable suite config
      (Session.decrypt suite config address message receiver store random).state at stepped
    rw [read] at stepped
    exact stepped
  obtain ⟨opened, opened_found, opened_spent⟩ := Session.spends_of_decrypt reachable read
  obtain ⟨earlier, earlier_found, earlier_spent, _⟩ := first.spent start opened_found opened_spent
  obtain ⟨chain, chain_found, spent, forward⟩ :=
    second.spent (first.reachable start) earlier_found earlier_spent
  obtain ⟨state, at_place, found⟩ := Option.bind_eq_some_iff.mp chain_found
  refine ⟨state, earlier, chain, at_place, earlier_found, found, forward, spent.behind,
    ReceiverChain.cached?_eq_none.mp spent.uncached, ?_⟩
  intro data again drawn parsed same_key same_counter
  have reached := second.reachable (first.reachable start)
  have sound := reached.sound final.address state (List.mem_of_getElem? at_place)
  have rooted : state.rootKey.isSome = true := by
    cases isRoot : state.rootKey with
    | some root => rfl
    | none =>
        rw [SessionState.receiverChain?, sound.blank isRoot] at found
        cases found
  have started := sound.started rooted
  have version_eq : again.version = state.version :=
    (SignalMessage.version_of_parse parsed).trans started.2.symm
  exact SessionState.decrypt_of_spent started.1 version_eq (same_key ▸ found)
    (same_counter ▸ spent)

/-- A new session with the caller, which puts the one that read the call into the archive. -/
def Operation.callBack : Operation :=
  .processBundle .caller
    { PreKeyBundle.newcomer with identityKey := (KeyPair.additive 4).publicKey }

theorem first_call_stays_spent_in_the_archive :
    let place := (Place.mk Store.called .caller 0).after Suite.additive {} .callBack (.repeated 24)
    place.position = 1 ∧ ∃ state chain, place.state? = some state ∧
      state.receiverChain? CiphertextMessage.firstCall.inner.ratchetKey = some chain ∧
      CiphertextMessage.firstCall.inner.counter < chain.chainKey.index := by
  intro place
  have isRead : (Session.decrypt Suite.additive {} .caller .firstCall Receiver.accept .newcomer
      (.repeated 16)).result.toOption = some [1, 2, 3] := by decide +kernel
  have read : Session.decrypt Suite.additive {} .caller .firstCall Receiver.accept .newcomer
      (.repeated 16) = ⟨.ok [1, 2, 3], .called, _⟩ :=
    Outcome.eq_of_toOption isRead
  have kept : ((Place.mk Store.called .caller 0).chain?
      CiphertextMessage.firstCall.inner.ratchetKey).isSome = true := by decide +kernel
  have archived : (place.chain? CiphertextMessage.firstCall.inner.ratchetKey).isSome = true := by
    decide +kernel
  obtain ⟨state, _, chain, at_place, _, found, _, spent, _⟩ :=
    read_message_stays_spent reachable_newcomer read (.here kept)
      ((Keeping.here kept).step .callBack (.repeated 24) archived)
  exact ⟨by decide +kernel, state, chain, at_place, found, spent⟩

end DoubleRatchet
