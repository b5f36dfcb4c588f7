import DoubleRatchet.Proofs.Session.Operation
import DoubleRatchet.Proofs.Session.Receive
import DoubleRatchet.Proofs.Suite

/-!
# What ends the search for the session of a message

A message is tried on one state after the other, and a state that does not take it ends the search in
two cases only: it has spent the counter of the message, or a counter of 32 bits is used up. Every
other refusal leaves the message to the next state.
-/

namespace DoubleRatchet

open SessionRecord (isFinal)

variable {suite : Suite} {config : Config} {random rest : Randomness} {failure : Failure}

theorem KeyPair.agreement_eq_error {ours : KeyPair} {theirs : PublicKey}
    (failed : ours.agreement suite theirs = .error failure) :
    failure = .invalidKey .nonContributory := by
  unfold agreement PrivateKey.agreement at failed
  split at failed
  · cases failed
    rfl
  · cases failed

theorem KeyPair.isFinal_agreement {ours : KeyPair} {theirs : PublicKey}
    (failed : ours.agreement suite theirs = .error failure) : isFinal failure = false := by
  rw [agreement_eq_error failed]
  rfl

theorem RootKey.step_eq_error {root : RootKey} {theirs : PublicKey} {ours : KeyPair}
    (failed : root.step suite theirs ours = .error failure) :
    failure = .invalidKey .nonContributory := by
  unfold step at failed
  cases agreed : ours.agreement suite theirs with
  | error reason =>
      rw [agreed] at failed
      cases failed
      exact KeyPair.agreement_eq_error agreed
  | ok shared =>
      rw [agreed] at failed
      cases failed

namespace SessionState

variable {key : PublicKey} {counter : UInt32} {state ready : SessionState} {chain : ReceiverChain}
  {message : SignalMessage}

theorem identities_eq_error (failed : state.identities = .error failure) :
    (state.localIdentity = none ∧ failure = .noSession .localIdentity) ∨
      (state.remoteIdentity = none ∧ failure = .noSession .remoteIdentity) := by
  unfold identities at failed
  split at failed
  · rename_i missing
    cases failed
    exact .inl ⟨missing, rfl⟩
  · rename_i missing
    cases failed
    exact .inr ⟨missing, rfl⟩
  · cases failed

theorem isFinal_identities (failed : state.identities = .error failure) :
    isFinal failure = false := by
  rcases identities_eq_error failed with ⟨_, rfl⟩ | ⟨_, rfl⟩ <;> rfl

end SessionState

/-! ## Asking a chain -/

theorem ChainKey.next_eq_error {chain : ChainKey} (failed : chain.next suite = .error failure) :
    chain.index = 0xffffffff ∧ failure = .aborted .overflow :=
  last_of_successor_bind failed

theorem AuthKey.advance_eq_error {auth : AuthKey} {key : Bytes}
    (failed : auth.advance key = .error failure) :
    auth.epoch = 0xffffffff ∧ failure = .aborted .overflow :=
  last_of_successor_bind failed

/-- A chain refuses a counter that it has spent, or that is too far ahead, or that is the last one. -/
theorem ReceiverChain.request_eq_error {chain : ReceiverChain} {counter : UInt32}
    (refused : chain.request suite config counter = .error failure) :
    (chain.Spent counter ∧ failure = .refused (.duplicateMessage chain.chainKey.index counter)) ∨
      failure = .invalidMessage (.tooFarAhead config.maxForwardJumps) ∨
        counter = 0xffffffff ∧ failure = .aborted .overflow := by
  unfold request at refused
  split at refused
  · rename_i behind
    cases uncached : chain.cached? counter with
    | some keys =>
        rw [uncached] at refused
        cases refused
    | none =>
        rw [uncached] at refused
        cases refused
        exact .inl ⟨⟨behind, uncached⟩, rfl⟩
  · rename_i notBehind
    split at refused
    · cases refused
      exact .inr (.inl rfl)
    · obtain ⟨count, counter_eq⟩ := exists_way notBehind
      have reached : (chain.chainKey.later suite (counter - chain.chainKey.index).toNat).index =
          counter := by
        rw [toNat_sub_of_ahead counter_eq]
        exact index_later_of_counter counter_eq
      dsimp only at refused
      cases moved : (chain.chainKey.later suite (counter - chain.chainKey.index).toNat).next suite with
      | ok next =>
          rw [moved] at refused
          cases refused
      | error reason =>
          obtain ⟨last, isOverflow⟩ := ChainKey.next_eq_error moved
          rw [reached] at last
          rw [moved] at refused
          cases refused
          exact .inr (.inr ⟨last, isOverflow⟩)

namespace SessionState

/-- A chain that is dropped as soon as it is added ends no search. -/
theorem isFinal_messageKeys_of_missing {chainKey : ChainKey}
    (missing : state.receiverChain? key = none) (begins : chainKey.index = 0)
    (failed : (messageKeys suite config key chainKey counter state random).result =
      .error failure) : isFinal failure = false := by
  have notBehind : ¬counter < chainKey.index := by
    rw [begins]
    exact UInt32.not_lt_zero
  unfold messageKeys at failed
  rw [if_neg notBehind] at failed
  split at failed
  · cases failed
    rfl
  · cases count : (counter - chainKey.index).toNat with
    | zero =>
        have notLast : chainKey.index ≠ 0xffffffff := by
          rw [begins]
          decide
        simp only [count, skip, Step.bind_run, Step.pure_run, Step.lift_run,
          ChainKey.next_eq_ok.mpr ⟨notLast, rfl⟩, setReceiverChainKey,
          changeReceiverChain_of_missing missing] at failed
        cases failed
        rfl
    | succ count =>
        simp only [count, Step.bind_run, skip_of_missing missing] at failed
        cases failed
        rfl

/-- A turn of the ratchet fails where the state has no root key or no sending chain, where a key
agrees on nothing, and where there is no room for two more epochs. -/
theorem ratchet_eq_error {theirs : PublicKey}
    (failed : (ratchet suite config theirs state random).result = .error failure) :
    (state.rootKey = none ∧ failure = .noSession .rootKey) ∨
      (state.senderChain = none ∧ failure = .noSession .senderChain) ∨
        failure = .invalidKey .nonContributory ∨
          0xfffffffe ≤ state.authKey.epoch.toNat ∧ failure = .aborted .overflow := by
  unfold ratchet at failed
  rw [Step.get_bind] at failed
  rcases Step.result_lift_bind_eq_error.mp failed with noRoot | ⟨root, _, failed⟩
  · unfold requireRootKey at noRoot
    split at noRoot
    · rename_i missing
      cases noRoot
      exact .inl ⟨missing, rfl⟩
    · cases noRoot
  rcases Step.result_lift_bind_eq_error.mp failed with noChain | ⟨sending, _, failed⟩
  · unfold requireSenderChain at noChain
    split at noChain
    · rename_i missing
      cases noChain
      exact .inr (.inl ⟨missing, rfl⟩)
    · cases noChain
  rcases Step.result_lift_bind_eq_error.mp failed with disagreed | ⟨receiver, _, failed⟩
  · exact .inr (.inr (.inl (RootKey.step_eq_error disagreed)))
  rw [Step.draw_bind] at failed
  rcases Step.result_lift_bind_eq_error.mp failed with disagreed | ⟨sender, _, failed⟩
  · exact .inr (.inr (.inl (RootKey.step_eq_error disagreed)))
  rcases Step.result_lift_bind_eq_error.mp failed with last | ⟨middle, first, failed⟩
  · obtain ⟨isLast, isOverflow⟩ := AuthKey.advance_eq_error last
    rw [isLast]
    exact .inr (.inr (.inr ⟨by decide, isOverflow⟩))
  rcases Step.result_lift_bind_eq_error.mp failed with last | ⟨auth, _, failed⟩
  · obtain ⟨isLast, isOverflow⟩ := AuthKey.advance_eq_error last
    obtain ⟨notLast, rfl⟩ := AuthKey.advance_eq_ok.mp first
    have successor_eq := toNat_succ_of_ne notLast
    change state.authKey.epoch + 1 = 0xffffffff at isLast
    rw [isLast] at successor_eq
    change 0xffffffff = _ at successor_eq
    exact .inr (.inr (.inr ⟨by omega, isOverflow⟩))
  · cases failed

theorem request_of_refused (found : state.receiverChain? key = some chain)
    (refused : (messageKeys suite config key chain.chainKey counter state random).result =
      .error failure) : chain.request suite config counter = .error failure := by
  cases asked : chain.request suite config counter with
  | error reason =>
      have same : (messageKeys suite config key chain.chainKey counter state random).result =
          .error reason := messageKeys_of_refused found asked
      rw [refused] at same
      exact congrArg _ (Except.error.inj same).symm
  | ok answer =>
      rw [messageKeys_of_granted found asked] at refused
      cases refused

/-- Every way in which a state does not take a message. -/
inductive Fails (suite : Suite) (config : Config) (message : SignalMessage) (state : SessionState)
    (random : Randomness) : Failure → Prop where
  | mute (missing : state.senderChain = none) :
      Fails suite config message state random (.invalidMessage .uninitializedSession)
  | otherVersion : Fails suite config message state random
      (.invalidMessage (.versionMismatch message.version state.version))
  | unturned {failure : Failure} (missing : state.receiverChain? message.ratchetKey = none)
      (failed : (ratchet suite config message.ratchetKey state random).result = .error failure) :
      Fails suite config message state random failure
  | refused {failure : Failure} {ready : SessionState} {chain : ReceiverChain} {rest : Randomness}
      (isReady : Ready suite config message.ratchetKey state random ready rest)
      (found : ready.receiverChain? message.ratchetKey = some chain)
      (refused : chain.request suite config message.counter = .error failure) :
      Fails suite config message state random failure
  /-- There is no room even for one chain. -/
  | dropped {failure : Failure} {rest : Randomness}
      (missing : state.receiverChain? message.ratchetKey = none)
      (turn : Turn suite message.ratchetKey (KeyPair.generate suite random).1 state)
      (lost : (turn.turned suite config).receiverChain? message.ratchetKey = none)
      (failed : (messageKeys suite config message.ratchetKey turn.receiver.chain message.counter
        (turn.turned suite config) rest).result = .error failure) :
      Fails suite config message state random failure
  | unidentified {failure : Failure} (failed : state.identities = .error failure) :
      Fails suite config message state random failure
  | badMac : Fails suite config message state random (.invalidMessage .badMac)
  | unopened {failure : Failure} {key : Block 32} {vector ciphertext associated : Bytes}
      (failed : suite.openText config key vector ciphertext associated = .error failure) :
      Fails suite config message state random failure

theorem identities_of_ready (isReady : Ready suite config key state random ready rest) :
    ready.identities = state.identities := by
  cases isReady <;> rfl

theorem Fails.of_receivingChainKey
    (unready : (receivingChainKey suite config message.ratchetKey state random).result =
      .error failure) : Fails suite config message state random failure := by
  unfold receivingChainKey at unready
  rw [Step.get_bind] at unready
  cases known : state.receiverChain? message.ratchetKey with
  | some chain =>
      rw [known] at unready
      cases unready
  | none =>
      rw [known] at unready
      exact .unturned known unready

/-- The chain of the message refuses its counter, or a ratchet step has left no chain for it. -/
theorem Fails.of_messageKeys {chainKey : ChainKey}
    (received : receivingChainKey suite config message.ratchetKey state random =
      ⟨.ok chainKey, ready, rest⟩)
    (refused : (messageKeys suite config message.ratchetKey chainKey message.counter ready rest).result =
      .error failure) : Fails suite config message state random failure := by
  obtain ⟨isReady, used⟩ := receivingChainKey_eq_ok received
  cases found : ready.receiverChain? message.ratchetKey with
  | some chain =>
      rw [← used chain found] at refused
      exact .refused isReady found (request_of_refused found refused)
  | none =>
      cases isReady with
      | known known =>
          rw [found] at known
          cases known
      | turned missing =>
          unfold receivingChainKey at received
          rw [Step.get_bind, missing] at received
          obtain ⟨turn, rfl, same, _⟩ := ratchet_eq_ok received
          rw [same] at found refused
          exact .dropped missing turn found refused

theorem decrypt_eq_error
    (failed : (decrypt suite config message state random).result = .error failure) :
    Fails suite config message state random failure := by
  unfold decrypt at failed
  rw [Step.get_bind] at failed
  split at failed
  · rename_i mute
    cases failed
    exact .mute (Option.isNone_iff_eq_none.mp mute)
  split at failed
  · cases failed
    exact .otherVersion
  rcases Step.result_bind_eq_error.mp failed with unready | ⟨chainKey, ready, drawn, received, failed⟩
  · exact .of_receivingChainKey unready
  rcases Step.result_bind_eq_error.mp failed with refused | ⟨keys, middle, _, given, failed⟩
  · exact .of_messageKeys received refused
  obtain ⟨isReady, used⟩ := receivingChainKey_eq_ok received
  obtain ⟨chain, new, _, _, rfl, _⟩ := messageKeys_eq_ok used given
  rw [Step.get_bind] at failed
  rcases Step.result_lift_bind_eq_error.mp failed with unidentified | ⟨⟨ours, theirs⟩, _, failed⟩
  · exact .unidentified ((identities_of_ready isReady).symm.trans unidentified)
  dsimp only at failed
  split at failed
  · cases failed
    exact .badMac
  rcases Step.result_lift_bind_eq_error.mp failed with unopened | ⟨text, _, failed⟩
  · exact .unopened unopened
  · cases failed

/-- A state ends the search for the session of a message if it has spent the counter of the message,
or if a counter of its own or the one of the message is used up. -/
theorem final_of_decrypt
    (failed : (decrypt suite config message state random).result = .error failure)
    (final : isFinal failure = true) :
    (∃ chain, state.receiverChain? message.ratchetKey = some chain ∧ chain.Spent message.counter ∧
        failure = .refused (.duplicateMessage chain.chainKey.index message.counter)) ∨
      (message.counter = 0xffffffff ∨ state.receiverChain? message.ratchetKey = none ∧
        0xfffffffe ≤ state.authKey.epoch.toNat) ∧ failure = .aborted .overflow := by
  cases decrypt_eq_error failed with
  | mute => cases final
  | otherVersion => cases final
  | unturned missing failed =>
      rcases ratchet_eq_error failed with ⟨_, rfl⟩ | ⟨_, rfl⟩ | rfl | ⟨near, isOverflow⟩
      · cases final
      · cases final
      · cases final
      · exact .inr ⟨.inr ⟨missing, near⟩, isOverflow⟩
  | @refused _ _ chain _ isReady found refused =>
      rcases ReceiverChain.request_eq_error refused with ⟨spent, isDuplicate⟩ | rfl |
        ⟨last, isOverflow⟩
      · cases isReady with
        | known known => exact .inl ⟨chain, found, spent, isDuplicate⟩
        | turned missing turn =>
            have isNew := lookup_append_of_missing missing config.maxReceiverChains _ found
            have begins : turn.receiver.chain.index = 0 := RootKey.index_of_step turn.receives
            have behind := spent.behind
            rw [isNew] at behind
            dsimp only at behind
            rw [begins] at behind
            exact absurd behind UInt32.not_lt_zero
      · cases final
      · exact .inr ⟨.inl last, isOverflow⟩
  | dropped missing turn lost failed =>
      have begins : turn.receiver.chain.index = 0 := RootKey.index_of_step turn.receives
      rw [isFinal_messageKeys_of_missing lost begins failed] at final
      cases final
  | unidentified failed =>
      rw [isFinal_identities failed] at final
      cases final
  | badMac => cases final
  | unopened failed =>
      rcases Suite.openText_eq_error failed with ⟨_, rfl⟩ | rfl <;> cases final

end SessionState

/-! ## The search through a record -/

namespace SessionRecord

variable {message : SignalMessage} {record : SessionRecord} {states before : List SessionState}
  {state : SessionState} {start : Nat}

/-- A failure that ends the search through a record comes from one of its states. -/
theorem final_of_firstAnswer
    (failed : (firstAnswer suite config message start states random).1 = .error failure)
    (final : isFinal failure = true) :
    ∃ state ∈ states, ∃ random,
      (SessionState.decrypt suite config message state random).result = .error failure := by
  induction states generalizing start random with
  | nil =>
      cases failed
      cases final
  | cons first others ih =>
      unfold firstAnswer at failed
      rcases attempt : SessionState.decrypt suite config message first random with
        ⟨reason | plaintext, after, drawn⟩
      · rw [attempt] at failed
        dsimp only at failed
        split at failed
        · cases failed
          exact ⟨first, List.mem_cons_self, random, by rw [attempt]⟩
        · obtain ⟨state, member, found⟩ := ih failed
          exact ⟨state, List.mem_cons_of_mem _ member, found⟩
      · rw [attempt] at failed
        cases failed

theorem final_of_decrypt
    (failed : (decrypt suite config message record random).result = .error failure)
    (final : isFinal failure = true) :
    ∃ state ∈ record.states, ∃ random,
      (SessionState.decrypt suite config message state random).result = .error failure := by
  unfold decrypt at failed
  rw [Step.get_bind, Step.draw_bind] at failed
  rcases Step.result_lift_bind_eq_error.mp failed with ended | ⟨answer, _, failed⟩
  · exact final_of_firstAnswer ended final
  · split at failed
    · cases failed
    · cases failed

theorem firstAnswer_of_ok {final : SessionState} {plaintext : Bytes}
    (opened : SessionState.decrypt suite config message state random =
      ⟨.ok plaintext, final, rest⟩) (start : Nat) (others : List SessionState) :
    firstAnswer suite config message start (state :: others) random =
      (.ok { index := start, state := final, plaintext }, rest) := by
  unfold firstAnswer
  rw [opened]

theorem firstAnswer_of_error {final : SessionState}
    (failed : SessionState.decrypt suite config message state random =
      ⟨.error failure, final, rest⟩) (notFinal : isFinal failure = false) (start : Nat)
    (others : List SessionState) :
    firstAnswer suite config message start (state :: others) random =
      firstAnswer suite config message (start + 1) others rest := by
  rw [firstAnswer.eq_def]
  dsimp only
  rw [failed]
  simp only [notFinal, Bool.false_eq_true, if_false]

/-- States that leave a message to the next one are passed over. -/
theorem firstAnswer_append (passing : ∀ other ∈ before, ∀ random, ∃ failure,
      (SessionState.decrypt suite config message other random).result = .error failure ∧
        isFinal failure = false) (states : List SessionState) (start : Nat) (random : Randomness) :
    ∃ drawn, firstAnswer suite config message start (before ++ states) random =
      firstAnswer suite config message (start + before.length) states drawn := by
  induction before generalizing start random with
  | nil => exact ⟨random, rfl⟩
  | cons first others ih =>
      obtain ⟨failure, failed, notFinal⟩ := passing first List.mem_cons_self random
      obtain ⟨drawn, same⟩ := ih (fun other member => passing other (List.mem_cons_of_mem _ member))
        (start + 1) (SessionState.decrypt suite config message first random).random
      refine ⟨drawn, ?_⟩
      rw [List.cons_append, firstAnswer_of_error (Outcome.eq_of_result failed) notFinal, same,
        List.length_cons, Nat.add_assoc, Nat.add_comm 1]

/-- The first state that does not leave a message to the next one answers it, if it decrypts it. -/
theorem decrypt_of_opener {after : List SessionState} {plaintext : Bytes}
    (states_eq : record.states = before ++ state :: after)
    (passing : ∀ other ∈ before, ∀ random, ∃ failure,
      (SessionState.decrypt suite config message other random).result = .error failure ∧
        isFinal failure = false)
    (opens : ∀ random, ∃ final rest, SessionState.decrypt suite config message state random =
      ⟨.ok plaintext, final, rest⟩) (random : Randomness) :
    ∃ drawn final rest, SessionState.decrypt suite config message state drawn =
        ⟨.ok plaintext, final, rest⟩ ∧
      decrypt suite config message record random = ⟨.ok plaintext,
        record.answered config { index := before.length, state := final, plaintext }, rest⟩ := by
  obtain ⟨drawn, search⟩ := firstAnswer_append passing (state :: after) 0 random
  obtain ⟨final, rest, opened⟩ := opens drawn
  refine ⟨drawn, final, rest, opened, ?_⟩
  have answer_eq : firstAnswer suite config message 0 record.states random =
      (.ok { index := before.length, state := final, plaintext }, rest) := by
    rw [states_eq, search, firstAnswer_of_ok opened, Nat.zero_add]
  unfold decrypt
  rw [Step.get_bind, Step.draw_bind, answer_eq]
  unfold answered
  cases before.length with
  | zero => rfl
  | succ position => rfl

end SessionRecord

/-! ## Messages of a party -/

theorem Handshake.Responder.isFinal_secret {keys : Responder}
    (failed : keys.secret suite = .error failure) : isFinal failure = false := by
  unfold secret at failed
  rcases first : keys.ourSignedPreKey.agreement suite keys.theirIdentity with reason | shared
  · rw [first] at failed
    cases failed
    exact KeyPair.isFinal_agreement first
  rcases second : keys.ourIdentity.agreement suite keys.theirBase with reason | shared
  · rw [first, second] at failed
    cases failed
    exact KeyPair.isFinal_agreement second
  rcases third : keys.ourSignedPreKey.agreement suite keys.theirBase with reason | shared
  · rw [first, second, third] at failed
    cases failed
    exact KeyPair.isFinal_agreement third
  rw [first, second, third] at failed
  cases offered : keys.ourOneTimePreKey with
  | none =>
      rw [offered] at failed
      cases failed
  | some pair =>
      rw [offered] at failed
      dsimp only at failed
      rcases fourth : pair.agreement suite keys.theirBase with reason | shared
      · rw [fourth] at failed
        cases failed
        exact KeyPair.isFinal_agreement fourth
      · rw [fourth] at failed
        cases failed

theorem Handshake.Responder.isFinal_establish {keys : Responder} {state : SessionState}
    (failed : (keys.establish suite state random).result = .error failure) :
    isFinal failure = false := by
  unfold establish at failed
  rcases Step.result_lift_bind_eq_error.mp failed with noSecret | ⟨secret, _, failed⟩
  · exact isFinal_secret noSecret
  · cases failed

namespace Session

variable {address : Address} {store : Store} {record : SessionRecord}

theorem oneTimePair_ne_error {preKeyId : Option UInt32} :
    (oneTimePair suite preKeyId store random).result ≠ .error failure := by
  unfold oneTimePair
  cases preKeyId with
  | none => exact nofun
  | some id =>
      dsimp only
      rw [Step.get_bind]
      cases store.preKeys.find? id with
      | none => exact nofun
      | some record => exact nofun

/-- A first message that is not accepted is refused, and with another answer than that it was read
before. -/
theorem isFinal_accept {message : PreKeyMessage}
    (failed : (acceptPreKeyMessage suite config address record message store random).result =
      .error failure) : isFinal failure = false := by
  have joining (joined : (join suite config record message store random).result =
      .error failure) : isFinal failure = false := by
    unfold join at joined
    rw [Step.get_bind] at joined
    cases signed : store.signedPreKeys.find? message.signedPreKeyId with
    | none =>
        rw [signed] at joined
        cases joined
        rfl
    | some signedPreKey =>
        rw [signed] at joined
        rcases Step.result_bind_eq_error.mp joined with impossible | ⟨pair, _, _, _, joined⟩
        · exact absurd impossible oneTimePair_ne_error
        rcases Step.result_bind_eq_error.mp joined with apart | ⟨_, _, _, _, joined⟩
        · obtain ⟨_, _, established⟩ := Step.apart_eq_error.mp (Outcome.eq_of_result apart)
          exact Handshake.Responder.isFinal_establish (congrArg Outcome.result established)
        · cases joined
  unfold acceptPreKeyMessage at failed
  rw [Step.get_bind] at failed
  dsimp only at failed
  cases trusted : store.trusts address message.identityKey with
  | false =>
      simp only [trusted, Bool.not_false, if_true] at failed
      cases failed
      rfl
  | true =>
      simp only [trusted, Bool.not_true, Bool.false_eq_true, if_false] at failed
      split at failed
      · cases failed
      · rcases Step.result_bind_eq_error.mp failed with refused | ⟨_, _, _, _, failed⟩
        · exact joining refused
        · cases failed

/-- Where a message ends with a failure that ends the search for its session, a state of the record
failed so, the one included that the message let the party join. -/
theorem final_of_decrypt {message : CiphertextMessage}
    (failed : (decrypt suite config address message Receiver.accept store random).result =
      .error failure) (final : isFinal failure = true) :
    ∃ record place, Prepares suite config (store.session address) record place ∧
      ∃ state ∈ record.states, ∃ random,
        (SessionState.decrypt suite config message.inner state random).result = .error failure := by
  cases message with
  | signal message =>
      change (decryptMessage suite config address message Receiver.accept store random).result = _
        at failed
      unfold decryptMessage at failed
      rcases Step.result_bind_eq_error.mp failed with missing | ⟨record, _, _, found, failed⟩
      · unfold existing at missing
        rw [Step.get_bind] at missing
        split at missing
        · cases missing
          cases final
        · cases missing
      obtain ⟨_, rfl, rfl, rfl⟩ := existing_eq_ok.mp found
      rcases Step.result_bind_eq_error.mp failed with apart | ⟨_, _, _, _, failed⟩
      · obtain ⟨_, _, searched⟩ := Step.apart_eq_error.mp (Outcome.eq_of_result apart)
        exact ⟨_, id, .stays,
          SessionRecord.final_of_decrypt (congrArg Outcome.result searched) final⟩
      · cases failed
  | preKey message =>
      change (decryptPreKeyMessage suite config address message Receiver.accept store random).result =
        _ at failed
      unfold decryptPreKeyMessage at failed
      rw [Step.get_bind] at failed
      rcases Step.result_bind_eq_error.mp failed with refused | ⟨⟨used, joined⟩, _, _, accepted, failed⟩
      · rw [isFinal_accept refused] at final
        cases final
      rcases Step.result_bind_eq_error.mp failed with apart | ⟨_, _, _, _, failed⟩
      · obtain ⟨_, _, searched⟩ := Step.apart_eq_error.mp (Outcome.eq_of_result apart)
        exact ⟨joined, _, prepares_of_accept accepted,
          SessionRecord.final_of_decrypt (congrArg Outcome.result searched) final⟩
      · cases used with
        | none => cases failed
        | some id => cases failed

end Session
end DoubleRatchet
