import DoubleRatchet.Proofs.Session.State

/-!
# Receiving in one session state, case by case

A state that decrypts a message asks one receiving chain for the keys, after a turn of the ratchet if
the chain is a new one. What it then is follows from the turn and from the chain.
-/

namespace DoubleRatchet
namespace SessionState

variable {suite : Suite} {config : Config} {key other : PublicKey} {counter : UInt32}
  {keys : MessageKeys} {chain new : ReceiverChain} {state ready after : SessionState}
  {random rest : Randomness}

/-- Skipping caches the keys that it passes, on the chain of the ratchet key. -/
theorem skip_of_found {chainKey : ChainKey} {count : Nat}
    (found : state.receiverChain? key = some chain)
    (room : chainKey.index.toNat + count < 0x100000000) :
    skip suite config key count chainKey state random =
      ⟨.ok (chainKey.later suite count),
        state.withChain (chain.cacheAll config (chainKey.passed suite count)), random⟩ := by
  have chain_key : chain.ratchetKey = key := ReceiverChain.ratchetKey_of_lookup found
  induction count generalizing chainKey chain state with
  | zero =>
      have same : state.withChain chain = state := by
        simp only [withChain, ReceiverChain.replace_of_lookup (chain_key.symm ▸ found)]
      simp only [skip, Step.pure_run, ChainKey.later, ChainKey.passed, ReceiverChain.cacheAll,
        List.foldl_nil, same]
  | succ count ih =>
      let cached := chain.cache config (chainKey.messageKeys suite)
      have cached_key : cached.ratchetKey = key := chain_key
      have cachedRun : cacheMessageKeys config key (chainKey.messageKeys suite) state random =
          ⟨.ok (), state.withChain cached, random⟩ :=
        changeReceiverChain_of_found found cached_key
      have notLast : chainKey.index ≠ 0xffffffff := ne_last_iff.mpr (by omega)
      have moved : chainKey.next suite = .ok (chainKey.following suite) :=
        ChainKey.next_eq_ok.mpr ⟨notLast, rfl⟩
      have step : (chainKey.following suite).index.toNat = chainKey.index.toNat + 1 :=
        ChainKey.toNat_index_following (by omega)
      have cachedFound : (state.withChain cached).receiverChain? key = some cached := by
        have present : (state.receiverChain? cached.ratchetKey).isSome = true := by
          rw [cached_key, found]
          rfl
        have self := receiverChain?_withChain_self present
        rwa [cached_key] at self
      have roomAfter : (chainKey.following suite).index.toNat + count < 0x100000000 := by omega
      have remaining := ih cachedFound roomAfter cached_key
      simp only [skip, Step.bind_run, cachedRun, Step.lift_run, moved]
      rw [remaining]
      have sameKey : cached.ratchetKey =
          (cached.cacheAll config ((chainKey.following suite).passed suite count)).ratchetKey :=
        (ReceiverChain.ratchetKey_cacheAll _ _ _).symm
      rw [withChain_withChain sameKey]
      rfl

theorem skip_of_missing {chainKey : ChainKey} {count : Nat}
    (missing : state.receiverChain? key = none) :
    skip suite config key (count + 1) chainKey state random =
      ⟨.error (.invalidMessage .noReceiverChain), state, random⟩ := by
  have refused : cacheMessageKeys config key (chainKey.messageKeys suite) state random =
      ⟨.error (.invalidMessage .noReceiverChain), state, random⟩ :=
    changeReceiverChain_of_missing missing
  simp only [skip, Step.bind_run, refused]

/-! ## The keys of a message -/

theorem messageKeys_of_granted (found : state.receiverChain? key = some chain)
    (granted : chain.request suite config counter = .ok (keys, new)) :
    messageKeys suite config key chain.chainKey counter state random =
      ⟨.ok keys, state.withChain new, random⟩ := by
  have chain_key : chain.ratchetKey = key := ReceiverChain.ratchetKey_of_lookup found
  rcases ReceiverChain.request_eq_ok.mp granted with ⟨behind, cached⟩ |
    ⟨count, counter_eq, notLast, near, keys_eq⟩
  · simp only [messageKeys, behind, if_true, Step.bind_run, takeMessageKeys_of_cached found cached]
    rfl
  · have counterBound := counter.toNat_lt
    have notBehind := not_lt_of_ahead counter_eq
    have difference := toNat_sub_of_ahead counter_eq
    have notFar : ¬config.maxForwardJumps < counter - chain.chainKey.index := by
      rw [lt_sub_of_ahead counter_eq]
      exact Nat.not_lt_of_le near
    have moved : (chain.chainKey.later suite count).next suite = _ :=
      ReceiverChain.next_later_of_counter counter_eq notLast
    let cached := chain.cacheAll config (chain.chainKey.passed suite count)
    have cached_key : cached.ratchetKey = key :=
      (ReceiverChain.ratchetKey_cacheAll _ _ _).trans chain_key
    have cachedFound : (state.withChain cached).receiverChain? key = some cached := by
      have present : (state.receiverChain? cached.ratchetKey).isSome = true := by
        rw [cached_key, found]
        rfl
      have self := receiverChain?_withChain_self present
      rwa [cached_key] at self
    have stored : setReceiverChainKey key (chain.chainKey.later suite (count + 1))
        (state.withChain cached) random = ⟨.ok (), (state.withChain cached).withChain
          { cached with chainKey := chain.chainKey.later suite (count + 1) }, random⟩ :=
      changeReceiverChain_of_found cachedFound cached_key
    have same : cached.ratchetKey =
        { cached with chainKey := chain.chainKey.later suite (count + 1) }.ratchetKey := rfl
    rw [withChain_withChain same] at stored
    simp only [messageKeys, if_neg notBehind, if_neg notFar, difference, Step.bind_run,
      skip_of_found found (by omega : chain.chainKey.index.toNat + count < 0x100000000), Step.lift_run,
      moved, cached] at stored ⊢
    simp only [stored, Step.pure_run, keys_eq]

theorem messageKeys_of_refused {failure : Failure} (found : state.receiverChain? key = some chain)
    (refused : chain.request suite config counter = .error failure) :
    (messageKeys suite config key chain.chainKey counter state random).result =
      .error failure := by
  unfold ReceiverChain.request at refused
  split at refused
  · rename_i behind
    cases cached : chain.cached? counter with
    | some keys =>
        rw [cached] at refused
        cases refused
    | none =>
        rw [cached] at refused
        have uncached : (state.receiverChain? key).bind (·.cached? counter) = none := by
          rw [found]
          exact cached
        simp only [messageKeys, behind, if_true, Step.bind_run,
          takeMessageKeys_of_uncached uncached]
        cases refused
        rfl
  · rename_i notBehind
    split at refused
    · rename_i far
      simp only [messageKeys, notBehind, if_false, far, if_true]
      cases refused
      rfl
    · rename_i notFar
      obtain ⟨count, counter_eq⟩ := exists_way notBehind
      have difference := toNat_sub_of_ahead counter_eq
      have counterBound := counter.toNat_lt
      have room : chain.chainKey.index.toNat + (counter - chain.chainKey.index).toNat < 0x100000000 := by
        omega
      dsimp only at refused
      cases moved : (chain.chainKey.later suite (counter - chain.chainKey.index).toNat).next suite with
      | ok next =>
          rw [moved] at refused
          cases refused
      | error reason =>
          rw [moved] at refused
          simp only [messageKeys, if_neg notBehind, if_neg notFar, Step.bind_run,
            skip_of_found found room, Step.lift_run, moved]
          cases refused
          rfl

/-- A spent counter is answered without any change. -/
theorem messageKeys_of_spent (found : state.receiverChain? key = some chain)
    (spent : chain.Spent counter) :
    messageKeys suite config key chain.chainKey counter state random =
      ⟨.error (.refused (.duplicateMessage chain.chainKey.index counter)), state, random⟩ := by
  have uncached : (state.receiverChain? key).bind (·.cached? counter) = none := by
    rw [found]
    exact spent.uncached
  simp only [messageKeys, spent.behind, if_true, Step.bind_run,
    takeMessageKeys_of_uncached uncached, Step.refuse_run]

/-- Without its chain no counter has keys, whatever chain key is tried. -/
theorem messageKeys_of_missing {chainKey : ChainKey} (missing : state.receiverChain? key = none) :
    (messageKeys suite config key chainKey counter state random).result ≠ .ok keys := by
  have uncached : (state.receiverChain? key).bind (·.cached? counter) = none := by rw [missing]; rfl
  unfold messageKeys
  split
  · simp only [Step.bind_run, takeMessageKeys_of_uncached uncached, Step.refuse_run]
    exact nofun
  · split
    · exact nofun
    · cases count : (counter - chainKey.index).toNat with
      | zero =>
          cases moved : chainKey.next suite with
          | error failure =>
              simp only [skip, Step.bind_run, Step.pure_run, Step.lift_run, moved]
              exact nofun
          | ok next =>
              simp only [skip, Step.bind_run, Step.pure_run, Step.lift_run, moved,
                setReceiverChainKey, changeReceiverChain_of_missing missing]
              exact nofun
      | succ count =>
          simp only [Step.bind_run, skip_of_missing missing]
          exact nofun

theorem messageKeys_eq_ok {chainKey : ChainKey}
    (used : ∀ chain, state.receiverChain? key = some chain → chain.chainKey = chainKey)
    (given : messageKeys suite config key chainKey counter state random =
      ⟨.ok keys, after, rest⟩) :
    ∃ chain new, state.receiverChain? key = some chain ∧
      chain.request suite config counter = .ok (keys, new) ∧
      after = state.withChain new ∧ rest = random := by
  cases found : state.receiverChain? key with
  | none => exact absurd (congrArg Outcome.result given) (messageKeys_of_missing found)
  | some chain =>
      rw [← used chain found] at given
      cases asked : chain.request suite config counter with
      | error failure =>
          have refused : (messageKeys suite config key chain.chainKey counter state random).result =
              .error failure := messageKeys_of_refused found asked
          rw [given] at refused
          cases refused
      | ok answer =>
          obtain ⟨asKeys, new⟩ := answer
          rw [messageKeys_of_granted found asked] at given
          cases given
          exact ⟨chain, new, rfl, asked, rfl, rfl⟩

/-! ## A turn of the ratchet -/

/-- What the two steps of the root key around a fresh ratchet key give. -/
structure Turn (suite : Suite) (theirs : PublicKey) (fresh : KeyPair) (state : SessionState) where
  root : RootKey
  sending : SenderChain
  receiver : RootStep
  sender : RootStep
  auth : AuthKey
  hasRoot : state.rootKey = some root
  hasSending : state.senderChain = some sending
  receives : root.step suite theirs sending.ratchetKey = .ok receiver
  sends : receiver.root.step suite theirs fresh = .ok sender
  advances : ∃ middle, state.authKey.advance receiver.auth.key = .ok middle ∧
    middle.advance sender.auth.key = .ok auth

namespace Turn

variable {theirs : PublicKey} {fresh : KeyPair}

/-- The state with the new receiving chain and the new sending chain. -/
def turned (suite : Suite) (config : Config) (turn : Turn suite theirs fresh state) : SessionState :=
  { state.addReceiverChain config theirs turn.receiver.chain with
    rootKey := some turn.sender.root
    previousCounter :=
      if turn.sending.chainKey.index = 0 then 0 else turn.sending.chainKey.index - 1
    senderChain := some { ratchetKey := fresh, chainKey := turn.sender.chain }
    lastFingerprintHash := Handshake.linkHash suite state.fingerprintHash theirs
    fingerprintHash := Handshake.linkHash suite
      (Handshake.linkHash suite state.fingerprintHash theirs) fresh.publicKey
    authKey := turn.auth }

theorem receiverChains_turned (config : Config) (turn : Turn suite theirs fresh state) :
    (turn.turned suite config).receiverChains = newest config.maxReceiverChains
      (state.receiverChains ++ [{ ratchetKey := theirs, chainKey := turn.receiver.chain }]) := rfl

end Turn

theorem ratchet_of_turn {theirs : PublicKey}
    (turn : Turn suite theirs (KeyPair.generate suite random).1 state) :
    ratchet suite config theirs state random =
      ⟨.ok turn.receiver.chain, turn.turned suite config, (KeyPair.generate suite random).2⟩ := by
  obtain ⟨middle, first, second⟩ := turn.advances
  simp only [ratchet, Step.bind_run, Step.get_run, Step.lift_run, Step.draw_run, requireRootKey,
    turn.hasRoot, requireSenderChain, turn.hasSending, turn.receives, turn.sends, first, second,
    Step.modify_run, Step.pure_run]
  rfl

theorem ratchet_eq_ok {theirs : PublicKey} {chainKey : ChainKey}
    (succeeded : ratchet suite config theirs state random = ⟨.ok chainKey, after, rest⟩) :
    ∃ turn : Turn suite theirs (KeyPair.generate suite random).1 state,
      chainKey = turn.receiver.chain ∧ after = turn.turned suite config ∧
        rest = (KeyPair.generate suite random).2 := by
  unfold ratchet at succeeded
  rw [Step.get_bind] at succeeded
  obtain ⟨root, isRoot, succeeded⟩ := Step.lift_bind_eq_ok.mp succeeded
  obtain ⟨sending, isSending, succeeded⟩ := Step.lift_bind_eq_ok.mp succeeded
  obtain ⟨receiver, receives, succeeded⟩ := Step.lift_bind_eq_ok.mp succeeded
  rw [Step.draw_bind] at succeeded
  obtain ⟨sender, sends, succeeded⟩ := Step.lift_bind_eq_ok.mp succeeded
  obtain ⟨middle, first, succeeded⟩ := Step.lift_bind_eq_ok.mp succeeded
  obtain ⟨auth, second, succeeded⟩ := Step.lift_bind_eq_ok.mp succeeded
  cases succeeded
  let turn : Turn suite theirs (KeyPair.generate suite random).1 state :=
    { root, sending, receiver, sender, auth, receives, sends
      hasRoot := requireRootKey_eq_ok.mp isRoot
      hasSending := requireSenderChain_eq_ok.mp isSending
      advances := ⟨middle, first, second⟩ }
  exact ⟨turn, rfl, rfl, rfl⟩

/-- The state in which the keys of a message are looked for. -/
inductive Ready (suite : Suite) (config : Config) (theirs : PublicKey) (state : SessionState)
    (random : Randomness) : SessionState → Randomness → Prop where
  | known (found : (state.receiverChain? theirs).isSome = true) :
      Ready suite config theirs state random state random
  | turned (missing : state.receiverChain? theirs = none)
      (turn : Turn suite theirs (KeyPair.generate suite random).1 state) :
      Ready suite config theirs state random (turn.turned suite config)
        (KeyPair.generate suite random).2

theorem lookup_append_of_missing {chains : List ReceiverChain}
    (missing : ReceiverChain.lookup key chains = none) (limit : Nat) (new : ReceiverChain)
    (found : ReceiverChain.lookup key (newest limit (chains ++ [new])) = some chain) :
    chain = new := by
  have member := (newest_sublist limit _).subset (List.mem_of_find?_eq_some found)
  rcases List.mem_append.mp member with old | isNew
  · have different := List.find?_eq_none.mp missing chain old
    have same := ReceiverChain.ratchetKey_of_lookup found
    simp [same] at different
  · exact List.mem_singleton.mp isNew

/-- Where there is a chain to ask, its own chain key is the one that is used. -/
theorem receivingChainKey_of_ready {theirs : PublicKey}
    (isReady : Ready suite config theirs state random ready rest)
    (found : ready.receiverChain? theirs = some chain) :
    receivingChainKey suite config theirs state random = ⟨.ok chain.chainKey, ready, rest⟩ := by
  unfold receivingChainKey
  rw [Step.get_bind]
  cases isReady with
  | known => simp only [found, Step.pure_run]
  | turned missing turn =>
      have isNew := lookup_append_of_missing missing config.maxReceiverChains _ found
      simp only [missing, ratchet_of_turn turn, isNew]

theorem receivingChainKey_eq_ok {theirs : PublicKey} {chainKey : ChainKey}
    (succeeded : receivingChainKey suite config theirs state random = ⟨.ok chainKey, ready, rest⟩) :
    Ready suite config theirs state random ready rest ∧
      ∀ chain, ready.receiverChain? theirs = some chain → chain.chainKey = chainKey := by
  unfold receivingChainKey at succeeded
  rw [Step.get_bind] at succeeded
  cases known : state.receiverChain? theirs with
  | some chain =>
      rw [known] at succeeded
      cases succeeded
      refine ⟨.known (by rw [known]; rfl), fun other found => ?_⟩
      rw [known] at found
      cases found
      rfl
  | none =>
      rw [known] at succeeded
      obtain ⟨turn, rfl, rfl, rfl⟩ := ratchet_eq_ok succeeded
      refine ⟨.turned known turn, fun chain found => ?_⟩
      rw [lookup_append_of_missing known config.maxReceiverChains _ found]

/-! ## Decryption -/

/-- How a message is opened in a state that is ready for it. -/
structure Decryption (suite : Suite) (config : Config) (message : SignalMessage)
    (plaintext : Bytes) (state ready : SessionState) where
  chain : ReceiverChain
  new : ReceiverChain
  keys : MessageKeys
  ours : PublicKey
  theirs : PublicKey
  sends : state.senderChain.isSome = true
  version_eq : message.version = state.version
  found : ready.receiverChain? message.ratchetKey = some chain
  granted : chain.request suite config message.counter = .ok (keys, new)
  identities_eq : ready.identities = .ok (ours, theirs)
  authentic : message.verifyMac suite config theirs ours keys.macKey.bytes = true
  reads : suite.openText config keys.cipherKey keys.vector.bytes message.ciphertext
    (SignalMessage.associatedData message.version message.ratchetKey message.counter) =
      .ok plaintext

variable {message : SignalMessage} {plaintext : Bytes} {final : SessionState}

/-- The chain has given the keys, and the other side has answered. -/
def Decryption.opened (decryption : Decryption suite config message plaintext state ready) :
    SessionState :=
  { ready.withChain decryption.new with pending := none }

theorem decrypt_of_decryption
    (isReady : Ready suite config message.ratchetKey state random ready rest)
    (decryption : Decryption suite config message plaintext state ready) :
    decrypt suite config message state random = ⟨.ok plaintext, decryption.opened, rest⟩ := by
  obtain ⟨chain, new, keys, ours, theirs, sends, version_eq, found, granted, identities_eq,
    authentic, reads⟩ := decryption
  have notNone : state.senderChain.isNone = false := by simpa using sends
  have identified : (ready.withChain new).identities = .ok (ours, theirs) := identities_eq
  unfold decrypt
  simp only [notNone, Bool.false_eq_true, if_false, version_eq, ne_eq,
    not_true_eq_false, Step.bind_run, receivingChainKey_of_ready isReady found,
    messageKeys_of_granted found granted, Step.get_run, identified, Step.lift_run, authentic,
    Bool.not_true]
  rw [← version_eq, reads]
  rfl

theorem decrypt_eq_ok
    (succeeded : decrypt suite config message state random = ⟨.ok plaintext, final, rest⟩) :
    ∃ ready, Ready suite config message.ratchetKey state random ready rest ∧
      ∃ decryption : Decryption suite config message plaintext state ready,
        final = decryption.opened := by
  unfold decrypt at succeeded
  rw [Step.get_bind] at succeeded
  cases sends : state.senderChain.isNone with
  | true =>
      rw [sends] at succeeded
      cases succeeded
  | false =>
      by_cases version_eq : message.version = state.version
      · simp only [sends, Bool.false_eq_true, if_false, version_eq, ne_eq, not_true_eq_false]
          at succeeded
        obtain ⟨chainKey, ready, drawn, received, asking⟩ := Step.bind_eq_ok.mp succeeded
        obtain ⟨isReady, used⟩ := receivingChainKey_eq_ok received
        obtain ⟨keys, _, _, given, identifying⟩ := Step.bind_eq_ok.mp asking
        obtain ⟨chain, new, found, granted, rfl, rfl⟩ := messageKeys_eq_ok used given
        rw [Step.get_bind] at identifying
        obtain ⟨⟨ours, theirs⟩, identities_eq, checking⟩ := Step.lift_bind_eq_ok.mp identifying
        cases authentic : message.verifyMac suite config theirs ours keys.macKey.bytes with
        | false =>
            simp only [authentic, Bool.not_false, if_true] at checking
            cases checking
        | true =>
            simp only [authentic, Bool.not_true, Bool.false_eq_true, if_false] at checking
            obtain ⟨text, reads, settled⟩ := Step.lift_bind_eq_ok.mp checking
            cases settled
            let decryption : Decryption suite config message plaintext state ready :=
              { chain, new, keys, ours, theirs, version_eq, found, granted, identities_eq,
                authentic, reads := version_eq ▸ reads
                sends := by simpa using sends }
            exact ⟨ready, isReady, decryption, rfl⟩
      · simp only [sends, Bool.false_eq_true, if_false, version_eq, ne_eq, not_false_eq_true,
          if_true] at succeeded
        cases succeeded

/-- What its chain refuses, a state refuses. -/
theorem decrypt_of_refused {chain : ReceiverChain} {failure : Failure}
    (isReady : Ready suite config message.ratchetKey state random ready rest)
    (sends : state.senderChain.isSome = true) (version_eq : message.version = state.version)
    (found : ready.receiverChain? message.ratchetKey = some chain)
    (refused : chain.request suite config message.counter = .error failure) :
    (decrypt suite config message state random).result = .error failure := by
  have notNone : state.senderChain.isNone = false := by simpa using sends
  have result_eq : (messageKeys suite config message.ratchetKey chain.chainKey message.counter ready
      rest).result = .error failure := messageKeys_of_refused found refused
  have refusedKeys := Outcome.eq_of_result result_eq
  unfold decrypt
  simp only [Step.get_bind, notNone, Bool.false_eq_true, if_false, version_eq, ne_eq,
    not_true_eq_false]
  rw [Step.bind_of_ok (receivingChainKey_of_ready isReady found), Step.bind_of_error refusedKeys]

/-- The opener sends on as before, or under a ratchet key that it has just drawn. -/
theorem senderChain_of_decrypt
    (opened : decrypt suite config message state random = ⟨.ok plaintext, final, rest⟩) :
    (state.receiverChain? message.ratchetKey).isSome = true ∧
        final.senderChain = state.senderChain ∨
      (state.receiverChain? message.ratchetKey).isSome = false ∧ ∃ chain,
        final.senderChain = some chain ∧ chain.ratchetKey = (KeyPair.generate suite random).1 := by
  obtain ⟨ready, isReady, decryption, rfl⟩ := decrypt_eq_ok opened
  cases isReady with
  | known known => exact .inl ⟨known, rfl⟩
  | turned missing turn =>
      right
      rw [missing]
      exact ⟨rfl, _, rfl, rfl⟩

/-- A session keeps the base key that it was begun with. -/
theorem initiatorBaseKey_of_decrypt
    (opened : decrypt suite config message state random = ⟨.ok plaintext, final, rest⟩) :
    final.initiatorBaseKey = state.initiatorBaseKey := by
  obtain ⟨ready, isReady, decryption, rfl⟩ := decrypt_eq_ok opened
  cases isReady with
  | known => rfl
  | turned => rfl

/-- A new chain has to be kept at least until its first message is opened. -/
theorem known_or_room_of_decrypt
    (opened : decrypt suite config message state random = ⟨.ok plaintext, final, rest⟩) :
    (state.receiverChain? message.ratchetKey).isSome = true ∨ 0 < config.maxReceiverChains := by
  obtain ⟨ready, isReady, decryption, rfl⟩ := decrypt_eq_ok opened
  cases isReady with
  | known known => exact .inl known
  | turned missing turn =>
      right
      have kept := List.length_pos_of_mem (List.mem_of_find?_eq_some decryption.found)
      rw [turn.receiverChains_turned] at kept
      exact Nat.lt_of_lt_of_le kept (length_newest_le _ _)

/-- A state that has spent a counter calls its message a duplicate, and nothing changes. -/
theorem decrypt_of_spent {chain : ReceiverChain} (sends : state.senderChain.isSome = true)
    (version_eq : message.version = state.version)
    (found : state.receiverChain? message.ratchetKey = some chain)
    (spent : chain.Spent message.counter) :
    decrypt suite config message state random =
      ⟨.error (.refused (.duplicateMessage chain.chainKey.index message.counter)), state,
        random⟩ := by
  have notNone : state.senderChain.isNone = false := by simpa using sends
  have isReady : Ready suite config message.ratchetKey state random state random :=
    .known (by rw [found]; rfl)
  unfold decrypt
  simp only [Step.get_run, notNone, Bool.false_eq_true, if_false, version_eq, ne_eq,
    not_true_eq_false, Step.bind_run, receivingChainKey_of_ready isReady found,
    messageKeys_of_spent found spent]

end SessionState
end DoubleRatchet
