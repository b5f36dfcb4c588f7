import DoubleRatchet.Proofs.Group.State
import DoubleRatchet.Proofs.Session.Lookup
import DoubleRatchet.Proofs.Suite

/-!
# One lookup in two places

A session looks for the keys of a counter on one of its receiving chains, and a group for the key of an
iteration on the one chain of a sender key. Both move a window in the same way, so that whoever asks
both for the same counters hears the same from both.
-/

namespace DoubleRatchet
namespace SenderKeyState

variable {suite : Suite} {config : Config} {chain : SenderChainKey} {state : SenderKeyState}
  {iteration : UInt32} {random : Randomness}

def window (state : SenderKeyState) : Window where
  next := state.chainKey.iteration
  kept := state.skipped.map SenderMessageKey.iteration

theorem window_cacheMessageKey (config : Config) (key : SenderMessageKey)
    (state : SenderKeyState) :
    (state.cacheMessageKey config key).window = state.window.keep config key.iteration := by
  have kept_eq : (newest config.maxMessageKeys (state.skipped ++ [key])).map
      SenderMessageKey.iteration = newest config.maxMessageKeys
        (state.skipped.map SenderMessageKey.iteration ++ [key.iteration]) := by
    rw [← newest_map, List.map_append]
    rfl
  exact congrArg (Window.mk state.chainKey.iteration) kept_eq

/-- Skipping keeps every iteration that it passes. -/
theorem skip_window {count : Nat} (room : chain.iteration.toNat + count < 0x100000000)
    (state : SenderKeyState) (random : Randomness) :
    ∃ reached after, skip suite config count chain state random = ⟨.ok reached, after, random⟩ ∧
      after.window = (countersFrom count chain.iteration).foldl (Window.keep config) state.window := by
  induction count generalizing chain state with
  | zero => exact ⟨chain, state, rfl, rfl⟩
  | succ count ih =>
      have notLast : chain.iteration ≠ 0xffffffff := ne_last_iff.mpr (by omega)
      obtain ⟨next, moved⟩ : ∃ next, chain.next suite = .ok next :=
        ⟨_, SenderChainKey.next_eq_ok.mpr ⟨notLast, rfl⟩⟩
      have next_eq := SenderChainKey.toNat_iteration_of_next moved
      have roomAfter : next.iteration.toNat + count < 0x100000000 := by omega
      obtain ⟨reached, after, skipped, window_eq⟩ :=
        ih roomAfter (state.cacheMessageKey config (chain.messageKey suite))
      refine ⟨reached, after, ?_, ?_⟩
      · simp only [skip, Step.bind_run, Step.modify_run, Step.lift_run, moved]
        exact skipped
      · rw [window_eq, window_cacheMessageKey]
        obtain ⟨_, rfl⟩ := SenderChainKey.next_eq_ok.mp moved
        rfl

/-- Skipping to an iteration keeps everything before it. -/
theorem skip_to (suite : Suite) (config : Config)
    (notBehind : ¬iteration < state.chainKey.iteration) (random : Randomness) :
    ∃ reached between,
      skip suite config (iteration - state.chainKey.iteration).toNat state.chainKey state random =
        ⟨.ok reached, between, random⟩ ∧
      reached.iteration = iteration ∧ between.window = state.window.keepTo config iteration := by
  have difference := UInt32.toNat_sub_of_le _ _ (UInt32.not_lt.mp notBehind)
  rw [UInt32.lt_iff_toNat_lt] at notBehind
  have bound := iteration.toNat_lt
  have room : state.chainKey.iteration.toNat +
      (iteration - state.chainKey.iteration).toNat < 0x100000000 := by omega
  obtain ⟨reached, between, skipped, window_eq⟩ := skip_window room state random
  refine ⟨reached, between, skipped, UInt32.toNat_inj.mp ?_, window_eq⟩
  rw [toNat_iteration_of_skip skipped]
  omega

/-- A state that does not have to move gives what it keeps. -/
theorem messageKey_window_of_behind (suite : Suite) (config : Config)
    (behind : iteration < state.chainKey.iteration) (random : Randomness) :
    ∃ result after, messageKey suite config iteration state random = ⟨result, after, random⟩ ∧
      result.map SenderMessageKey.iteration = (state.window.ask config iteration).1 ∧
      after.window = (state.window.ask config iteration).2 := by
  cases cached : state.skipped.find? fun key => key.iteration = iteration with
  | some key =>
      have iteration_eq : key.iteration = iteration := by simpa using List.find?_some cached
      have isKept : iteration ∈ state.window.kept :=
        List.mem_map.mpr ⟨key, List.mem_of_find?_eq_some cached, iteration_eq⟩
      rw [state.window.ask_of_kept behind isKept]
      exact ⟨.ok key, _, messageKey_of_cached behind cached random,
        congrArg Except.ok iteration_eq,
        congrArg (Window.mk state.chainKey.iteration) (map_counter_eraseP _ _ _)⟩
  | none =>
      have uncached : ∀ key ∈ state.skipped, key.iteration ≠ iteration := by simpa using cached
      have notKept : iteration ∉ state.window.kept := by
        intro isKept
        obtain ⟨key, member, same⟩ := List.mem_map.mp isKept
        exact uncached key member same
      have spent : state.Spent iteration := ⟨behind, uncached⟩
      rw [state.window.ask_of_spent behind notKept]
      exact ⟨_, state, messageKey_of_spent spent random, rfl, rfl⟩

/-- A state that may move to an iteration does, and stops if it cannot move past it. -/
theorem messageKey_window_of_near (suite : Suite)
    (notBehind : ¬iteration < state.chainKey.iteration)
    (near : ¬config.maxForwardJumps < iteration - state.chainKey.iteration) (random : Randomness) :
    ∃ result after, messageKey suite config iteration state random = ⟨result, after, random⟩ ∧
      result.map SenderMessageKey.iteration = (state.window.ask config iteration).1 ∧
      after.window = (state.window.ask config iteration).2 := by
  obtain ⟨reached, between, skipped, reached_eq, window_eq⟩ := skip_to suite config notBehind random
  rw [messageKey, Step.get_bind, if_neg notBehind, if_neg near, Step.bind_of_ok skipped]
  by_cases last : iteration = 0xffffffff
  · have stopped : reached.next suite = .error (.aborted .overflow) := by
      rw [SenderChainKey.next, reached_eq, last]
      rfl
    rw [state.window.ask_of_last notBehind near last]
    exact ⟨.error (.aborted .overflow), between,
      Step.bind_of_error (by rw [Step.lift_run, stopped]), rfl, window_eq⟩
  · obtain ⟨next, moved⟩ : ∃ next, reached.next suite = .ok next :=
      ⟨_, SenderChainKey.next_eq_ok.mpr ⟨reached_eq ▸ last, rfl⟩⟩
    rw [state.window.ask_of_ahead notBehind near last]
    refine ⟨.ok (reached.messageKey suite), { between with chainKey := next }, ?_,
      congrArg Except.ok reached_eq, ?_⟩
    · simp only [Step.bind_run, Step.lift_run, moved, Step.modify_run, Step.pure_run]
    · obtain ⟨_, rfl⟩ := SenderChainKey.next_eq_ok.mp moved
      change Window.mk (reached.iteration + 1) between.window.kept = _
      rw [reached_eq, window_eq]

/-- What a state answers, and what it is afterwards, as far as iterations go. -/
theorem messageKey_window (suite : Suite) (config : Config) (iteration : UInt32)
    (state : SenderKeyState) (random : Randomness) :
    ∃ result after, messageKey suite config iteration state random = ⟨result, after, random⟩ ∧
      result.map SenderMessageKey.iteration = (state.window.ask config iteration).1 ∧
      after.window = (state.window.ask config iteration).2 := by
  by_cases behind : iteration < state.chainKey.iteration
  · exact messageKey_window_of_behind suite config behind random
  by_cases far : config.maxForwardJumps < iteration - state.chainKey.iteration
  · rw [state.window.ask_of_far behind far]
    refine ⟨.error (.invalidMessage (.tooFarAhead config.maxForwardJumps)), state, ?_, rfl, rfl⟩
    rw [messageKey, Step.get_bind, if_neg behind, if_pos far]
    rfl
  · exact messageKey_window_of_near suite behind far random

theorem window_afterEach (suite : Suite) (config : Config) (state : SenderKeyState)
    (random : Randomness) (asked : List UInt32) :
    (Step.afterEach (messageKey suite config) random asked state).window =
      state.window.afterEach config asked := by
  induction asked generalizing state with
  | nil => rfl
  | cons iteration asked ih =>
      obtain ⟨_, after, given, _, window_eq⟩ := messageKey_window suite config iteration state random
      have next := ih after
      rw [window_eq] at next
      rw [Step.afterEach, List.foldl_cons, given]
      exact next

end SenderKeyState

/-! ## The main statement -/

/-- A receiving chain and a sender key that begin at the same number with nothing kept, and are asked
for the same numbers, give the same answers: the keys of the number, a duplicate with the same two
numbers, too far ahead, or an end of the counting. They are at the same number after every request,
and keep keys for the same numbers in the same order. -/
theorem lookups_agree (suite : Suite) (config : Config) {key : PublicKey} {chain : ReceiverChain}
    {session : SessionState} (member : SenderKeyState)
    (found : session.receiverChain? key = some chain)
    (sameStart : chain.chainKey.index = member.chainKey.iteration)
    (chainEmpty : chain.skipped = []) (memberEmpty : member.skipped = [])
    (random : Randomness) (asked : List UInt32) :
    ∃ reached,
      (Step.afterEach (SessionState.keysFor suite config key) random asked session).receiverChain?
        key = some reached ∧
      reached.chainKey.index =
        (Step.afterEach (SenderKeyState.messageKey suite config) random asked
          member).chainKey.iteration ∧
      reached.skipped.map MessageKeys.counter =
        (Step.afterEach (SenderKeyState.messageKey suite config) random asked member).skipped.map
          SenderMessageKey.iteration ∧
      ∀ counter, ∃ verdict,
        (SessionState.keysFor suite config key counter
          (Step.afterEach (SessionState.keysFor suite config key) random asked session)
          random).result.map MessageKeys.counter = verdict ∧
        (SenderKeyState.messageKey suite config counter
          (Step.afterEach (SenderKeyState.messageKey suite config) random asked member)
          random).result.map SenderMessageKey.iteration = verdict ∧
        (verdict = .ok counter ∨
          verdict = .error (.refused (.duplicateMessage reached.chainKey.index counter)) ∨
          verdict = .error (.invalidMessage (.tooFarAhead config.maxForwardJumps)) ∨
          verdict = .error (.aborted .overflow)) := by
  obtain ⟨reached, isReached, chain_window⟩ :=
    SessionState.window_afterEach suite config found random asked
  have member_window := SenderKeyState.window_afterEach suite config member random asked
  have sameWindow : chain.window = member.window := by
    rw [ReceiverChain.window, SenderKeyState.window, sameStart, chainEmpty, memberEmpty]
    rfl
  rw [sameWindow, ← member_window] at chain_window
  refine ⟨reached, isReached, congrArg Window.next chain_window,
    congrArg Window.kept chain_window, fun counter => ?_⟩
  obtain ⟨_, _, sessionAnswers, sessionVerdict, _⟩ :=
    SessionState.keysFor_window suite config isReached counter random
  obtain ⟨_, _, memberAnswers, memberVerdict, _⟩ :=
    SenderKeyState.messageKey_window suite config counter _ random
  rw [sessionAnswers, memberAnswers, memberVerdict]
  rw [chain_window] at sessionVerdict
  refine ⟨_, sessionVerdict, rfl, ?_⟩
  rw [← chain_window]
  exact Window.ask_cases config counter reached.window

/-- A receiving chain that is about to end. -/
def ReceiverChain.nearTheEnd : ReceiverChain :=
  { ratchetKey := (KeyPair.additive 3).publicKey
    chainKey := { key := Suite.summed 32 [5], index := 0xfffffff7 } }

/-- A sender key whose chain is about to end. -/
def SenderKeyState.nearTheEnd : SenderKeyState :=
  { keyId := 5
    chainKey := { iteration := 0xfffffff7, seed := Suite.summed 32 [6] }
    signingKey := (KeyPair.additive 8).publicKey
    privateSigningKey := none }

/-- Asked for the last number, both keep the two newest of those before it and stop. -/
theorem lookups_stop_together :
    ∃ reached,
      (Step.afterEach (SessionState.keysFor Suite.additive .tight (KeyPair.additive 3).publicKey)
        (.repeated 0) [0xfffffffb, 0xfffffff7, 0xfffffff9, 0xffffffff]
        { receiverChains := [.nearTheEnd] }).receiverChain? (KeyPair.additive 3).publicKey =
          some reached ∧
      reached.skipped.map MessageKeys.counter = [0xfffffffd, 0xfffffffe] := by
  have found : ({ receiverChains := [.nearTheEnd] } : SessionState).receiverChain?
      (KeyPair.additive 3).publicKey = some .nearTheEnd := by rfl
  obtain ⟨reached, isReached, _, kept_eq, _⟩ := lookups_agree Suite.additive .tight .nearTheEnd
    found rfl rfl rfl (.repeated 0) [0xfffffffb, 0xfffffff7, 0xfffffff9, 0xffffffff]
  refine ⟨reached, isReached, kept_eq.trans ?_⟩
  decide +kernel

end DoubleRatchet
