import DoubleRatchet.Proofs.Session.Receive

/-!
# One counter after another

A chain is asked for the keys of many counters in turn. Which of them it gives keys for is decided by
where it stands, by the counters that it keeps keys for and by the limits: by its window. The keys
themselves never matter for that.
-/

namespace DoubleRatchet

/-- The state after some requests were made in turn. A request that fails leaves what it did to the
state until then, and the next one goes on from there; none of those made here draws anything. -/
def Step.afterEach {ι σ α : Type} (request : ι → Step σ α) (random : Randomness) (asked : List ι)
    (state : σ) : σ :=
  asked.foldl (fun state next => (request next state random).state) state

theorem Step.afterEach_append {ι σ α : Type} (request : ι → Step σ α) (random : Randomness)
    (asked : List ι) (last : ι) (state : σ) :
    afterEach request random (asked ++ [last]) state =
      (request last (afterEach request random asked state) random).state := by
  simp only [afterEach, List.foldl_append, List.foldl_cons, List.foldl_nil]

/-- The requests that were granted among those made in turn. -/
def Step.granted {ι σ α : Type} (request : ι → Step σ α) (random : Randomness) :
    List ι → σ → List ι
  | [], _ => []
  | next :: asked, state =>
      let outcome := request next state random
      let later := granted request random asked outcome.state
      if outcome.result.isOk then next :: later else later

theorem Step.granted_append {ι σ α : Type} (request : ι → Step σ α) (random : Randomness)
    (asked : List ι) (last : ι) (state : σ) :
    granted request random (asked ++ [last]) state =
      granted request random asked state ++
        if (request last (afterEach request random asked state) random).result.isOk then [last]
        else [] := by
  induction asked generalizing state with
  | nil => rfl
  | cons next asked ih =>
      simp only [List.cons_append, granted, ih]
      split
      · rfl
      · rfl

theorem Step.granted_append_of_ok {ι σ α : Type} {request : ι → Step σ α} {random rest : Randomness}
    {asked : List ι} {last : ι} {state after : σ} {value : α}
    (given : request last (afterEach request random asked state) random =
      ⟨.ok value, after, rest⟩) :
    granted request random (asked ++ [last]) state =
      granted request random asked state ++ [last] := by
  rw [granted_append]
  simp only [given]
  rfl

theorem Step.granted_append_of_error {ι σ α : Type} {request : ι → Step σ α}
    {random rest : Randomness} {asked : List ι} {last : ι} {state after : σ} {failure : Failure}
    (refused : request last (afterEach request random asked state) random =
      ⟨.error failure, after, rest⟩) :
    granted request random (asked ++ [last]) state = granted request random asked state := by
  rw [granted_append]
  simp only [refused]
  exact List.append_nil _

/-- Few keys are kept, and messages are soon too far ahead. -/
def Config.tight : Config :=
  { maxMessageKeys := 2, maxForwardJumps := 5 }

/-! ## Windows -/

/-- Where a chain stands, and the counters of skipped messages that it keeps keys for, oldest
first. -/
structure Window where
  next : UInt32
  kept : List UInt32
  deriving DecidableEq

/-- Some counters in a row. -/
def countersFrom : (count : Nat) → (first : UInt32) → List UInt32
  | 0, _ => []
  | count + 1, first => first :: countersFrom count (first + 1)

namespace Window

variable (config : Config)

def keep (window : Window) (counter : UInt32) : Window :=
  { window with kept := newest config.maxMessageKeys (window.kept ++ [counter]) }

/-- The window once everything before a counter is kept. -/
def keepTo (counter : UInt32) (window : Window) : Window :=
  (countersFrom (counter - window.next).toNat window.next).foldl (keep config) window

/-- What is answered to a counter, and the window after it. A chain that cannot go past its last
counter has by then kept the counters on the way there. -/
def ask (counter : UInt32) (window : Window) : Except Failure UInt32 × Window :=
  if counter < window.next then
    if counter ∈ window.kept then (.ok counter, { window with kept := window.kept.erase counter })
    else (.error (.refused (.duplicateMessage window.next counter)), window)
  else if config.maxForwardJumps < counter - window.next then
    (.error (.invalidMessage (.tooFarAhead config.maxForwardJumps)), window)
  else if counter = 0xffffffff then (.error (.aborted .overflow), window.keepTo config counter)
  else (.ok counter, { window.keepTo config counter with next := counter + 1 })

def afterEach (asked : List UInt32) (window : Window) : Window :=
  asked.foldl (fun window counter => (window.ask config counter).2) window

variable {config} (window : Window) {counter : UInt32}

theorem ask_of_kept (behind : counter < window.next) (isKept : counter ∈ window.kept) :
    window.ask config counter = (.ok counter, { window with kept := window.kept.erase counter }) := by
  rw [ask, if_pos behind, if_pos isKept]

theorem ask_of_spent (behind : counter < window.next) (notKept : counter ∉ window.kept) :
    window.ask config counter =
      (.error (.refused (.duplicateMessage window.next counter)), window) := by
  rw [ask, if_pos behind, if_neg notKept]

theorem ask_of_far (notBehind : ¬counter < window.next)
    (far : config.maxForwardJumps < counter - window.next) :
    window.ask config counter =
      (.error (.invalidMessage (.tooFarAhead config.maxForwardJumps)), window) := by
  rw [ask, if_neg notBehind, if_pos far]

theorem ask_of_last (notBehind : ¬counter < window.next)
    (near : ¬config.maxForwardJumps < counter - window.next) (last : counter = 0xffffffff) :
    window.ask config counter = (.error (.aborted .overflow), window.keepTo config counter) := by
  rw [ask, if_neg notBehind, if_neg near, if_pos last]

theorem ask_of_ahead (notBehind : ¬counter < window.next)
    (near : ¬config.maxForwardJumps < counter - window.next) (notLast : counter ≠ 0xffffffff) :
    window.ask config counter =
      (.ok counter, { window.keepTo config counter with next := counter + 1 }) := by
  rw [ask, if_neg notBehind, if_neg near, if_neg notLast]

/-- A counter is answered with itself, as a duplicate, as too far ahead, or not at all. -/
theorem ask_cases (config : Config) (counter : UInt32) (window : Window) :
    (window.ask config counter).1 = .ok counter ∨
      (window.ask config counter).1 = .error (.refused (.duplicateMessage window.next counter)) ∨
      (window.ask config counter).1 =
        .error (.invalidMessage (.tooFarAhead config.maxForwardJumps)) ∨
      (window.ask config counter).1 = .error (.aborted .overflow) := by
  unfold ask
  split
  · split
    · exact .inl rfl
    · exact .inr (.inl rfl)
  · split
    · exact .inr (.inr (.inl rfl))
    · split
      · exact .inr (.inr (.inr rfl))
      · exact .inl rfl

end Window

theorem map_counter_eraseP {κ : Type} (counterOf : κ → UInt32) (counter : UInt32) (cache : List κ) :
    (cache.eraseP fun keys => counterOf keys = counter).map counterOf =
      (cache.map counterOf).erase counter := by
  induction cache with
  | nil => rfl
  | cons first rest ih =>
      by_cases same : counterOf first = counter
      · simp [same]
      · simp [same, ih]

/-! ## Receiving chains -/

namespace ChainKey

variable {suite : Suite} {chain : ChainKey} {count : Nat}

theorem map_counter_passed (chain : ChainKey) (count : Nat) :
    (chain.passed suite count).map MessageKeys.counter = countersFrom count chain.index := by
  induction count generalizing chain with
  | zero => rfl
  | succ count ih =>
      rw [passed, List.map_cons, ih]
      rfl

theorem next_of_last (last : chain.index = 0xffffffff) :
    chain.next suite = .error (.aborted .overflow) := by
  unfold next
  rw [last]
  rfl

end ChainKey

namespace ReceiverChain

variable {config : Config} {chain : ReceiverChain}

def window (chain : ReceiverChain) : Window where
  next := chain.chainKey.index
  kept := chain.skipped.map MessageKeys.counter

theorem window_cacheAll (config : Config) (passed : List MessageKeys) (chain : ReceiverChain) :
    (chain.cacheAll config passed).window =
      (passed.map MessageKeys.counter).foldl (Window.keep config) chain.window := by
  induction passed generalizing chain with
  | nil => rfl
  | cons keys passed ih =>
      have cached : (chain.cache config keys).window = chain.window.keep config keys.counter := by
        have kept_eq : (newest config.maxMessageKeys (chain.skipped ++ [keys])).map
            MessageKeys.counter = newest config.maxMessageKeys
              (chain.skipped.map MessageKeys.counter ++ [keys.counter]) := by
          rw [← newest_map, List.map_append]
          rfl
        exact congrArg (Window.mk chain.chainKey.index) kept_eq
      rw [List.map_cons, List.foldl_cons, ← cached]
      exact ih (chain.cache config keys)

end ReceiverChain

namespace SessionState

/-- The keys of a counter under a ratchet key of the other side, as a message asks for them. -/
def keysFor (suite : Suite) (config : Config) (theirs : PublicKey) (counter : UInt32) :
    Step SessionState MessageKeys := do
  let chain ← receivingChainKey suite config theirs
  messageKeys suite config theirs chain counter

variable {suite : Suite} {config : Config} {key : PublicKey} {counter : UInt32}
  {keys : MessageKeys} {chain new : ReceiverChain} {state : SessionState} {random : Randomness}

theorem withChain_of_found (found : state.receiverChain? key = some chain) :
    state.withChain chain = state := by
  have chain_key : chain.ratchetKey = key := ReceiverChain.ratchetKey_of_lookup found
  simp only [withChain, ReceiverChain.replace_of_lookup (chain_key.symm ▸ found)]

/-- A chain that took the place of another one of its ratchet key is found there. -/
theorem found_withChain (found : state.receiverChain? key = some chain)
    (same : new.ratchetKey = chain.ratchetKey) :
    (state.withChain new).receiverChain? key = some new := by
  have new_key : new.ratchetKey = key := same.trans (ReceiverChain.ratchetKey_of_lookup found)
  subst new_key
  exact receiverChain?_withChain_self (by rw [found]; rfl)

theorem keysFor_eq (found : state.receiverChain? key = some chain) (counter : UInt32)
    (random : Randomness) :
    keysFor suite config key counter state random =
      messageKeys suite config key chain.chainKey counter state random :=
  Step.bind_of_ok (receivingChainKey_of_ready (.known (by rw [found]; rfl)) found)

section Found

variable (found : state.receiverChain? key = some chain)

include found

theorem keysFor_of_granted (granted : chain.Granted suite config counter keys new)
    (random : Randomness) :
    keysFor suite config key counter state random = ⟨.ok keys, state.withChain new, random⟩ := by
  rw [keysFor_eq found]
  exact messageKeys_of_granted found (ReceiverChain.request_eq_ok.mpr granted)

theorem keysFor_of_spent (spent : chain.Spent counter) (random : Randomness) :
    keysFor suite config key counter state random =
      ⟨.error (.refused (.duplicateMessage chain.chainKey.index counter)), state, random⟩ := by
  rw [keysFor_eq found]
  exact messageKeys_of_spent found spent

theorem keysFor_of_far (notBehind : ¬counter < chain.chainKey.index)
    (far : config.maxForwardJumps < counter - chain.chainKey.index) (random : Randomness) :
    keysFor suite config key counter state random =
      ⟨.error (.invalidMessage (.tooFarAhead config.maxForwardJumps)), state, random⟩ := by
  rw [keysFor_eq found]
  unfold messageKeys
  rw [if_neg notBehind, if_pos far]
  rfl

/-- The chain keeps the keys on the way to its last counter, and then stops. -/
theorem keysFor_of_last (notBehind : ¬counter < chain.chainKey.index)
    (near : ¬config.maxForwardJumps < counter - chain.chainKey.index)
    (last : counter = 0xffffffff) (random : Randomness) :
    keysFor suite config key counter state random =
      ⟨.error (.aborted .overflow),
        state.withChain (chain.cacheAll config
          (chain.chainKey.passed suite (counter - chain.chainKey.index).toNat)), random⟩ := by
  have bound := counter.toNat_lt
  obtain ⟨count, counter_eq⟩ := exists_way notBehind
  have difference := toNat_sub_of_ahead counter_eq
  have reached : (chain.chainKey.later suite (counter - chain.chainKey.index).toNat).index =
      counter := ReceiverChain.index_later_of_counter (by omega)
  rw [keysFor_eq found]
  unfold messageKeys
  rw [if_neg notBehind, if_neg near,
    Step.bind_of_ok (skip_of_found found (by omega))]
  exact Step.bind_of_error (by rw [Step.lift_run, ChainKey.next_of_last (reached.trans last)])

/-- Before its last counter a chain gives the keys of a counter, or refuses and stays as it is. -/
theorem keysFor_cases (suite : Suite) (config : Config) (notLast : counter ≠ 0xffffffff)
    (random : Randomness) :
    (∃ keys new, chain.Granted suite config counter keys new ∧
        keysFor suite config key counter state random =
          ⟨.ok keys, state.withChain new, random⟩) ∨
      (chain.Spent counter ∧ keysFor suite config key counter state random =
        ⟨.error (.refused (.duplicateMessage chain.chainKey.index counter)), state, random⟩) ∨
      (¬counter < chain.chainKey.index ∧
        config.maxForwardJumps < counter - chain.chainKey.index ∧
        keysFor suite config key counter state random =
          ⟨.error (.invalidMessage (.tooFarAhead config.maxForwardJumps)), state, random⟩) := by
  by_cases behind : counter < chain.chainKey.index
  · cases cached : chain.cached? counter with
    | none =>
        have spent : chain.Spent counter := ⟨behind, cached⟩
        exact .inr (.inl ⟨spent, keysFor_of_spent found spent random⟩)
    | some keys =>
        have granted : chain.Granted suite config counter keys _ := .cached behind cached
        exact .inl ⟨keys, _, granted, keysFor_of_granted found granted random⟩
  · by_cases far : config.maxForwardJumps < counter - chain.chainKey.index
    · exact .inr (.inr ⟨behind, far, keysFor_of_far found behind far random⟩)
    · obtain ⟨count, counter_eq⟩ := exists_way behind
      rw [lt_sub_of_ahead counter_eq] at far
      have granted : chain.Granted suite config counter _ _ :=
        .ahead count counter_eq notLast (Nat.le_of_not_lt far) rfl
      exact .inl ⟨_, _, granted, keysFor_of_granted found granted random⟩

end Found

end SessionState

/-! ## What a chain answers, as far as counters go -/

namespace ReceiverChain

variable {suite : Suite} {config : Config} {counter : UInt32} {keys : MessageKeys}
  {chain new : ReceiverChain}

/-- A chain that gives keys moves as its window does. -/
theorem Granted.window_eq (granted : chain.Granted suite config counter keys new) :
    keys.counter = counter ∧ chain.window.ask config counter = (.ok counter, new.window) := by
  cases granted with
  | cached behind found =>
      obtain ⟨member, counter_eq⟩ := mem_of_cached? found
      have isKept : counter ∈ chain.window.kept := List.mem_map.mpr ⟨keys, member, counter_eq⟩
      have kept_eq : (chain.uncache counter).window =
          { chain.window with kept := chain.window.kept.erase counter } :=
        congrArg (Window.mk chain.chainKey.index) (map_counter_eraseP _ _ _)
      exact ⟨counter_eq, kept_eq ▸ chain.window.ask_of_kept behind isKept⟩
  | ahead count counter_eq notLast near keys_eq =>
      have index_eq : (chain.chainKey.later suite count).index = counter :=
        index_later_of_counter counter_eq
      have reached : counter.toNat = chain.window.next.toNat + count := counter_eq
      have notBehind := not_lt_of_ahead reached
      have difference := toNat_sub_of_ahead reached
      have notFar : ¬config.maxForwardJumps < counter - chain.window.next := by
        rw [lt_sub_of_ahead reached]
        exact Nat.not_lt_of_le near
      have kept_eq : (chain.cacheAll config (chain.chainKey.passed suite count)).window =
          chain.window.keepTo config counter := by
        rw [window_cacheAll, ChainKey.map_counter_passed, Window.keepTo, difference]
        rfl
      rw [chain.window.ask_of_ahead notBehind notFar notLast, ← kept_eq, ← index_eq]
      refine ⟨keys_eq ▸ rfl, ?_⟩
      rw [window, window, ChainKey.later_succ]
      rfl

theorem not_mem_kept_of_spent (spent : chain.Spent counter) : counter ∉ chain.window.kept := by
  intro isKept
  obtain ⟨keys, member, same⟩ := List.mem_map.mp isKept
  exact cached?_eq_none.mp spent.uncached keys member same

end ReceiverChain

namespace SessionState

variable {key : PublicKey} {chain : ReceiverChain} {state : SessionState}

/-- What a chain answers, and what it is afterwards, as far as counters go. -/
theorem keysFor_window (suite : Suite) (config : Config)
    (found : state.receiverChain? key = some chain) (counter : UInt32) (random : Randomness) :
    ∃ result new, keysFor suite config key counter state random =
        ⟨result, state.withChain new, random⟩ ∧
      result.map MessageKeys.counter = (chain.window.ask config counter).1 ∧
      new.ratchetKey = chain.ratchetKey ∧ new.window = (chain.window.ask config counter).2 := by
  have unchanged := withChain_of_found found
  by_cases last : counter = 0xffffffff
  · have notBehind : ¬counter < chain.chainKey.index := by
      have bound := chain.chainKey.index.toNat_lt
      rw [UInt32.lt_iff_toNat_lt, last]
      change ¬0xffffffff < _
      omega
    by_cases far : config.maxForwardJumps < counter - chain.chainKey.index
    · rw [chain.window.ask_of_far notBehind far]
      exact ⟨.error (.invalidMessage (.tooFarAhead config.maxForwardJumps)), chain,
        (keysFor_of_far found notBehind far random).trans (by rw [unchanged]), rfl, rfl, rfl⟩
    · rw [chain.window.ask_of_last notBehind far last]
      refine ⟨.error (.aborted .overflow), _,
        keysFor_of_last found notBehind far last random, rfl,
        ReceiverChain.ratchetKey_cacheAll _ _ _, ?_⟩
      rw [ReceiverChain.window_cacheAll, ChainKey.map_counter_passed]
      rfl
  · rcases keysFor_cases found suite config last random with ⟨keys, new, granted, given⟩ |
      ⟨spent, refused⟩ | ⟨notBehind, far, refused⟩
    · obtain ⟨counter_eq, window_eq⟩ := granted.window_eq
      rw [window_eq]
      exact ⟨.ok keys, new, given, congrArg Except.ok counter_eq, granted.ratchetKey_eq, rfl⟩
    · rw [chain.window.ask_of_spent spent.behind (ReceiverChain.not_mem_kept_of_spent spent)]
      exact ⟨.error (.refused (.duplicateMessage chain.chainKey.index counter)), chain,
        refused.trans (by rw [unchanged]), rfl, rfl, rfl⟩
    · rw [chain.window.ask_of_far notBehind far]
      exact ⟨.error (.invalidMessage (.tooFarAhead config.maxForwardJumps)), chain,
        refused.trans (by rw [unchanged]), rfl, rfl, rfl⟩

/-- Where a chain stands after some requests, and what it keeps, its window before them tells. -/
theorem window_afterEach (suite : Suite) (config : Config)
    (found : state.receiverChain? key = some chain) (random : Randomness) (asked : List UInt32) :
    ∃ reached, (Step.afterEach (keysFor suite config key) random asked state).receiverChain? key =
        some reached ∧
      reached.window = chain.window.afterEach config asked := by
  induction asked generalizing state chain with
  | nil => exact ⟨chain, found, rfl⟩
  | cons counter asked ih =>
      obtain ⟨_, new, given, _, same_key, window_eq⟩ := keysFor_window suite config found counter random
      have next := ih (found_withChain found same_key)
      rw [window_eq] at next
      rw [Step.afterEach, List.foldl_cons, given]
      exact next

end SessionState
end DoubleRatchet
