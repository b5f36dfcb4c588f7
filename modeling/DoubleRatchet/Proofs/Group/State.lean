import DoubleRatchet.Group.State
import DoubleRatchet.Proofs.Step

/-!
# Keys of one sender key

A state gives the key of an iteration from its cache, or by moving its chain forward. What skipping
one key leaves true, skipping many leaves true; from that follow the order of the cache, and that the
key of an iteration is given once.
-/

namespace DoubleRatchet

namespace SenderChainKey

variable {suite : Suite} {chain next : SenderChainKey}

theorem next_eq_ok :
    chain.next suite = .ok next ↔ chain.iteration ≠ 0xffffffff ∧
      next = { iteration := chain.iteration + 1, seed := suite.tag chain.seed.bytes chainLabel } :=
  successor_bind_eq_ok

theorem toNat_iteration_of_next (moved : chain.next suite = .ok next) :
    next.iteration.toNat = chain.iteration.toNat + 1 := by
  obtain ⟨notLast, rfl⟩ := next_eq_ok.mp moved
  exact toNat_succ_of_ne notLast

end SenderChainKey

namespace SenderKeyState

variable {suite : Suite} {config : Config} {chain reached next : SenderChainKey}
  {state after between : SenderKeyState} {key : SenderMessageKey} {cache : List SenderMessageKey}
  {iteration past : UInt32} {count : Nat} {random rest : Randomness}

/-! ## Skipping -/

/-- What holds of a chain and a state and outlasts one skipped key, outlasts many. -/
theorem skip_keeps (holds : SenderChainKey → SenderKeyState → Prop)
    (step : ∀ chain state next, chain.next suite = .ok next → holds chain state →
      holds next (state.cacheMessageKey config (chain.messageKey suite)))
    (skipped : skip suite config count chain state random = ⟨.ok reached, after, rest⟩)
    (start : holds chain state) : holds reached after := by
  induction count generalizing chain state with
  | zero =>
      cases skipped
      exact start
  | succ count ih =>
      obtain ⟨_, middle, drawn, cached, moving⟩ := Step.bind_eq_ok.mp skipped
      cases cached
      obtain ⟨next, moved, later⟩ := Step.lift_bind_eq_ok.mp moving
      exact ih later (step chain state next moved start)

theorem toNat_iteration_of_skip
    (skipped : skip suite config count chain state random = ⟨.ok reached, after, rest⟩) :
    reached.iteration.toNat = chain.iteration.toNat + count := by
  induction count generalizing chain state with
  | zero =>
      cases skipped
      rfl
  | succ count ih =>
      obtain ⟨_, middle, drawn, cached, moving⟩ := Step.bind_eq_ok.mp skipped
      cases cached
      obtain ⟨next, moved, later⟩ := Step.lift_bind_eq_ok.mp moving
      rw [ih later, SenderChainKey.toNat_iteration_of_next moved]
      omega

/-- The parts of a state that no message changes. -/
def identity (state : SenderKeyState) : UInt32 × PublicKey :=
  (state.keyId, state.signingKey)

/-- The keys of a cache are in the order of their iterations and come before the given one. -/
structure OrderedTo (limit : UInt32) (cache : List SenderMessageKey) : Prop where
  increasing : cache.Pairwise fun left right => left.iteration < right.iteration
  behind : ∀ key ∈ cache, key.iteration < limit

/-- The iteration comes before the given one, and the cache has no key for it. -/
structure SpentTo (past limit : UInt32) (cache : List SenderMessageKey) : Prop where
  behind : past < limit
  uncached : ∀ key ∈ cache, key.iteration ≠ past

theorem lt_of_next {early : UInt32} (early_lt : early < chain.iteration)
    (moved : chain.next suite = .ok next) : early < next.iteration := by
  rw [UInt32.lt_iff_toNat_lt] at early_lt ⊢
  rw [SenderChainKey.toNat_iteration_of_next moved]
  omega

theorem iteration_lt_of_next (moved : chain.next suite = .ok next) :
    chain.iteration < next.iteration := by
  rw [UInt32.lt_iff_toNat_lt, SenderChainKey.toNat_iteration_of_next moved]
  omega

theorem OrderedTo.moved (ordered : OrderedTo chain.iteration cache)
    (moved : chain.next suite = .ok next) : OrderedTo next.iteration cache :=
  ⟨ordered.increasing, fun key member => lt_of_next (ordered.behind key member) moved⟩

theorem SpentTo.moved (spent : SpentTo past chain.iteration cache)
    (moved : chain.next suite = .ok next) : SpentTo past next.iteration cache :=
  ⟨lt_of_next spent.behind moved, spent.uncached⟩

theorem cacheMessageKey_sublist (config : Config) (key : SenderMessageKey)
    (state : SenderKeyState) :
    (state.cacheMessageKey config key).skipped.Sublist (state.skipped ++ [key]) :=
  List.drop_sublist _ _

theorem OrderedTo.cached (ordered : OrderedTo chain.iteration state.skipped)
    (moved : chain.next suite = .ok next) :
    OrderedTo next.iteration (state.cacheMessageKey config (chain.messageKey suite)).skipped := by
  have sub := cacheMessageKey_sublist config (chain.messageKey suite) state
  constructor
  · refine List.Pairwise.sublist sub (List.pairwise_append.mpr
      ⟨ordered.increasing, List.pairwise_singleton _ _, fun old isOld new isNew => ?_⟩)
    rw [List.mem_singleton.mp isNew]
    exact ordered.behind old isOld
  · intro key member
    rcases List.mem_append.mp (sub.subset member) with old | new
    · exact lt_of_next (ordered.behind key old) moved
    · rw [List.mem_singleton.mp new]
      exact iteration_lt_of_next moved

theorem SpentTo.cached (spent : SpentTo past chain.iteration state.skipped)
    (moved : chain.next suite = .ok next) :
    SpentTo past next.iteration
      (state.cacheMessageKey config (chain.messageKey suite)).skipped := by
  have sub := cacheMessageKey_sublist config (chain.messageKey suite) state
  refine ⟨lt_of_next spent.behind moved, fun key member => ?_⟩
  rcases List.mem_append.mp (sub.subset member) with old | new
  · exact spent.uncached key old
  · rw [List.mem_singleton.mp new]
    exact (UInt32.ne_of_lt spent.behind).symm

/-! ## Giving a key -/

/-- How a state gives the key of an iteration: it takes it out of its cache, or it moves past the
iteration and caches the keys on the way. -/
inductive Gives (suite : Suite) (config : Config) (iteration : UInt32) (state : SenderKeyState)
    (key : SenderMessageKey) : SenderKeyState → Prop where
  | cached (behind : iteration < state.chainKey.iteration)
      (found : state.skipped.find? (fun key => key.iteration = iteration) = some key) :
      Gives suite config iteration state key
        { state with skipped := state.skipped.eraseP fun other => other.iteration = iteration }
  | ahead {random rest : Randomness} {reached next : SenderChainKey} {between : SenderKeyState}
      (skipped : skip suite config (iteration.toNat - state.chainKey.iteration.toNat)
        state.chainKey state random = ⟨.ok reached, between, rest⟩)
      (reached_eq : reached.iteration = iteration) (moved : reached.next suite = .ok next)
      (key_eq : key = reached.messageKey suite) :
      Gives suite config iteration state key { between with chainKey := next }

theorem gives_of_messageKey
    (given : messageKey suite config iteration state random = ⟨.ok key, after, rest⟩) :
    Gives suite config iteration state key after := by
  unfold messageKey at given
  rw [Step.get_bind] at given
  split at given
  · rename_i behind
    unfold takeMessageKey at given
    obtain ⟨found, middle, drawn, taken, settled⟩ := Step.bind_eq_ok.mp given
    rw [Step.get_bind] at taken
    cases cached : state.skipped.find? fun key => key.iteration = iteration with
    | none =>
        rw [cached] at taken
        cases taken
        cases settled
    | some keys =>
        rw [cached] at taken
        cases taken
        cases settled
        exact .cached behind cached
  · rename_i notBehind
    split at given
    · cases given
    · obtain ⟨count, iteration_eq⟩ := exists_way notBehind
      have count_eq : count = iteration.toNat - state.chainKey.iteration.toNat := by omega
      rw [toNat_sub_of_ahead iteration_eq, count_eq] at given
      obtain ⟨reached, between, drawn, skipped, moving⟩ := Step.bind_eq_ok.mp given
      obtain ⟨next, moved, settled⟩ := Step.lift_bind_eq_ok.mp moving
      cases settled
      have reached_eq : reached.iteration = iteration := by
        apply UInt32.toNat_inj.mp
        rw [toNat_iteration_of_skip skipped]
        omega
      exact .ahead skipped reached_eq moved rfl

theorem Gives.identity_eq (gives : Gives suite config iteration state key after) :
    after.identity = state.identity := by
  cases gives with
  | cached => rfl
  | @ahead _ _ _ _ between skipped =>
      have kept : between.identity = state.identity :=
        skip_keeps (fun _ later => later.identity = state.identity) (fun _ _ _ _ same => same)
          skipped rfl
      exact kept

/-- A state that gives a key signs as before. -/
theorem Gives.privateSigningKey_eq (gives : Gives suite config iteration state key after) :
    after.privateSigningKey = state.privateSigningKey := by
  cases gives with
  | cached => rfl
  | @ahead _ _ _ _ between skipped =>
      have kept : between.privateSigningKey = state.privateSigningKey :=
        skip_keeps (fun _ later => later.privateSigningKey = state.privateSigningKey)
          (fun _ _ _ _ same => same) skipped rfl
      exact kept

/-- The cache of a state is in order and behind its chain. -/
def Ordered (state : SenderKeyState) : Prop :=
  OrderedTo state.chainKey.iteration state.skipped

/-- The chain of a state has passed the iteration and there is no key for it any more. -/
def Spent (past : UInt32) (state : SenderKeyState) : Prop :=
  SpentTo past state.chainKey.iteration state.skipped

theorem Ordered.of_skip (ordered : state.Ordered)
    (skipped : skip suite config count state.chainKey state random = ⟨.ok reached, between, rest⟩) :
    OrderedTo reached.iteration between.skipped :=
  skip_keeps (fun chain later => OrderedTo chain.iteration later.skipped)
    (fun _ _ _ moved ordered => ordered.cached moved) skipped ordered

theorem Gives.ordered (gives : Gives suite config iteration state key after)
    (ordered : state.Ordered) : after.Ordered := by
  cases gives with
  | cached =>
      have sub : (state.skipped.eraseP fun other => other.iteration = iteration).Sublist
          state.skipped := List.eraseP_sublist
      exact ⟨ordered.increasing.sublist sub, fun key member =>
        ordered.behind key (sub.subset member)⟩
  | ahead skipped _ moved => exact (ordered.of_skip skipped).moved moved

/-- In a cache in order the first key of an iteration is the only one. -/
theorem iteration_ne_of_mem_eraseP
    (increasing : cache.Pairwise fun left right => left.iteration < right.iteration)
    (member : key ∈ cache.eraseP fun other => other.iteration = iteration) :
    key.iteration ≠ iteration := by
  induction cache with
  | nil => cases member
  | cons first rest ih =>
      have ⟨before, restIncreasing⟩ := List.pairwise_cons.mp increasing
      by_cases same : first.iteration = iteration
      · have inRest : key ∈ rest := by simpa [same] using member
        exact fun equal => UInt32.ne_of_lt (before key inRest) (same.trans equal.symm)
      · have split : key = first ∨ key ∈ rest.eraseP fun other => other.iteration = iteration := by
          simpa [same] using member
        rcases split with rfl | inRest
        · exact same
        · exact ih restIncreasing inRest

/-- The iteration whose key was given is spent. -/
theorem Gives.spends (gives : Gives suite config iteration state key after)
    (ordered : state.Ordered) : after.Spent iteration := by
  cases gives with
  | cached behind found =>
      exact ⟨behind, fun other member => iteration_ne_of_mem_eraseP ordered.increasing member⟩
  | ahead skipped reached_eq moved =>
      subst reached_eq
      exact ⟨iteration_lt_of_next moved, fun other member =>
        UInt32.ne_of_lt ((ordered.of_skip skipped).behind other member)⟩

/-- A spent iteration stays spent whatever key is given next. -/
theorem Gives.keeps_spent (gives : Gives suite config iteration state key after)
    (spent : state.Spent past) : after.Spent past := by
  cases gives with
  | cached =>
      exact ⟨spent.behind, fun other member => spent.uncached other (List.eraseP_subset member)⟩
  | @ahead _ _ reached _ between skipped _ moved =>
      have kept : SpentTo past reached.iteration between.skipped :=
        skip_keeps (fun chain later => SpentTo past chain.iteration later.skipped)
          (fun _ _ _ moved spent => spent.cached moved) skipped spent
      exact kept.moved moved

theorem drawless_skip (count : Nat) (chain : SenderChainKey) :
    Step.Drawless (skip suite config count chain) := by
  induction count generalizing chain with
  | zero => exact Step.drawless_pure _
  | succ count ih =>
      apply (Step.drawless_modify _).bind
      intro _
      exact (Step.drawless_lift _).bind ih

theorem drawless_takeMessageKey (iteration : UInt32) :
    Step.Drawless (takeMessageKey iteration) := by
  apply Step.drawless_get.bind
  intro state
  split
  · exact Step.drawless_pure _
  · exact (Step.drawless_set _).bind fun _ => Step.drawless_pure _

theorem drawless_messageKey (iteration : UInt32) :
    Step.Drawless (messageKey suite config iteration) := by
  apply Step.drawless_get.bind
  intro state
  dsimp only
  split
  · apply (drawless_takeMessageKey iteration).bind
    rintro (_ | key)
    · exact Step.drawless_refuse _
    · exact Step.drawless_pure _
  · split
    · exact Step.drawless_throw _
    · apply (drawless_skip _ _).bind
      intro reached
      apply (Step.drawless_lift _).bind
      intro next
      exact (Step.drawless_modify _).bind fun _ => Step.drawless_pure _

/-- A state refuses to give the key of a spent iteration. -/
theorem messageKey_of_spent (spent : state.Spent iteration) (random : Randomness) :
    messageKey suite config iteration state random =
      ⟨.error (.refused (.duplicateMessage state.chainKey.iteration iteration)), state,
        random⟩ := by
  have missing : state.skipped.find? (fun key => key.iteration = iteration) = none := by
    rw [List.find?_eq_none]
    intro key member
    simpa using spent.uncached key member
  have notTaken : takeMessageKey iteration state random = ⟨.ok none, state, random⟩ := by
    unfold takeMessageKey
    rw [Step.get_bind, missing]
    rfl
  unfold messageKey
  rw [Step.get_bind, if_pos spent.behind, Step.bind_of_ok notTaken]
  rfl

/-- A state gives a cached key and keeps the others. -/
theorem messageKey_of_cached (behind : iteration < state.chainKey.iteration)
    (found : state.skipped.find? (fun key => key.iteration = iteration) = some key)
    (random : Randomness) :
    messageKey suite config iteration state random =
      ⟨.ok key,
        { state with skipped := state.skipped.eraseP fun other => other.iteration = iteration },
        random⟩ := by
  have taken : takeMessageKey iteration state random =
      ⟨.ok (some key),
        { state with skipped := state.skipped.eraseP fun other => other.iteration = iteration },
        random⟩ := by
    unfold takeMessageKey
    rw [Step.get_bind, found]
    rfl
  unfold messageKey
  rw [Step.get_bind, if_pos behind, Step.bind_of_ok taken]
  rfl

/-- A state refuses to move further than the limit. -/
theorem messageKey_of_far (ahead : state.chainKey.iteration.toNat ≤ iteration.toNat)
    (far : state.chainKey.iteration.toNat + config.maxForwardJumps.toNat < iteration.toNat)
    (random : Randomness) :
    messageKey suite config iteration state random =
      ⟨.error (.invalidMessage (.tooFarAhead config.maxForwardJumps)), state, random⟩ := by
  obtain ⟨count, iteration_eq⟩ := Nat.exists_eq_add_of_le ahead
  have notBehind := not_lt_of_ahead iteration_eq
  have isFar : config.maxForwardJumps < iteration - state.chainKey.iteration := by
    rw [lt_sub_of_ahead iteration_eq]
    omega
  unfold messageKey
  rw [Step.get_bind, if_neg notBehind, if_pos isFar]
  rfl

end SenderKeyState
end DoubleRatchet
