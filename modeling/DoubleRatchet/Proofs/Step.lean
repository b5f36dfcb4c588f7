import DoubleRatchet.Store.Lock

/-!
# How steps run

A step is opened with these lemmas and nothing else: what each primitive does to state and
randomness, and what it means for a sequence of steps to succeed or to fail.
-/

namespace DoubleRatchet

/-! ## Counting -/

theorem successor_eq_ok {count next : UInt32} :
    successor count = .ok next ↔ count ≠ 0xffffffff ∧ next = count + 1 := by
  unfold successor
  split
  · rename_i last
    simp [last]
  · rename_i notLast
    simp [notLast, eq_comm]

/-- Counting on and building a value with the new number. -/
theorem successor_bind_eq_ok {α : Type} {count : UInt32} {build : UInt32 → α} {value : α} :
    (do pure (build (← successor count))) = .ok value ↔
      count ≠ 0xffffffff ∧ value = build (count + 1) := by
  cases counted : successor count with
  | error failure =>
      constructor
      · intro impossible
        cases impossible
      · rintro ⟨notLast, _⟩
        rw [successor_eq_ok.mpr ⟨notLast, rfl⟩] at counted
        cases counted
  | ok next =>
      obtain ⟨notLast, rfl⟩ := successor_eq_ok.mp counted
      constructor
      · intro same
        cases same
        exact ⟨notLast, rfl⟩
      · rintro ⟨_, rfl⟩
        rfl

theorem last_of_successor_bind {α : Type} {count : UInt32} {build : UInt32 → α} {failure : Failure}
    (failed : (do pure (build (← successor count))) = .error failure) :
    count = 0xffffffff ∧ failure = .aborted .overflow := by
  unfold successor at failed
  split at failed
  · rename_i last
    cases failed
    exact ⟨last, rfl⟩
  · cases failed

theorem ne_last_iff {count : UInt32} : count ≠ 0xffffffff ↔ count.toNat < 0xffffffff := by
  constructor
  · intro notLast
    have bound : count.toNat ≠ 0xffffffff := fun last => notLast (UInt32.toNat_inj.mp last)
    have below := count.toNat_lt
    omega
  · rintro below rfl
    exact Nat.lt_irrefl _ below

theorem toNat_succ_of_ne {count : UInt32} (notLast : count ≠ 0xffffffff) :
    (count + 1).toNat = count.toNat + 1 := by
  have below := ne_last_iff.mp notLast
  rw [UInt32.toNat_add]
  exact Nat.mod_eq_of_lt (by change count.toNat + 1 < _; omega)

section Ahead

variable {start wanted limit : UInt32} {count : Nat}

/-- What is not behind a count is some way ahead of it. -/
theorem exists_way (notBehind : ¬wanted < start) : ∃ count, wanted.toNat = start.toNat + count := by
  rw [UInt32.lt_iff_toNat_lt] at notBehind
  exact Nat.exists_eq_add_of_le (Nat.le_of_not_lt notBehind)

variable (reached : wanted.toNat = start.toNat + count)
include reached

theorem not_lt_of_ahead : ¬wanted < start := by
  rw [UInt32.lt_iff_toNat_lt]
  omega

theorem toNat_sub_of_ahead : (wanted - start).toNat = count := by
  rw [UInt32.toNat_sub_of_le _ _ (UInt32.not_lt.mp (not_lt_of_ahead reached))]
  omega

theorem lt_sub_of_ahead : limit < wanted - start ↔ limit.toNat < count := by
  rw [UInt32.lt_iff_toNat_lt, toNat_sub_of_ahead reached]

end Ahead

/-! ## Outcomes -/

theorem eq_ok_of_toOption {ε α : Type} {result : Except ε α} {value : α}
    (succeeded : result.toOption = some value) : result = .ok value := by
  cases result with
  | error failure => cases succeeded
  | ok found =>
      cases succeeded
      rfl

namespace Outcome

variable {σ α : Type} {outcome : Outcome σ α}

theorem eq_of_result {result : Except Failure α} (ended : outcome.result = result) :
    outcome = ⟨result, outcome.state, outcome.random⟩ := by
  rw [← ended]

theorem eq_of_toOption {value : α} (succeeded : outcome.result.toOption = some value) :
    outcome = ⟨.ok value, outcome.state, outcome.random⟩ :=
  eq_of_result (eq_ok_of_toOption succeeded)

theorem eq_ok_of_isOk (isOk : outcome.result.isOk = true) :
    ∃ value, outcome = ⟨.ok value, outcome.state, outcome.random⟩ := by
  rcases outcome with ⟨failure | value, after, rest⟩
  · cases isOk
  · exact ⟨value, rfl⟩

theorem eq_error_of_isOk (isOk : outcome.result.isOk = false) :
    ∃ failure, outcome = ⟨.error failure, outcome.state, outcome.random⟩ := by
  rcases outcome with ⟨failure | value, after, rest⟩
  · exact ⟨failure, rfl⟩
  · cases isOk

/-- How a step ends: what it answers, and the stream that it leaves. -/
def ending (outcome : Outcome σ α) : Except Failure α × Randomness :=
  (outcome.result, outcome.random)

end Outcome

namespace Step

variable {σ τ α β : Type} {state after : σ} {random rest : Randomness}

@[simp] theorem pure_run (value : α) (state : σ) (random : Randomness) :
    (pure value : Step σ α) state random = ⟨.ok value, state, random⟩ := rfl

@[simp] theorem get_run (state : σ) (random : Randomness) :
    (get : Step σ σ) state random = ⟨.ok state, state, random⟩ := rfl

@[simp] theorem set_run (value state : σ) (random : Randomness) :
    (set value : Step σ PUnit) state random = ⟨.ok (), value, random⟩ := rfl

@[simp] theorem modify_run (change : σ → σ) (state : σ) (random : Randomness) :
    (modify change : Step σ PUnit) state random = ⟨.ok (), change state, random⟩ := rfl

@[simp] theorem throw_run (failure : Failure) (state : σ) (random : Randomness) :
    (throw failure : Step σ α) state random = ⟨.error failure, state, random⟩ := rfl

@[simp] theorem refuse_run (error : Error) (state : σ) (random : Randomness) :
    (refuse error : Step σ α) state random = ⟨.error (.refused error), state, random⟩ := rfl

@[simp] theorem lift_run (result : Except Failure α) (state : σ) (random : Randomness) :
    (liftM result : Step σ α) state random = ⟨result, state, random⟩ := rfl

@[simp] theorem draw_run (draw : Draw α) (state : σ) (random : Randomness) :
    (liftM draw : Step σ α) state random = ⟨.ok (draw random).1, state, (draw random).2⟩ := rfl

theorem bind_run (step : Step σ α) (next : α → Step σ β) (state : σ) (random : Randomness) :
    (step >>= next) state random =
      match step state random with
      | ⟨.ok value, state, random⟩ => next value state random
      | ⟨.error failure, state, random⟩ => ⟨.error failure, state, random⟩ := rfl

/-- A first step that succeeds hands its value, state and randomness on. -/
theorem bind_of_ok {step : Step σ α} {next : α → Step σ β} {value : α}
    (succeeded : step state random = ⟨.ok value, after, rest⟩) :
    (step >>= next) state random = next value after rest := by
  rw [bind_run, succeeded]

/-- A first step that fails ends the sequence. -/
theorem bind_of_error {step : Step σ α} {next : α → Step σ β} {failure : Failure}
    (failed : step state random = ⟨.error failure, after, rest⟩) :
    (step >>= next) state random = ⟨.error failure, after, rest⟩ := by
  rw [bind_run, failed]

theorem bind_eq_ok {step : Step σ α} {next : α → Step σ β} {value : β} :
    (step >>= next) state random = ⟨.ok value, after, rest⟩ ↔
      ∃ first middle drawn, step state random = ⟨.ok first, middle, drawn⟩ ∧
        next first middle drawn = ⟨.ok value, after, rest⟩ := by
  rw [bind_run]
  rcases step state random with ⟨_ | first, middle, drawn⟩
  · simp
  · constructor
    · intro succeeded
      exact ⟨first, middle, drawn, rfl, succeeded⟩
    · rintro ⟨_, _, _, same, succeeded⟩
      cases same
      exact succeeded

@[simp] theorem get_bind (next : σ → Step σ β) (state : σ) (random : Randomness) :
    (get >>= next) state random = next state state random := rfl

@[simp] theorem draw_bind (draw : Draw α) (next : α → Step σ β) (state : σ) (random : Randomness) :
    ((liftM draw : Step σ α) >>= next) state random =
      next (draw random).1 state (draw random).2 := rfl

theorem lift_bind_eq_ok {result : Except Failure α} {next : α → Step σ β} {value : β} :
    ((liftM result : Step σ α) >>= next) state random = ⟨.ok value, after, rest⟩ ↔
      ∃ first, result = .ok first ∧ next first state random = ⟨.ok value, after, rest⟩ := by
  rw [bind_run, lift_run]
  cases result with
  | error failure => simp
  | ok first => simp

theorem check_bind_eq_ok {result : Except Error α} {next : α → Step σ β} {value : β} :
    ((liftM result : Step σ α) >>= next) state random = ⟨.ok value, after, rest⟩ ↔
      ∃ first, result = .ok first ∧ next first state random = ⟨.ok value, after, rest⟩ := by
  rw [bind_run]
  cases result with
  | error refusal =>
      constructor
      · intro impossible
        cases impossible
      · rintro ⟨_, impossible, _⟩
        cases impossible
  | ok first =>
      constructor
      · intro succeeded
        exact ⟨first, rfl, succeeded⟩
      · rintro ⟨_, same, succeeded⟩
        cases same
        exact succeeded

theorem bind_eq_error {step : Step σ α} {next : α → Step σ β} {failure : Failure} :
    (step >>= next) state random = ⟨.error failure, after, rest⟩ ↔
      step state random = ⟨.error failure, after, rest⟩ ∨
        ∃ first middle drawn, step state random = ⟨.ok first, middle, drawn⟩ ∧
          next first middle drawn = ⟨.error failure, after, rest⟩ := by
  rw [bind_run]
  rcases step state random with ⟨refusal | first, middle, drawn⟩
  · simp
  · constructor
    · intro failed
      exact .inr ⟨first, middle, drawn, rfl, failed⟩
    · rintro (same | ⟨_, _, _, same, failed⟩)
      · cases same
      · cases same
        exact failed

theorem result_bind_eq_error {step : Step σ α} {next : α → Step σ β} {failure : Failure} :
    ((step >>= next) state random).result = .error failure ↔
      (step state random).result = .error failure ∨
        ∃ first middle drawn, step state random = ⟨.ok first, middle, drawn⟩ ∧
          (next first middle drawn).result = .error failure := by
  rw [bind_run]
  rcases step state random with ⟨refusal | first, middle, drawn⟩
  · simp
  · constructor
    · intro failed
      exact .inr ⟨first, middle, drawn, rfl, failed⟩
    · rintro (same | ⟨_, _, _, same, failed⟩)
      · cases same
      · cases same
        exact failed

theorem result_lift_bind_eq_error {result : Except Failure α} {next : α → Step σ β}
    {failure : Failure} :
    (((liftM result : Step σ α) >>= next) state random).result = .error failure ↔
      result = .error failure ∨
        ∃ first, result = .ok first ∧ (next first state random).result = .error failure := by
  rw [bind_run, lift_run]
  cases result with
  | error refusal => simp
  | ok first => simp

theorem apart_eq_ok {step : Step τ α} {start final : τ} {value : α} :
    (apart step start : Step σ (α × τ)) state random = ⟨.ok (value, final), after, rest⟩ ↔
      state = after ∧ step start random = ⟨.ok value, final, rest⟩ := by
  simp only [apart]
  rcases step start random with ⟨_ | result, last, drawn⟩
  · simp
  · constructor
    · intro same
      cases same
      exact ⟨rfl, rfl⟩
    · rintro ⟨rfl, same⟩
      cases same
      rfl

/-- What a failing step did to its own state is lost. -/
theorem apart_eq_error {step : Step τ α} {start : τ} {failure : Failure} :
    (apart step start : Step σ (α × τ)) state random = ⟨.error failure, after, rest⟩ ↔
      state = after ∧ ∃ final, step start random = ⟨.error failure, final, rest⟩ := by
  simp only [apart]
  rcases step start random with ⟨refusal | result, last, drawn⟩
  · constructor
    · intro same
      cases same
      exact ⟨rfl, last, rfl⟩
    · rintro ⟨rfl, final, same⟩
      cases same
      rfl
  · simp

/-- The step never changes its state. -/
def Reading (step : Step σ α) : Prop :=
  ∀ state random, (step state random).state = state

/-- The step leaves its state alone when it fails. -/
def Atomic (step : Step σ α) : Prop :=
  ∀ state random failure, (step state random).result = .error failure →
    (step state random).state = state

theorem reading_pure (value : α) : Reading (pure value : Step σ α) := fun _ _ => rfl

theorem reading_get : Reading (get : Step σ σ) := fun _ _ => rfl

theorem reading_throw (failure : Failure) : Reading (throw failure : Step σ α) := fun _ _ => rfl

theorem reading_refuse (error : Error) : Reading (refuse error : Step σ α) := fun _ _ => rfl

theorem reading_lift (result : Except Failure α) : Reading (liftM result : Step σ α) :=
  fun _ _ => rfl

theorem reading_draw (draw : Draw α) : Reading (liftM draw : Step σ α) := fun _ _ => rfl

theorem reading_apart (step : Step τ α) (start : τ) :
    Reading (apart step start : Step σ (α × τ)) := by
  intro state random
  simp only [apart]
  rcases step start random with ⟨_ | _, _, _⟩ <;> rfl

theorem Reading.bind {step : Step σ α} {next : α → Step σ β} (first : Reading step)
    (later : ∀ value, Reading (next value)) : Reading (step >>= next) := by
  intro state random
  have unchanged := first state random
  rw [bind_run]
  revert unchanged
  rcases step state random with ⟨_ | value, middle, drawn⟩ <;> intro unchanged
  · exact unchanged
  · exact (later value middle drawn).trans unchanged

theorem Reading.bind_atomic {step : Step σ α} {next : α → Step σ β} (first : Reading step)
    (later : ∀ value, Atomic (next value)) : Atomic (step >>= next) := by
  intro state random failure
  have unchanged := first state random
  rw [bind_run]
  revert unchanged
  rcases step state random with ⟨_ | value, middle, drawn⟩ <;> intro unchanged failed
  · exact unchanged
  · exact (later value middle drawn failure failed).trans unchanged

/-- What cannot fail may follow an atomic step. -/
theorem Atomic.bind_total {step : Step σ α} {next : α → Step σ β} (first : Atomic step)
    (total : ∀ value state random failure, (next value state random).result ≠ .error failure) :
    Atomic (step >>= next) := by
  intro state random failure
  have unchanged := first state random
  rw [bind_run]
  revert unchanged
  rcases step state random with ⟨refusal | value, middle, drawn⟩ <;> intro unchanged failed
  · exact unchanged refusal rfl
  · exact absurd failed (total value middle drawn failure)

/-- A change followed by steps that cannot fail cannot fail. -/
theorem atomic_modify (change : σ → σ) (value : α) :
    Atomic (modify change >>= fun _ => (pure value : Step σ α)) := by
  intro state random failure failed
  cases failed

theorem atomic_modify_only (change : σ → σ) : Atomic (modify change : Step σ PUnit) := by
  intro state random failure failed
  cases failed

/-- The step draws nothing: it does the same with any stream, and leaves the stream alone. -/
def Drawless (step : Step σ α) : Prop :=
  ∀ state random other,
    step state other = ⟨(step state random).result, (step state random).state, other⟩

theorem drawless_pure (value : α) : Drawless (pure value : Step σ α) := fun _ _ _ => rfl

theorem drawless_get : Drawless (get : Step σ σ) := fun _ _ _ => rfl

theorem drawless_set (value : σ) : Drawless (set value : Step σ PUnit) := fun _ _ _ => rfl

theorem drawless_modify (change : σ → σ) : Drawless (modify change : Step σ PUnit) :=
  fun _ _ _ => rfl

theorem drawless_throw (failure : Failure) : Drawless (throw failure : Step σ α) :=
  fun _ _ _ => rfl

theorem drawless_refuse (error : Error) : Drawless (refuse error : Step σ α) := fun _ _ _ => rfl

theorem drawless_lift (result : Except Failure α) : Drawless (liftM result : Step σ α) :=
  fun _ _ _ => rfl

theorem Drawless.bind {step : Step σ α} {next : α → Step σ β} (first : Drawless step)
    (later : ∀ value, Drawless (next value)) : Drawless (step >>= next) := by
  intro state random other
  rw [bind_run, bind_run, first state random other]
  rcases step state random with ⟨_ | value, middle, drawn⟩
  · rfl
  · exact later value middle drawn other

theorem Reading.ite {condition : Prop} [Decidable condition] {yes no : Step σ α}
    (first : Reading yes) (second : Reading no) : Reading (if condition then yes else no) := by
  split
  · exact first
  · exact second

theorem map_run (view : α → β) (step : Step σ α) (state : σ) (random : Randomness) :
    (view <$> step) state random =
      ⟨(step state random).result.map view, (step state random).state, (step state random).random⟩ := by
  change (step >>= fun value => pure (view value)) state random = _
  rw [bind_run]
  rcases step state random with ⟨_ | _, _, _⟩ <;> rfl

/-! ## Steps that can change places -/

variable {change otherChange : σ → σ}

/-- The step does not notice a change of its state, and leaves the change there. -/
def Ignores (change : σ → σ) (step : Step σ α) : Prop :=
  ∀ state random, step (change state) random =
    ⟨(step state random).result, change (step state random).state, (step state random).random⟩

theorem ignores_pure (value : α) : Ignores change (pure value : Step σ α) := fun _ _ => rfl

theorem ignores_throw (failure : Failure) : Ignores change (throw failure : Step σ α) :=
  fun _ _ => rfl

theorem ignores_refuse (error : Error) : Ignores change (refuse error : Step σ α) := fun _ _ => rfl

theorem ignores_lift (result : Except Failure α) : Ignores change (liftM result : Step σ α) :=
  fun _ _ => rfl

theorem ignores_draw (draw : Draw α) : Ignores change (liftM draw : Step σ α) := fun _ _ => rfl

theorem ignores_apart (step : Step τ α) (start : τ) :
    Ignores change (apart step start : Step σ (α × τ)) := by
  intro state random
  simp only [apart]
  rcases step start random with ⟨_ | _, _, _⟩ <;> rfl

theorem ignores_modify {own : σ → σ} (commutes : ∀ state, own (change state) = change (own state)) :
    Ignores change (modify own : Step σ PUnit) := by
  intro state random
  simp only [modify_run, commutes]

theorem Ignores.bind {step : Step σ α} {next : α → Step σ β} (first : Ignores change step)
    (later : ∀ value, Ignores change (next value)) : Ignores change (step >>= next) := by
  intro state random
  rw [bind_run, bind_run, first state random]
  rcases step state random with ⟨_ | value, middle, drawn⟩
  · rfl
  · exact later value middle drawn

/-- What is read may change as long as the rest of the step does not depend on it. -/
theorem Ignores.get_bind {next : σ → Step σ β} (alike : ∀ state, next (change state) = next state)
    (later : ∀ state, Ignores change (next state)) : Ignores change (get >>= next) := by
  intro state random
  rw [Step.get_bind, Step.get_bind, alike state]
  exact later state state random

theorem Ignores.ite {condition : Prop} [Decidable condition] {yes no : Step σ α}
    (first : Ignores change yes) (second : Ignores change no) :
    Ignores change (if condition then yes else no) := by
  split
  · exact first
  · exact second

/-- A refusal under a condition, and the step goes on if it does not hold. -/
theorem Ignores.unless {condition : Prop} [Decidable condition] {step : Step σ α} (error : Error)
    (ignores : Ignores change step) :
    Ignores change (if condition then refuse error >>= fun _ : PUnit => step else step) :=
  ((ignores_refuse error).bind fun _ => ignores).ite ignores

theorem Ignores.map {step : Step σ α} (ignores : Ignores change step) (view : α → β) :
    Ignores change (view <$> step) :=
  ignores.bind fun _ => ignores_pure _

/-- Whichever of two steps comes first, each ends as it does alone, and both leave the same state. -/
structure Exchangeable (one : Step σ α) (other : Step σ β) (state : σ)
    (first second : Randomness) : Prop where
  later : (other (one state first).state second).ending = (other state second).ending
  sooner : (one (other state second).state first).ending = (one state first).ending
  state_eq :
    (other (one state first).state second).state = (one (other state second).state first).state

/-- Steps change places if each ignores what the other one does to the state. -/
theorem Exchangeable.of_ignores {one : Step σ α} {other : Step σ β} {first second : Randomness}
    (changes : (one state first).state = change state)
    (otherChanges : (other state second).state = otherChange state)
    (ignores : Ignores change other) (otherIgnores : Ignores otherChange one)
    (commutes : change (otherChange state) = otherChange (change state)) :
    Exchangeable one other state first second := by
  have laterRun := ignores state second
  have soonerRun := otherIgnores state first
  rw [← changes] at laterRun
  rw [← otherChanges] at soonerRun
  constructor
  case later =>
    rw [laterRun]
    rfl
  case sooner =>
    rw [soonerRun]
    rfl
  case state_eq =>
    rw [laterRun, soonerRun]
    dsimp only
    rw [changes, otherChanges, commutes]

end Step

namespace Locked

variable {σ α : Type} {step : Step σ α} {lock : Locked σ} {random : Randomness}

theorem run_of_free (free : lock.poisoned = false) :
    run step lock random =
      ⟨(step lock.content random).result,
        { content := (step lock.content random).state
          poisoned := isAborted (step lock.content random).result },
        (step lock.content random).random⟩ := by
  unfold run
  rw [free]
  rfl

theorem run_of_poisoned (poisoned : lock.poisoned = true) :
    run step lock random = ⟨.error (.refused .lockPoisoned), lock, random⟩ := by
  unfold run
  rw [poisoned]
  rfl

theorem run_eq_ok {value : α} {after : Locked σ} {rest : Randomness}
    (succeeded : run step lock random = ⟨.ok value, after, rest⟩) :
    lock.poisoned = false ∧ after.poisoned = false ∧
      step lock.content random = ⟨.ok value, after.content, rest⟩ := by
  cases poisoned : lock.poisoned with
  | true =>
      rw [run_of_poisoned poisoned] at succeeded
      cases succeeded
  | false =>
      rw [run_of_free poisoned] at succeeded
      rcases outcome : step lock.content random with ⟨failure | found, final, drawn⟩
      · rw [outcome] at succeeded
        cases succeeded
      · rw [outcome] at succeeded
        cases succeeded
        exact ⟨rfl, rfl, rfl⟩

/-- A step that fails under a lock was refused by the lock, or it ran and failed. -/
theorem run_eq_error {failure : Failure} {after : Locked σ} {rest : Randomness}
    (failed : run step lock random = ⟨.error failure, after, rest⟩) :
    failure = .refused .lockPoisoned ∧ after = lock ∨
      step lock.content random = ⟨.error failure, after.content, rest⟩ := by
  cases poisoned : lock.poisoned with
  | true =>
      rw [run_of_poisoned poisoned] at failed
      cases failed
      exact .inl ⟨rfl, rfl⟩
  | false =>
      rw [run_of_free poisoned] at failed
      rcases outcome : step lock.content random with ⟨reason | found, final, drawn⟩
      · rw [outcome] at failed
        cases failed
        exact .inr rfl
      · rw [outcome] at failed
        cases failed

/-- A step that changes nothing when it fails changes nothing under a lock. -/
theorem content_of_failed {failure : Failure} {after : Locked σ} {rest : Randomness}
    (failed : run step lock random = ⟨.error failure, after, rest⟩) (atomic : Step.Atomic step) :
    after.content = lock.content := by
  rcases run_eq_error failed with ⟨_, rfl⟩ | ran
  · rfl
  · have unchanged := atomic lock.content random failure
    rw [ran] at unchanged
    exact unchanged rfl

/-- Under a lock a step changes what it changes without one, or nothing. -/
theorem content_run (step : Step σ α) (lock : Locked σ) (random : Randomness) :
    (run step lock random).state.content = (step lock.content random).state ∨
      (run step lock random).state.content = lock.content := by
  cases poisoned : lock.poisoned with
  | true => rw [run_of_poisoned poisoned]; exact .inr rfl
  | false => rw [run_of_free poisoned]; exact .inl rfl

section Exchange

variable {β : Type} {one : Step σ α} {other : Step σ β} {first second : Randomness}

theorem poisoned_of_aborted (aborted : isAborted (run one lock first).result = true) :
    (run one lock first).state.poisoned = true := by
  cases poisoned : lock.poisoned with
  | true =>
      rw [run_of_poisoned poisoned] at aborted
      cases aborted
  | false =>
      rw [run_of_free poisoned] at aborted ⊢
      exact aborted

/-- After a step that did not abort, a step ends under the lock as it does alone. -/
theorem ending_run_run (exchangeable : Step.Exchangeable one other lock.content first second)
    (completed : isAborted (run one lock first).result = false) :
    (run other (run one lock first).state second).ending = (run other lock second).ending := by
  cases poisoned : lock.poisoned with
  | true => rw [run_of_poisoned poisoned]
  | false =>
      rw [run_of_free poisoned] at completed ⊢
      rw [run_of_free completed, run_of_free poisoned]
      exact exchangeable.later

theorem state_run_run (exchangeable : Step.Exchangeable one other lock.content first second)
    (completed : isAborted (run one lock first).result = false)
    (otherCompleted : isAborted (run other lock second).result = false) :
    (run other (run one lock first).state second).state =
      (run one (run other lock second).state first).state := by
  cases poisoned : lock.poisoned with
  | true => simp only [run_of_poisoned poisoned]
  | false =>
      have later := congrArg Prod.fst exchangeable.later
      have sooner := congrArg Prod.fst exchangeable.sooner
      dsimp only [Outcome.ending] at later sooner
      simp only [run_of_free poisoned] at completed otherCompleted ⊢
      rw [run_of_free completed, run_of_free otherCompleted]
      dsimp only
      rw [later, sooner, completed, otherCompleted, exchangeable.state_eq]

end Exchange

end Locked
end DoubleRatchet
