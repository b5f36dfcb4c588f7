import DoubleRatchet.Proofs.Step
import DoubleRatchet.Session.Receive

/-!
# Requests to a receiving chain

What a chain answers when it is asked for the keys of a counter depends on the chain alone. This
module says so without any session state around it, and derives which counters a chain has spent.
-/

namespace DoubleRatchet

/-- The last values of a list, as many as the limit allows. -/
def newest {α : Type} (limit : Nat) (values : List α) : List α :=
  values.drop (values.length - limit)

section Newest

variable {α : Type} {limit : Nat} {values : List α}

theorem newest_sublist (limit : Nat) (values : List α) : (newest limit values).Sublist values :=
  List.drop_sublist _ _

theorem newest_of_length_le (short : values.length ≤ limit) : newest limit values = values := by
  rw [newest, Nat.sub_eq_zero_of_le short, List.drop_zero]

theorem length_newest_le (limit : Nat) (values : List α) : (newest limit values).length ≤ limit := by
  simp only [newest, List.length_drop]
  omega

theorem newest_map {β : Type} (limit : Nat) (change : α → β) (values : List α) :
    newest limit (values.map change) = (newest limit values).map change := by
  simp only [newest, List.length_map, List.map_drop]

/-- A list that was cut before loses nothing that the next cut would keep. -/
theorem newest_newest_append (limit : Nat) (values added : List α) :
    newest limit (newest limit values ++ added) = newest limit (values ++ added) := by
  rcases Nat.lt_or_ge limit values.length with long | short
  · have cut : newest limit values ++ added =
        (values ++ added).drop (values.length - limit) :=
      (List.drop_append_of_le_length (Nat.sub_le _ _)).symm
    have length_eq : (newest limit values ++ added).length = limit + added.length := by
      simp only [newest, List.length_append, List.length_drop]
      omega
    rw [newest, length_eq, cut, List.drop_drop, newest, List.length_append]
    congr 1
    omega
  · rw [newest_of_length_le short]

/-- What had to go stood before everything that stayed. -/
theorem newest_after {before : α → α → Prop} {value : α} (ordered : values.Pairwise before)
    (member : value ∈ values) (gone : value ∉ newest limit values) :
    ∀ kept ∈ newest limit values, before value kept := by
  have whole := List.take_append_drop (values.length - limit) values
  have left : value ∈ values.take (values.length - limit) := by
    rw [← whole] at member
    exact (List.mem_append.mp member).resolve_right gone
  rw [← whole] at ordered
  exact (List.pairwise_append.mp ordered).2.2 value left

end Newest

namespace ChainKey

variable (suite : Suite)

/-- The chain key of the next message, which `next` gives unless the counter is the last one. -/
def following (chain : ChainKey) : ChainKey :=
  { key := suite.tag chain.key.bytes chainLabel, index := chain.index + 1 }

def later : Nat → ChainKey → ChainKey
  | 0, chain => chain
  | count + 1, chain => later count (chain.following suite)

/-- The keys of the next `count` messages. -/
def passed : Nat → ChainKey → List MessageKeys
  | 0, _ => []
  | count + 1, chain => chain.messageKeys suite :: passed count (chain.following suite)

variable {suite} {chain after : ChainKey} {count : Nat}

theorem next_eq_ok :
    chain.next suite = .ok after ↔ chain.index ≠ 0xffffffff ∧ after = chain.following suite :=
  successor_bind_eq_ok

theorem later_succ (count : Nat) (chain : ChainKey) :
    chain.later suite (count + 1) = (chain.later suite count).following suite := by
  induction count generalizing chain with
  | zero => rfl
  | succ count ih => exact ih (chain.following suite)

theorem later_add (first second : Nat) (chain : ChainKey) :
    (chain.later suite first).later suite second = chain.later suite (first + second) := by
  induction first generalizing chain with
  | zero => rw [Nat.zero_add]; rfl
  | succ first ih =>
      rw [Nat.succ_add]
      exact ih (chain.following suite)

theorem toNat_index_following (room : chain.index.toNat + 1 < 0x100000000) :
    (chain.following suite).index.toNat = chain.index.toNat + 1 := by
  simp only [following, UInt32.toNat_add]
  exact Nat.mod_eq_of_lt room

theorem toNat_index_later (room : chain.index.toNat + count < 0x100000000) :
    (chain.later suite count).index.toNat = chain.index.toNat + count := by
  induction count generalizing chain with
  | zero => rfl
  | succ count ih =>
      have step : (chain.following suite).index.toNat = chain.index.toNat + 1 :=
        toNat_index_following (by omega)
      simp only [later]
      rw [ih (by omega)]
      omega

theorem counter_messageKeys : (chain.messageKeys suite).counter = chain.index := rfl

theorem mem_passed {keys : MessageKeys} (member : keys ∈ chain.passed suite count) :
    ∃ offset, offset < count ∧ keys = (chain.later suite offset).messageKeys suite := by
  induction count generalizing chain with
  | zero => cases member
  | succ count ih =>
      rcases List.mem_cons.mp member with first | later
      · exact ⟨0, Nat.succ_pos count, first⟩
      · obtain ⟨offset, bound, same⟩ := ih later
        exact ⟨offset + 1, Nat.succ_lt_succ bound, same⟩

theorem passed_increasing (room : chain.index.toNat + count < 0x100000000) :
    (chain.passed suite count).Pairwise fun left right => left.counter < right.counter := by
  induction count generalizing chain with
  | zero => exact .nil
  | succ count ih =>
      have step : (chain.following suite).index.toNat = chain.index.toNat + 1 :=
        toNat_index_following (by omega)
      refine List.pairwise_cons.mpr ⟨fun keys member => ?_, ih (by omega)⟩
      obtain ⟨offset, bound, rfl⟩ := mem_passed member
      have reached : ((chain.following suite).later suite offset).index.toNat =
          (chain.following suite).index.toNat + offset := toNat_index_later (by omega)
      rw [counter_messageKeys, counter_messageKeys, UInt32.lt_iff_toNat_lt]
      omega

end ChainKey

namespace ReceiverChain

variable {suite : Suite} {config : Config} {key other : PublicKey} {counter : UInt32}
  {keys : MessageKeys} {chain new after : ReceiverChain} {chains : List ReceiverChain}

/-! ## The chain of a ratchet key -/

def lookup (key : PublicKey) (chains : List ReceiverChain) : Option ReceiverChain :=
  chains.find? fun chain => chain.ratchetKey = key

/-- Puts a chain in the place of the first chain of the same ratchet key. -/
def replace (new : ReceiverChain) : List ReceiverChain → List ReceiverChain
  | [] => []
  | chain :: rest =>
      if chain.ratchetKey = new.ratchetKey then new :: rest else chain :: replace new rest

theorem ratchetKey_of_lookup (found : lookup key chains = some chain) : chain.ratchetKey = key := by
  simpa using List.find?_some found

theorem changeFirst_of_lookup {change : ReceiverChain → ReceiverChain}
    (found : lookup key chains = some chain) (keeps : (change chain).ratchetKey = key) :
    changeFirst key change chains = some (replace (change chain) chains) := by
  induction chains with
  | nil => cases found
  | cons first rest ih =>
      by_cases same : first.ratchetKey = key
      · have firstFound : first = chain := by simpa [lookup, same] using found
        simp [changeFirst, replace, firstFound, keeps, firstFound ▸ same]
      · have restFound : lookup key rest = some chain := by simpa [lookup, same] using found
        simp [changeFirst, replace, same, keeps, ih restFound]

theorem changeFirst_of_lookup_none {change : ReceiverChain → ReceiverChain}
    (missing : lookup key chains = none) : changeFirst key change chains = none := by
  induction chains with
  | nil => rfl
  | cons first rest ih =>
      have ⟨different, restMissing⟩ : first.ratchetKey ≠ key ∧ lookup key rest = none := by
        simpa [lookup] using missing
      simp [changeFirst, different, ih restMissing]

theorem lookup_replace_self (found : (lookup new.ratchetKey chains).isSome = true) :
    lookup new.ratchetKey (replace new chains) = some new := by
  induction chains with
  | nil => cases found
  | cons first rest ih =>
      by_cases same : first.ratchetKey = new.ratchetKey
      · simp [lookup, replace, same]
      · have restFound : (lookup new.ratchetKey rest).isSome = true := by
          simpa [lookup, same] using found
        simpa [lookup, replace, same] using ih restFound

theorem lookup_replace_of_ne (different : key ≠ new.ratchetKey) :
    lookup key (replace new chains) = lookup key chains := by
  induction chains with
  | nil => rfl
  | cons first rest ih =>
      simp only [replace]
      split
      · rename_i same
        simp [lookup, same, different.symm]
      · simp only [lookup, List.find?_cons] at ih ⊢
        rw [ih]

theorem replace_replace {older : ReceiverChain} (same : older.ratchetKey = new.ratchetKey) :
    replace new (replace older chains) = replace new chains := by
  induction chains with
  | nil => rfl
  | cons first rest ih =>
      by_cases here : first.ratchetKey = new.ratchetKey
      · simp [replace, same, here]
      · simp [replace, same, here, ih]

theorem replace_of_lookup (found : lookup chain.ratchetKey chains = some chain) :
    replace chain chains = chains := by
  induction chains with
  | nil => rfl
  | cons first rest ih =>
      by_cases same : first.ratchetKey = chain.ratchetKey
      · have firstFound : first = chain := by simpa [lookup, same] using found
        simp [replace, firstFound]
      · have restFound : lookup chain.ratchetKey rest = some chain := by
          simpa [lookup, same] using found
        simp [replace, same, ih restFound]

theorem map_ratchetKey_replace (new : ReceiverChain) (chains : List ReceiverChain) :
    (replace new chains).map ratchetKey = chains.map ratchetKey := by
  induction chains with
  | nil => rfl
  | cons first rest ih =>
      simp only [replace]
      split
      · rename_i same
        simp [same]
      · simp [ih]

theorem mem_replace (member : chain ∈ replace new chains) : chain = new ∨ chain ∈ chains := by
  induction chains with
  | nil => cases member
  | cons first rest ih =>
      simp only [replace] at member
      split at member
      · exact (List.mem_cons.mp member).imp_right (List.mem_cons_of_mem _)
      · rcases List.mem_cons.mp member with same | later
        · exact .inr (same ▸ List.mem_cons_self)
        · exact (ih later).imp_right (List.mem_cons_of_mem _)

/-- Where ratchet keys differ, there is one chain to replace. -/
theorem replace_eq_map (distinct : (chains.map ratchetKey).Nodup) (new : ReceiverChain) :
    replace new chains =
      chains.map fun chain => if chain.ratchetKey = new.ratchetKey then new else chain := by
  induction chains with
  | nil => rfl
  | cons first rest ih =>
      rw [List.map_cons, List.nodup_cons] at distinct
      simp only [replace, List.map_cons]
      split
      · rename_i same
        rw [List.cons.injEq]
        refine ⟨rfl, ?_⟩
        apply Eq.symm
        rw [List.map_congr_left, List.map_id]
        intro chain member
        apply if_neg
        intro sameKey
        apply distinct.1
        rw [same, ← sameKey]
        exact List.mem_map_of_mem member
      · rw [ih distinct.2]

/-- Where ratchet keys differ, every chain is the chain of its ratchet key. -/
theorem lookup_of_mem (distinct : (chains.map ratchetKey).Nodup) (member : chain ∈ chains) :
    lookup chain.ratchetKey chains = some chain := by
  induction chains with
  | nil => cases member
  | cons first rest ih =>
      rw [List.map_cons, List.nodup_cons] at distinct
      rcases List.mem_cons.mp member with rfl | later
      · simp [lookup]
      · have different : first.ratchetKey ≠ chain.ratchetKey := by
          intro same
          apply distinct.1
          rw [same]
          exact List.mem_map_of_mem later
        simpa [lookup, different] using ih distinct.2 later

/-! ## Requests -/

def cacheAll (config : Config) (passed : List MessageKeys) (chain : ReceiverChain) :
    ReceiverChain :=
  passed.foldl (fun chain keys => chain.cache config keys) chain

/-- The keys of a counter and the chain without them, or why the chain does not give them. -/
def request (suite : Suite) (config : Config) (counter : UInt32) (chain : ReceiverChain) :
    Except Failure (MessageKeys × ReceiverChain) :=
  if counter < chain.chainKey.index then
    match chain.cached? counter with
    | none => .error (.refused (.duplicateMessage chain.chainKey.index counter))
    | some keys => .ok (keys, chain.uncache counter)
  else if config.maxForwardJumps < counter - chain.chainKey.index then
    .error (.invalidMessage (.tooFarAhead config.maxForwardJumps))
  else do
    let count := (counter - chain.chainKey.index).toNat
    let reached := chain.chainKey.later suite count
    let next ← reached.next suite
    pure (reached.messageKeys suite,
      { chain.cacheAll config (chain.chainKey.passed suite count) with chainKey := next })

theorem ratchetKey_cacheAll (config : Config) (passed : List MessageKeys) (chain : ReceiverChain) :
    (chain.cacheAll config passed).ratchetKey = chain.ratchetKey := by
  induction passed generalizing chain with
  | nil => rfl
  | cons keys passed ih => exact ih (chain.cache config keys)

theorem skipped_cacheAll (config : Config) (passed : List MessageKeys) {chain : ReceiverChain}
    (short : chain.skipped.length ≤ config.maxMessageKeys) :
    (chain.cacheAll config passed).skipped =
      newest config.maxMessageKeys (chain.skipped ++ passed) := by
  induction passed generalizing chain with
  | nil =>
      rw [List.append_nil, newest_of_length_le short]
      rfl
  | cons keys passed ih =>
      have cached : (chain.cache config keys).skipped =
          newest config.maxMessageKeys (chain.skipped ++ [keys]) := rfl
      have cachedShort : (chain.cache config keys).skipped.length ≤ config.maxMessageKeys :=
        length_newest_le _ _
      have later := ih cachedShort
      rw [cached, newest_newest_append, List.append_assoc, List.singleton_append] at later
      exact later

/-- Without a bound on what was cached before: nothing is cached that was not passed. -/
theorem skipped_cacheAll_sublist (config : Config) (passed : List MessageKeys)
    (chain : ReceiverChain) :
    (chain.cacheAll config passed).skipped.Sublist (chain.skipped ++ passed) := by
  induction passed generalizing chain with
  | nil => rw [List.append_nil]; exact List.Sublist.refl _
  | cons keys passed ih =>
      have cut : (chain.cache config keys).skipped.Sublist (chain.skipped ++ [keys]) :=
        newest_sublist _ _
      have appended := (cut.append_right passed)
      rw [List.append_assoc, List.singleton_append] at appended
      exact (ih (chain.cache config keys)).trans appended

/-- What a chain did when it gave the keys of a counter: it took them out of its cache, or it moved
past the counter. -/
inductive Granted (suite : Suite) (config : Config) (counter : UInt32) (chain : ReceiverChain)
    (keys : MessageKeys) : ReceiverChain → Prop where
  | cached (behind : counter < chain.chainKey.index) (found : chain.cached? counter = some keys) :
      Granted suite config counter chain keys (chain.uncache counter)
  | ahead (count : Nat) (counter_eq : counter.toNat = chain.chainKey.index.toNat + count)
      (notLast : counter ≠ 0xffffffff) (near : count ≤ config.maxForwardJumps.toNat)
      (keys_eq : keys = (chain.chainKey.later suite count).messageKeys suite) :
      Granted suite config counter chain keys
        { chain.cacheAll config (chain.chainKey.passed suite count) with
          chainKey := chain.chainKey.later suite (count + 1) }

theorem index_later_of_counter {count : Nat}
    (counter_eq : counter.toNat = chain.chainKey.index.toNat + count) :
    (chain.chainKey.later suite count).index = counter := by
  have bound := counter.toNat_lt
  exact UInt32.toNat_inj.mp
    ((ChainKey.toNat_index_later (by omega)).trans counter_eq.symm)

theorem next_later_of_counter {count : Nat}
    (counter_eq : counter.toNat = chain.chainKey.index.toNat + count) (notLast : counter ≠ 0xffffffff) :
    (chain.chainKey.later suite count).next suite =
      .ok (chain.chainKey.later suite (count + 1)) := by
  rw [ChainKey.later_succ]
  refine ChainKey.next_eq_ok.mpr ⟨?_, rfl⟩
  rwa [index_later_of_counter counter_eq]

theorem granted_of_request (granted : chain.request suite config counter = .ok (keys, after)) :
    Granted suite config counter chain keys after := by
  unfold request at granted
  split at granted
  · rename_i behind
    cases found : chain.cached? counter with
    | none =>
        rw [found] at granted
        cases granted
    | some cachedKeys =>
        rw [found] at granted
        cases granted
        exact .cached behind found
  · rename_i notBehind
    obtain ⟨count, counter_eq⟩ := exists_way notBehind
    rw [toNat_sub_of_ahead counter_eq] at granted
    split at granted
    · cases granted
    · rename_i notFar
      rw [lt_sub_of_ahead counter_eq] at notFar
      dsimp only at granted
      cases moved : (chain.chainKey.later suite count).next suite with
      | error failure =>
          rw [moved] at granted
          cases granted
      | ok next =>
          rw [moved] at granted
          cases granted
          obtain ⟨notLast, rfl⟩ := ChainKey.next_eq_ok.mp moved
          rw [index_later_of_counter counter_eq] at notLast
          rw [← ChainKey.later_succ]
          exact .ahead count counter_eq notLast (Nat.le_of_not_lt notFar) rfl

theorem Granted.request_eq (granted : Granted suite config counter chain keys after) :
    chain.request suite config counter = .ok (keys, after) := by
  cases granted with
  | cached behind found => simp only [request, behind, if_true, found]
  | ahead count counter_eq notLast near keys_eq =>
      have notBehind := not_lt_of_ahead counter_eq
      have notFar : ¬config.maxForwardJumps < counter - chain.chainKey.index := by
        rw [lt_sub_of_ahead counter_eq]
        exact Nat.not_lt_of_le near
      have moved : (chain.chainKey.later suite count).next suite = _ :=
        next_later_of_counter counter_eq notLast
      simp only [request, if_neg notBehind, if_neg notFar, toNat_sub_of_ahead counter_eq, moved,
        keys_eq]
      rfl

theorem request_eq_ok :
    chain.request suite config counter = .ok (keys, after) ↔
      Granted suite config counter chain keys after :=
  ⟨granted_of_request, Granted.request_eq⟩

theorem Granted.ratchetKey_eq (granted : Granted suite config counter chain keys after) :
    after.ratchetKey = chain.ratchetKey := by
  cases granted with
  | cached => rfl
  | ahead count => exact ratchetKey_cacheAll config _ chain

/-! ## Spent counters -/

/-- The cached keys are in the order of their counters and belong to messages before the chain's. -/
structure Ordered (chain : ReceiverChain) : Prop where
  increasing : chain.skipped.Pairwise fun left right => left.counter < right.counter
  behind : ∀ keys ∈ chain.skipped, keys.counter < chain.chainKey.index

/-- The chain has passed the counter and has no keys for it. -/
structure Spent (counter : UInt32) (chain : ReceiverChain) : Prop where
  behind : counter < chain.chainKey.index
  uncached : chain.cached? counter = none

theorem cached?_eq_none :
    chain.cached? counter = none ↔ ∀ keys ∈ chain.skipped, keys.counter ≠ counter := by
  simp [cached?]

theorem mem_of_cached? (found : chain.cached? counter = some keys) :
    keys ∈ chain.skipped ∧ keys.counter = counter :=
  ⟨List.mem_of_find?_eq_some found, by simpa using List.find?_some found⟩

/-- The cached keys of a counter are the only ones. -/
theorem Ordered.cached?_of_mem (ordered : chain.Ordered) (member : keys ∈ chain.skipped) :
    chain.cached? keys.counter = some keys := by
  have increasing := ordered.increasing
  unfold cached?
  generalize chain.skipped = cache at member increasing
  induction cache with
  | nil => cases member
  | cons first rest ih =>
      have ⟨before, restIncreasing⟩ := List.pairwise_cons.mp increasing
      rcases List.mem_cons.mp member with rfl | later
      · exact List.find?_cons_of_pos (decide_eq_true rfl)
      · have different : first.counter ≠ keys.counter := UInt32.ne_of_lt (before keys later)
        rw [List.find?_cons_of_neg (by simpa using different)]
        exact ih later restIncreasing

theorem Granted.toNat_index_le (granted : Granted suite config counter chain keys after) :
    chain.chainKey.index.toNat ≤ after.chainKey.index.toNat := by
  cases granted with
  | cached => exact Nat.le_refl _
  | ahead count counter_eq notLast =>
      have counterBound := ne_last_iff.mp notLast
      dsimp only
      rw [ChainKey.toNat_index_later (by omega)]
      omega

/-- A chain that moved ahead caches what it cached before and the keys that it passed, or less. -/
theorem mem_skipped_ahead {count : Nat}
    (member : keys ∈ (chain.cacheAll config (chain.chainKey.passed suite count)).skipped) :
    keys ∈ chain.skipped ∨
      ∃ offset, offset < count ∧ keys = (chain.chainKey.later suite offset).messageKeys suite := by
  have passed := (skipped_cacheAll_sublist config _ chain).subset member
  exact (List.mem_append.mp passed).imp_right ChainKey.mem_passed

/-- What a chain caches and what it passes next are in order together. -/
theorem Ordered.append_passed {count : Nat} (ordered : chain.Ordered)
    (room : chain.chainKey.index.toNat + count < 0x100000000) :
    (chain.skipped ++ chain.chainKey.passed suite count).Pairwise
      fun left right => left.counter < right.counter := by
  refine List.pairwise_append.mpr
    ⟨ordered.increasing, ChainKey.passed_increasing room, fun old isOld new isNew => ?_⟩
  obtain ⟨offset, offsetBound, rfl⟩ := ChainKey.mem_passed isNew
  have before := ordered.behind old isOld
  rw [UInt32.lt_iff_toNat_lt] at before ⊢
  rw [ChainKey.counter_messageKeys, ChainKey.toNat_index_later (by omega)]
  omega

theorem Granted.ordered (granted : Granted suite config counter chain keys after)
    (ordered : chain.Ordered) : after.Ordered := by
  cases granted with
  | cached =>
      have sub : (chain.uncache counter).skipped.Sublist chain.skipped := List.eraseP_sublist
      exact ⟨ordered.increasing.sublist sub, fun keys member =>
        ordered.behind keys (sub.subset member)⟩
  | ahead count counter_eq notLast =>
      have counterBound := ne_last_iff.mp notLast
      have room : chain.chainKey.index.toNat + count < 0x100000000 := by omega
      have moved : (chain.chainKey.later suite (count + 1)).index.toNat =
          chain.chainKey.index.toNat + (count + 1) := ChainKey.toNat_index_later (by omega)
      constructor
      · exact (ordered.append_passed room).sublist (skipped_cacheAll_sublist config _ chain)
      · intro keys member
        dsimp only
        rw [UInt32.lt_iff_toNat_lt, moved]
        rcases mem_skipped_ahead member with old | ⟨offset, offsetBound, rfl⟩
        · have before := ordered.behind keys old
          rw [UInt32.lt_iff_toNat_lt] at before
          omega
        · rw [ChainKey.counter_messageKeys, ChainKey.toNat_index_later (by omega)]
          omega

/-- In a list of increasing counters the first keys of a counter are the only ones. -/
theorem counter_ne_of_mem_eraseP {cache : List MessageKeys}
    (increasing : cache.Pairwise fun left right => left.counter < right.counter)
    (member : keys ∈ cache.eraseP fun keys => keys.counter = counter) :
    keys.counter ≠ counter := by
  induction cache with
  | nil => cases member
  | cons first rest ih =>
      have ⟨before, restIncreasing⟩ := List.pairwise_cons.mp increasing
      by_cases same : first.counter = counter
      · have inRest : keys ∈ rest := by simpa [same] using member
        exact fun equal => UInt32.ne_of_lt (before keys inRest) (same.trans equal.symm)
      · have split : keys = first ∨ keys ∈ rest.eraseP fun keys => keys.counter = counter := by
          simpa [same] using member
        rcases split with rfl | inRest
        · exact same
        · exact ih restIncreasing inRest

/-- A chain spends the counter whose keys it gives. -/
theorem Granted.spends (granted : Granted suite config counter chain keys after)
    (ordered : chain.Ordered) : after.Spent counter := by
  cases granted with
  | cached behind found =>
      refine ⟨behind, cached?_eq_none.mpr fun other member => ?_⟩
      exact counter_ne_of_mem_eraseP ordered.increasing member
  | ahead count counter_eq notLast =>
      have counterBound := ne_last_iff.mp notLast
      refine ⟨?_, cached?_eq_none.mpr fun other member same => ?_⟩
      · dsimp only
        rw [UInt32.lt_iff_toNat_lt, ChainKey.toNat_index_later (by omega)]
        omega
      · have sameNat := congrArg UInt32.toNat same
        rcases mem_skipped_ahead member with old | ⟨offset, offsetBound, rfl⟩
        · have before := ordered.behind other old
          rw [UInt32.lt_iff_toNat_lt] at before
          omega
        · rw [ChainKey.counter_messageKeys, ChainKey.toNat_index_later (by omega)] at sameNat
          omega

/-- A counter stays spent whatever the chain gives next. -/
theorem Granted.keeps_spent {past : UInt32}
    (granted : Granted suite config counter chain keys after) (spent : chain.Spent past) :
    after.Spent past := by
  refine ⟨UInt32.lt_iff_toNat_lt.mpr ?_, cached?_eq_none.mpr fun other member => ?_⟩
  · exact Nat.lt_of_lt_of_le (UInt32.lt_iff_toNat_lt.mp spent.behind) granted.toNat_index_le
  · have uncached := cached?_eq_none.mp spent.uncached
    cases granted with
    | cached => exact uncached other (List.eraseP_subset member)
    | ahead count counter_eq =>
        have counterBound := counter.toNat_lt
        have passedBefore := UInt32.lt_iff_toNat_lt.mp spent.behind
        rcases mem_skipped_ahead member with old | ⟨offset, offsetBound, rfl⟩
        · exact uncached other old
        · intro same
          have sameNat := congrArg UInt32.toNat same
          rw [ChainKey.counter_messageKeys, ChainKey.toNat_index_later (by omega)] at sameNat
          omega

end ReceiverChain
end DoubleRatchet
