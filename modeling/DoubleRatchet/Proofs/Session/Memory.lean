import DoubleRatchet.Proofs.Session.Account
import DoubleRatchet.Proofs.Session.Lookup
import DoubleRatchet.Proofs.Suite
import Mathlib.Data.List.Sort
import Mathlib.Order.Interval.Finset.Nat

/-!
# Chains that never forget

A receiving chain keeps the keys of only so many skipped messages. A memory keeps them all: it tells
from the first chain key, the highest counter and the counters that were read what an answer is. A
chain answers as its memory does, but for the messages whose keys it had to give up.
-/

namespace DoubleRatchet

/-! ## The unbounded chain -/

namespace ChainKey

variable {suite : Suite} {chain : ChainKey} {count : Nat}

/-- The chain key after some messages. -/
def advance (suite : Suite) : (count : Nat) → ChainKey → Except Failure ChainKey
  | 0, chain => .ok chain
  | count + 1, chain => do
      let next ← chain.next suite
      advance suite count next

theorem advance_of_room (room : chain.index.toNat + count < 0x100000000) :
    chain.advance suite count = .ok (chain.later suite count) := by
  induction count generalizing chain with
  | zero => rfl
  | succ count ih =>
      have notLast : chain.index ≠ 0xffffffff := ne_last_iff.mpr (by omega)
      have step : (chain.following suite).index.toNat = chain.index.toNat + 1 :=
        toNat_index_following (by omega)
      rw [advance, next_eq_ok.mpr ⟨notLast, rfl⟩]
      exact ih (by omega)

/-- The keys of a counter on a chain that began with this chain key. -/
def keysAt (suite : Suite) (counter : UInt32) (first : ChainKey) : MessageKeys :=
  (first.later suite (counter.toNat - first.index.toNat)).messageKeys suite

end ChainKey

/-- A receiving chain that keeps all keys: how it began, the number after the highest counter that it
reached, and the counters whose keys it gave. -/
structure Memory where
  first : ChainKey
  next : Nat
  taken : Finset Nat

namespace Memory

variable (suite : Suite) (config : Config)

def blank (first : ChainKey) : Memory where
  first := first
  next := first.index.toNat
  taken := ∅

/-- Its keys were given, or it lies before the first chain key. -/
def Consumed (counter : Nat) (memory : Memory) : Prop :=
  counter < memory.first.index.toNat ∨ counter ∈ memory.taken

instance (counter : Nat) (memory : Memory) : Decidable (memory.Consumed counter) :=
  inferInstanceAs (Decidable (_ ∨ _))

def Accepts (counter : Nat) (memory : Memory) : Prop :=
  ¬memory.Consumed counter ∧ counter ≤ memory.next + config.maxForwardJumps.toNat

instance (counter : Nat) (memory : Memory) : Decidable (memory.Accepts config counter) :=
  inferInstanceAs (Decidable (_ ∧ _))

def answer (counter : UInt32) (memory : Memory) : Except Failure MessageKeys :=
  if memory.Consumed counter.toNat then
    .error (.refused (.duplicateMessage (.ofNat memory.next) counter))
  else if memory.Accepts config counter.toNat then do
    let reached ← memory.first.advance suite (counter.toNat - memory.first.index.toNat)
    pure (reached.messageKeys suite)
  else .error (.invalidMessage (.tooFarAhead config.maxForwardJumps))

def remember (counter : Nat) (memory : Memory) : Memory :=
  if memory.Accepts config counter then
    { memory with next := max memory.next (counter + 1), taken := insert counter memory.taken }
  else memory

def after (asked : List UInt32) (memory : Memory) : Memory :=
  asked.foldl (fun memory counter => memory.remember config counter.toNat) memory

/-- The counters that it has passed and whose keys it still has. -/
def outstanding (memory : Memory) : Finset Nat :=
  Finset.Ico memory.first.index.toNat memory.next \ memory.taken

/-- It never has more keys than a chain keeps. -/
def Fits (asked : List UInt32) (memory : Memory) : Prop :=
  ∀ earlier, earlier <+: asked →
    (memory.after config earlier).outstanding.card ≤ config.maxMessageKeys

instance (asked : List UInt32) (memory : Memory) : Decidable (memory.Fits config asked) :=
  decidable_of_iff
    (∀ earlier ∈ asked.inits,
      (memory.after config earlier).outstanding.card ≤ config.maxMessageKeys)
    (forall_congr' fun _ => imp_congr_left (List.mem_inits _ _))

variable {suite config} {memory : Memory} {counter : UInt32} {asked : List UInt32}

theorem after_append (asked : List UInt32) (counter : UInt32) (memory : Memory) :
    memory.after config (asked ++ [counter]) =
      (memory.after config asked).remember config counter.toNat := by
  simp only [after, List.foldl_append, List.foldl_cons, List.foldl_nil]

@[simp] theorem first_remember (counter : Nat) (memory : Memory) :
    (memory.remember config counter).first = memory.first := by
  unfold remember
  split <;> rfl

@[simp] theorem first_after (asked : List UInt32) (memory : Memory) :
    (memory.after config asked).first = memory.first := by
  induction asked generalizing memory with
  | nil => rfl
  | cons counter asked ih => exact (ih _).trans (first_remember _ _)

theorem Fits.earlier (fits : memory.Fits config (asked ++ [counter])) :
    memory.Fits config asked :=
  fun earlier isEarlier => fits earlier (isEarlier.trans (List.prefix_append _ _))

theorem answer_of_accepts (accepts : memory.Accepts config counter.toNat) :
    memory.answer suite config counter = .ok (memory.first.keysAt suite counter) := by
  have bound := counter.toNat_lt
  have begun : memory.first.index.toNat ≤ counter.toNat :=
    Nat.le_of_not_lt fun before => accepts.1 (.inl before)
  have advanced : memory.first.advance suite (counter.toNat - memory.first.index.toNat) = .ok _ :=
    ChainKey.advance_of_room (by omega)
  rw [answer, if_neg accepts.1, if_pos accepts, advanced]
  rfl

theorem answer_of_consumed (consumed : memory.Consumed counter.toNat) :
    memory.answer suite config counter =
      .error (.refused (.duplicateMessage (.ofNat memory.next) counter)) :=
  if_pos consumed

theorem answer_of_far (fresh : ¬memory.Consumed counter.toNat)
    (far : memory.next + config.maxForwardJumps.toNat < counter.toNat) :
    memory.answer suite config counter =
      .error (.invalidMessage (.tooFarAhead config.maxForwardJumps)) := by
  rw [answer, if_neg fresh, if_neg fun accepts => Nat.not_le_of_lt far accepts.2]

theorem remember_of_accepts {counter : Nat} (accepts : memory.Accepts config counter) :
    memory.remember config counter =
      { memory with next := max memory.next (counter + 1), taken := insert counter memory.taken } :=
  if_pos accepts

theorem remember_of_refused {counter : Nat} (refused : ¬memory.Accepts config counter) :
    memory.remember config counter = memory :=
  if_neg refused

end Memory

/-! ## Chains that began with a chain key -/

namespace ReceiverChain

variable {suite : Suite} {config : Config} {first : ChainKey} {counter : UInt32}
  {keys : MessageKeys} {chain new : ReceiverChain}

/-- Whatever a chain holds comes from its first chain key. -/
structure Follows (suite : Suite) (config : Config) (first : ChainKey) (chain : ReceiverChain) :
    Prop where
  begun : first.index.toNat ≤ chain.chainKey.index.toNat
  chainKey_eq : chain.chainKey =
    first.later suite (chain.chainKey.index.toNat - first.index.toNat)
  skipped_eq : ∀ keys ∈ chain.skipped,
    first.index.toNat ≤ keys.counter.toNat ∧ keys = first.keysAt suite keys.counter
  ordered : chain.Ordered
  short : chain.skipped.length ≤ config.maxMessageKeys

theorem Follows.start (suite : Suite) (config : Config) (first : ChainKey) (key : PublicKey) :
    ({ ratchetKey := key, chainKey := first } : ReceiverChain).Follows suite config first where
  begun := Nat.le_refl _
  chainKey_eq := by
    rw [Nat.sub_self]
    rfl
  skipped_eq _ member := nomatch member
  ordered := ⟨.nil, nofun⟩
  short := Nat.zero_le _

/-- The chain key some messages on is still that many messages after the first one. -/
theorem Follows.later_eq (follows : chain.Follows suite config first) (count : Nat) :
    chain.chainKey.later suite count =
      first.later suite (chain.chainKey.index.toNat + count - first.index.toNat) := by
  have begun := follows.begun
  have split : chain.chainKey.index.toNat + count - first.index.toNat =
      (chain.chainKey.index.toNat - first.index.toNat) + count := by omega
  rw [split, ← ChainKey.later_add, ← follows.chainKey_eq]

/-- The keys that a chain passes are those of its first chain key. -/
theorem Follows.passed_eq {count : Nat} (follows : chain.Follows suite config first)
    (room : chain.chainKey.index.toNat + count < 0x100000000)
    (member : keys ∈ chain.chainKey.passed suite count) :
    chain.chainKey.index.toNat ≤ keys.counter.toNat ∧
      keys.counter.toNat < chain.chainKey.index.toNat + count ∧
      keys = first.keysAt suite keys.counter := by
  obtain ⟨offset, bound, rfl⟩ := ChainKey.mem_passed member
  rw [ChainKey.counter_messageKeys, ChainKey.toNat_index_later (by omega)]
  refine ⟨by omega, by omega, ?_⟩
  rw [ChainKey.keysAt, ChainKey.toNat_index_later (by omega), follows.later_eq]

theorem Follows.granted (follows : chain.Follows suite config first)
    (granted : chain.Granted suite config counter keys new) :
    keys = first.keysAt suite counter ∧ first.index.toNat ≤ counter.toNat ∧
      new.Follows suite config first := by
  have ordered := granted.ordered follows.ordered
  have short := granted.short follows.ordered follows.short
  cases granted with
  | cached behind found =>
      obtain ⟨member, rfl⟩ := mem_of_cached? found
      obtain ⟨begun, keys_eq⟩ := follows.skipped_eq keys member
      have sub : (chain.uncache keys.counter).skipped.Sublist chain.skipped := List.eraseP_sublist
      exact ⟨keys_eq, begun, follows.begun, follows.chainKey_eq,
        fun other isOther => follows.skipped_eq other (sub.subset isOther), ordered, short⟩
  | ahead count counter_eq notLast near keys_eq =>
      have counterBound := ne_last_iff.mp notLast
      have begun := follows.begun
      have index_eq : (chain.chainKey.later suite (count + 1)).index.toNat =
          chain.chainKey.index.toNat + (count + 1) := ChainKey.toNat_index_later (by omega)
      refine ⟨?_, by omega, by dsimp only; omega, ?_, fun other isOther => ?_, ordered, short⟩
      · rw [keys_eq, ChainKey.keysAt, follows.later_eq, ← counter_eq]
      · dsimp only
        rw [index_eq, follows.later_eq]
      · have kept := (skipped_cacheAll_sublist config _ chain).subset isOther
        rcases List.mem_append.mp kept with old | passed
        · exact follows.skipped_eq other old
        · obtain ⟨atLeast, _, other_eq⟩ := follows.passed_eq (by omega) passed
          exact ⟨by omega, other_eq⟩

/-- A chain that began with a chain key is where it is with the keys of the counters it keeps. -/
theorem Follows.ext {other : ReceiverChain} (follows : chain.Follows suite config first)
    (otherFollows : other.Follows suite config first) (sameKey : chain.ratchetKey = other.ratchetKey)
    (sameIndex : chain.chainKey.index = other.chainKey.index)
    (sameKept : ∀ counter, (∃ keys ∈ chain.skipped, keys.counter = counter) ↔
      ∃ keys ∈ other.skipped, keys.counter = counter) : chain = other := by
  have sameChainKey : chain.chainKey = other.chainKey := by
    rw [follows.chainKey_eq, otherFollows.chainKey_eq, sameIndex]
  have irrefl : Std.Irrefl fun left right : MessageKeys => left.counter < right.counter :=
    ⟨fun _ => UInt32.lt_irrefl _⟩
  have antisymm : Std.Antisymm fun left right : MessageKeys => left.counter < right.counter :=
    ⟨fun _ _ before after => absurd after (UInt32.lt_asymm before)⟩
  have sameSkipped : chain.skipped = other.skipped := by
    apply follows.ordered.increasing.eq_of_mem_iff otherFollows.ordered.increasing
    intro keys
    constructor
    · intro member
      obtain ⟨found, isFound, same⟩ := (sameKept keys.counter).mp ⟨keys, member, rfl⟩
      rw [(follows.skipped_eq keys member).2, ← same, ← (otherFollows.skipped_eq found isFound).2]
      exact isFound
    · intro member
      obtain ⟨found, isFound, same⟩ := (sameKept keys.counter).mpr ⟨keys, member, rfl⟩
      rw [(otherFollows.skipped_eq keys member).2, ← same, ← (follows.skipped_eq found isFound).2]
      exact isFound
  cases chain
  cases other
  rw [ReceiverChain.mk.injEq]
  exact ⟨sameKey, sameChainKey, sameSkipped⟩

/-- A chain has passed the counter and gave its keys to nobody, and yet it has no keys for it. -/
structure Evicted (first : ChainKey) (granted : List UInt32) (counter : UInt32)
    (chain : ReceiverChain) : Prop where
  begun : first.index.toNat ≤ counter.toNat
  notGranted : counter ∉ granted
  spent : chain.Spent counter

end ReceiverChain

/-! ## A chain and its memory -/

section Mirrored

open ReceiverChain

variable {suite : Suite} {config : Config} {granted : List UInt32} {memory : Memory}
  {chain new : ReceiverChain} {counter other : UInt32} {keys : MessageKeys} {count : Nat}

/-- What a chain and its memory have in common after the same requests. -/
structure Mirrors (suite : Suite) (config : Config) (granted : List UInt32) (memory : Memory)
    (chain : ReceiverChain) : Prop where
  follows : chain.Follows suite config memory.first
  next_eq : memory.next = chain.chainKey.index.toNat
  granted_taken : ∀ counter ∈ granted, counter.toNat ∈ memory.taken
  taken_passed : ∀ counter ∈ memory.taken,
    memory.first.index.toNat ≤ counter ∧ counter < memory.next
  cached_untaken : ∀ keys ∈ chain.skipped, keys.counter.toNat ∉ memory.taken
  evicted_before : ∀ counter, chain.Evicted memory.first granted counter →
    ∀ keys ∈ chain.skipped, counter < keys.counter
  last_granted : memory.next = memory.first.index.toNat ∨
    ∃ counter ∈ granted, counter.toNat + 1 = memory.next

theorem Mirrors.blank (suite : Suite) (config : Config) (first : ChainKey) (key : PublicKey) :
    Mirrors suite config [] (.blank first) { ratchetKey := key, chainKey := first } where
  follows := .start suite config first key
  next_eq := rfl
  granted_taken _ member := nomatch member
  taken_passed _ member := absurd member (Finset.notMem_empty _)
  cached_untaken _ member := nomatch member
  evicted_before _ _ _ member := nomatch member
  last_granted := .inl rfl

/-- What a chain gives keys for its memory accepts. -/
theorem Mirrors.accepts_of_granted (mirrors : Mirrors suite config granted memory chain)
    (gives : chain.Granted suite config counter keys new) :
    memory.Accepts config counter.toNat := by
  obtain ⟨_, begun, _⟩ := mirrors.follows.granted gives
  have next_eq := mirrors.next_eq
  cases gives with
  | cached behind found =>
      obtain ⟨member, rfl⟩ := mem_of_cached? found
      have behindNat := UInt32.lt_iff_toNat_lt.mp behind
      constructor
      · rintro (before | taken)
        · omega
        · exact mirrors.cached_untaken keys member taken
      · omega
  | ahead count counter_eq =>
      constructor
      · rintro (before | taken)
        · omega
        · have passed := (mirrors.taken_passed _ taken).2
          omega
      · omega

/-- A counter that a chain has spent and its memory has not is one that the chain has given up. -/
theorem Mirrors.consumed_of_spent (mirrors : Mirrors suite config granted memory chain)
    (spent : chain.Spent counter) (kept : ¬chain.Evicted memory.first granted counter) :
    memory.Consumed counter.toNat := by
  by_cases begun : memory.first.index.toNat ≤ counter.toNat
  · by_cases isGranted : counter ∈ granted
    · exact .inr (mirrors.granted_taken counter isGranted)
    · exact absurd ⟨begun, isGranted, spent⟩ kept
  · exact .inl (Nat.lt_of_not_le begun)

theorem Mirrors.not_consumed_of_far (mirrors : Mirrors suite config granted memory chain)
    (notBehind : ¬counter < chain.chainKey.index) : ¬memory.Consumed counter.toNat := by
  have next_eq := mirrors.next_eq
  have begun := mirrors.follows.begun
  rw [UInt32.lt_iff_toNat_lt] at notBehind
  rintro (before | taken)
  · omega
  · have passed := (mirrors.taken_passed _ taken).2
    omega

theorem Mirrors.far_of_far (mirrors : Mirrors suite config granted memory chain)
    (notBehind : ¬counter < chain.chainKey.index)
    (far : config.maxForwardJumps < counter - chain.chainKey.index) :
    memory.next + config.maxForwardJumps.toNat < counter.toNat := by
  have next_eq := mirrors.next_eq
  obtain ⟨count, counter_eq⟩ := exists_way notBehind
  rw [lt_sub_of_ahead counter_eq] at far
  omega

theorem Mirrors.not_accepts_of_far (mirrors : Mirrors suite config granted memory chain)
    (notBehind : ¬counter < chain.chainKey.index)
    (far : config.maxForwardJumps < counter - chain.chainKey.index) :
    ¬memory.Accepts config counter.toNat :=
  fun accepts => Nat.not_le_of_lt (mirrors.far_of_far notBehind far) accepts.2

/-! ### What is given up -/

/-- Giving a cached key gives up nothing. -/
theorem evicted_of_cached {first : ChainKey}
    (evicted : (chain.uncache counter).Evicted first (granted ++ [counter]) other) :
    chain.Evicted first granted other := by
  have different : other ≠ counter := by
    rintro rfl
    exact evicted.notGranted (List.mem_append_right _ (List.mem_singleton.mpr rfl))
  refine ⟨evicted.begun, fun isGranted => evicted.notGranted (List.mem_append_left _ isGranted),
    evicted.spent.behind, cached?_eq_none.mpr fun keys member same => ?_⟩
  have stays : keys ∈ (chain.uncache counter).skipped :=
    (List.mem_eraseP_of_neg (by simpa [same] using different)).mpr member
  exact cached?_eq_none.mp evicted.spent.uncached keys stays same

/-- What a chain has given up when it moved ahead it had given up before, or it has kept or passed
it. -/
theorem evicted_of_ahead {first : ChainKey}
    (room : chain.chainKey.index.toNat + count < 0xffffffff)
    (counter_eq : counter.toNat = chain.chainKey.index.toNat + count)
    (evicted : ({ chain.cacheAll config (chain.chainKey.passed suite count) with
      chainKey := chain.chainKey.later suite (count + 1) } : ReceiverChain).Evicted first
        (granted ++ [counter]) other) :
    chain.Evicted first granted other ∨
      ∃ keys ∈ chain.skipped ++ chain.chainKey.passed suite count, keys.counter = other := by
  by_cases held : ∃ keys ∈ chain.skipped ++ chain.chainKey.passed suite count,
      keys.counter = other
  · exact .inr held
  · left
    have different : other.toNat ≠ counter.toNat := by
      intro same
      rw [UInt32.toNat_inj.mp same] at evicted
      exact evicted.notGranted (List.mem_append_right _ (List.mem_singleton.mpr rfl))
    have notPassed : other.toNat ∉ List.range' chain.chainKey.index.toNat count := by
      have passed_eq : (chain.chainKey.passed suite count).map (fun keys => keys.counter.toNat) =
          List.range' chain.chainKey.index.toNat count := waiting_passed (by omega)
      rw [← passed_eq]
      intro passed
      obtain ⟨keys, member, same⟩ := List.mem_map.mp passed
      exact held ⟨keys, List.mem_append_right _ member, UInt32.toNat_inj.mp same⟩
    rw [List.mem_range'_1] at notPassed
    have behind := UInt32.lt_iff_toNat_lt.mp evicted.spent.behind
    dsimp only at behind
    rw [ChainKey.toNat_index_later (by omega)] at behind
    refine ⟨evicted.begun, fun isGranted => evicted.notGranted (List.mem_append_left _ isGranted),
      UInt32.lt_iff_toNat_lt.mpr (by omega), cached?_eq_none.mpr fun keys member same => ?_⟩
    exact held ⟨keys, List.mem_append_left _ member, same⟩

/-- What a chain gives up is older than whatever it keeps. -/
theorem Mirrors.evicted_before_of_ahead (mirrors : Mirrors suite config granted memory chain)
    (room : chain.chainKey.index.toNat + count < 0xffffffff)
    (counter_eq : counter.toNat = chain.chainKey.index.toNat + count)
    (evicted : ({ chain.cacheAll config (chain.chainKey.passed suite count) with
      chainKey := chain.chainKey.later suite (count + 1) } : ReceiverChain).Evicted memory.first
        (granted ++ [counter]) other) :
    ∀ keys ∈ (chain.cacheAll config (chain.chainKey.passed suite count)).skipped,
      other < keys.counter := by
  have skipped_eq :=
    skipped_cacheAll config (chain.chainKey.passed suite count) mirrors.follows.short
  intro keys member
  rcases evicted_of_ahead room counter_eq evicted with before | ⟨gone, held, rfl⟩
  · rcases List.mem_append.mp ((skipped_cacheAll_sublist config _ chain).subset member) with
      old | passed
    · exact mirrors.evicted_before other before keys old
    · have behind := UInt32.lt_iff_toNat_lt.mp before.spent.behind
      obtain ⟨atLeast, _⟩ := mirrors.follows.passed_eq (by omega) passed
      exact UInt32.lt_iff_toNat_lt.mpr (by omega)
  · rw [skipped_eq] at member
    have ordered : (chain.skipped ++ chain.chainKey.passed suite count).Pairwise
        fun left right => left.counter < right.counter :=
      mirrors.follows.ordered.append_passed (by omega)
    refine newest_after ordered held (fun stays => ?_) keys member
    rw [← skipped_eq] at stays
    exact cached?_eq_none.mp evicted.spent.uncached gone stays rfl

/-- What a chain would keep when it moves ahead, if it had room for all of it, is nothing that its
memory has given. -/
theorem Mirrors.untaken_of_waiting (mirrors : Mirrors suite config granted memory chain)
    (room : chain.chainKey.index.toNat + count < 0x100000000)
    (member : keys ∈ chain.skipped ++ chain.chainKey.passed suite count) :
    memory.first.index.toNat ≤ keys.counter.toNat ∧
      keys.counter.toNat < chain.chainKey.index.toNat + count ∧
      keys.counter.toNat ∉ memory.taken := by
  have begun := mirrors.follows.begun
  rcases List.mem_append.mp member with old | passed
  · have behind := UInt32.lt_iff_toNat_lt.mp (mirrors.follows.ordered.behind keys old)
    exact ⟨(mirrors.follows.skipped_eq keys old).1, by omega, mirrors.cached_untaken keys old⟩
  · obtain ⟨atLeast, below, _⟩ := mirrors.follows.passed_eq room passed
    refine ⟨by omega, below, fun taken => ?_⟩
    have takenBefore := (mirrors.taken_passed _ taken).2
    have next_eq := mirrors.next_eq
    omega

/-- All that waits when a chain has moved ahead is outstanding. -/
theorem Mirrors.length_waiting_le (mirrors : Mirrors suite config granted memory chain)
    (room : chain.chainKey.index.toNat + count < 0x100000000)
    (counter_eq : counter.toNat = chain.chainKey.index.toNat + count)
    (accepts : memory.Accepts config counter.toNat) :
    (chain.skipped ++ chain.chainKey.passed suite count).length ≤
      (memory.remember config counter.toNat).outstanding.card := by
  let waiting := chain.skipped ++ chain.chainKey.passed suite count
  have distinct : (waiting.map fun keys => keys.counter.toNat).Nodup := by
    apply List.Pairwise.map _ _ (mirrors.follows.ordered.append_passed room)
    intro left right before
    exact Nat.ne_of_lt (UInt32.lt_iff_toNat_lt.mp before)
  have outstanding : (waiting.map fun keys => keys.counter.toNat).toFinset ⊆
      (memory.remember config counter.toNat).outstanding := by
    intro waits isWaiting
    obtain ⟨keys, member, rfl⟩ := List.mem_map.mp (List.mem_toFinset.mp isWaiting)
    obtain ⟨atLeast, below, untaken⟩ := mirrors.untaken_of_waiting room member
    rw [Memory.remember_of_accepts accepts, Memory.outstanding, Finset.mem_sdiff, Finset.mem_Ico,
      Finset.mem_insert]
    dsimp only
    refine ⟨by omega, ?_⟩
    rintro (same | taken)
    · omega
    · exact untaken taken
  have counted := Finset.card_le_card outstanding
  rwa [List.toFinset_card_of_nodup distinct, List.length_map] at counted

theorem Mirrors.granted_taken_insert (mirrors : Mirrors suite config granted memory chain)
    (counter : UInt32) :
    ∀ past ∈ granted ++ [counter], past.toNat ∈ insert counter.toNat memory.taken := by
  intro past member
  rcases List.mem_append.mp member with old | isNew
  · exact Finset.mem_insert_of_mem (mirrors.granted_taken past old)
  · rw [List.mem_singleton.mp isNew]
    exact Finset.mem_insert_self _ _

theorem Mirrors.taken_passed_insert (mirrors : Mirrors suite config granted memory chain)
    (begun : memory.first.index.toNat ≤ counter.toNat) :
    ∀ past ∈ insert counter.toNat memory.taken,
      memory.first.index.toNat ≤ past ∧ past < max memory.next (counter.toNat + 1) := by
  intro past member
  rcases Finset.mem_insert.mp member with rfl | old
  · omega
  · have bounds := mirrors.taken_passed past old
    omega

/-- A chain that gives a key that it kept. -/
theorem Mirrors.gives_cached (mirrors : Mirrors suite config granted memory chain)
    (behind : counter < chain.chainKey.index) (found : chain.cached? counter = some keys) :
    Mirrors suite config (granted ++ [counter]) (memory.remember config counter.toNat)
      (chain.uncache counter) := by
  have gives : chain.Granted suite config counter keys (chain.uncache counter) :=
    .cached behind found
  obtain ⟨_, begun, follows⟩ := mirrors.follows.granted gives
  have next_eq := mirrors.next_eq
  have behindNat := UInt32.lt_iff_toNat_lt.mp behind
  have next_same : max memory.next (counter.toNat + 1) = memory.next := by omega
  have sub : (chain.uncache counter).skipped.Sublist chain.skipped := List.eraseP_sublist
  have taken_passed := mirrors.taken_passed_insert begun
  rw [next_same] at taken_passed
  rw [Memory.remember_of_accepts (mirrors.accepts_of_granted gives), next_same]
  constructor
  case follows => exact follows
  case next_eq => exact next_eq
  case granted_taken => exact mirrors.granted_taken_insert counter
  case taken_passed => exact taken_passed
  case cached_untaken =>
    intro other isOther taken
    rcases Finset.mem_insert.mp taken with same | old
    · exact counter_ne_of_mem_eraseP mirrors.follows.ordered.increasing isOther
        (UInt32.toNat_inj.mp same)
    · exact mirrors.cached_untaken other (sub.subset isOther) old
  case evicted_before =>
    intro past evicted other isOther
    exact mirrors.evicted_before past (evicted_of_cached evicted) other (sub.subset isOther)
  case last_granted =>
    refine mirrors.last_granted.imp_right ?_
    rintro ⟨past, member, same⟩
    exact ⟨past, List.mem_append_left _ member, same⟩

/-- A chain that moves ahead to the counter. -/
theorem Mirrors.gives_ahead (mirrors : Mirrors suite config granted memory chain)
    (counter_eq : counter.toNat = chain.chainKey.index.toNat + count)
    (notLast : counter ≠ 0xffffffff) (near : count ≤ config.maxForwardJumps.toNat) :
    Mirrors suite config (granted ++ [counter]) (memory.remember config counter.toNat)
      { chain.cacheAll config (chain.chainKey.passed suite count) with
        chainKey := chain.chainKey.later suite (count + 1) } := by
  have gives : chain.Granted suite config counter _ _ := .ahead count counter_eq notLast near rfl
  obtain ⟨_, begun, follows⟩ := mirrors.follows.granted gives
  have next_eq := mirrors.next_eq
  have counterBound := ne_last_iff.mp notLast
  have next_same : max memory.next (counter.toNat + 1) = counter.toNat + 1 := by omega
  have index_eq : (chain.chainKey.later suite (count + 1)).index.toNat = counter.toNat + 1 := by
    rw [ChainKey.toNat_index_later (by omega)]
    omega
  have taken_passed := mirrors.taken_passed_insert begun
  rw [next_same] at taken_passed
  rw [Memory.remember_of_accepts (mirrors.accepts_of_granted gives), next_same]
  constructor
  case follows => exact follows
  case next_eq => exact index_eq.symm
  case granted_taken => exact mirrors.granted_taken_insert counter
  case taken_passed => exact taken_passed
  case cached_untaken =>
    intro other isOther taken
    obtain ⟨_, below, untaken⟩ := mirrors.untaken_of_waiting (by omega)
      ((skipped_cacheAll_sublist config _ chain).subset isOther)
    rcases Finset.mem_insert.mp taken with same | isOld
    · omega
    · exact untaken isOld
  case evicted_before =>
    exact fun past evicted => mirrors.evicted_before_of_ahead (by omega) counter_eq evicted
  case last_granted => exact .inr ⟨counter, List.mem_append_right _ (List.mem_singleton.mpr rfl), rfl⟩

/-- A chain and its memory that both give keys still have everything in common. -/
theorem Mirrors.gives (mirrors : Mirrors suite config granted memory chain)
    (gives : chain.Granted suite config counter keys new) :
    Mirrors suite config (granted ++ [counter]) (memory.remember config counter.toNat) new := by
  cases gives with
  | cached behind found => exact mirrors.gives_cached behind found
  | ahead count counter_eq notLast near _ => exact mirrors.gives_ahead counter_eq notLast near

/-- A counter that a chain has spent changes nothing that it has in common with its memory, even if
the memory accepts it. -/
theorem Mirrors.refuses (mirrors : Mirrors suite config granted memory chain)
    (spent : chain.Spent counter) :
    Mirrors suite config granted (memory.remember config counter.toNat) chain := by
  by_cases accepts : memory.Accepts config counter.toNat
  · have begun : memory.first.index.toNat ≤ counter.toNat :=
      Nat.le_of_not_lt fun before => accepts.1 (.inl before)
    have behind := UInt32.lt_iff_toNat_lt.mp spent.behind
    have next_eq := mirrors.next_eq
    have next_same : max memory.next (counter.toNat + 1) = memory.next := by omega
    rw [Memory.remember_of_accepts accepts, next_same]
    refine ⟨mirrors.follows, next_eq, ?_, ?_, ?_, mirrors.evicted_before, mirrors.last_granted⟩
    · exact fun past member => Finset.mem_insert_of_mem (mirrors.granted_taken past member)
    · intro past member
      rcases Finset.mem_insert.mp member with rfl | old
      · exact ⟨begun, by dsimp only; omega⟩
      · exact mirrors.taken_passed past old
    · intro other isOther taken
      rcases Finset.mem_insert.mp taken with same | old
      · exact cached?_eq_none.mp spent.uncached other isOther (UInt32.toNat_inj.mp same)
      · exact mirrors.cached_untaken other isOther old
  · rw [Memory.remember_of_refused accepts]
    exact mirrors

/-- A chain gives up nothing while its memory has no more keys than it may keep. -/
theorem Mirrors.keeps_all (mirrors : Mirrors suite config granted memory chain)
    (gives : chain.Granted suite config counter keys new)
    (keepsAll : ∀ past, ¬chain.Evicted memory.first granted past)
    (fits : (memory.remember config counter.toNat).outstanding.card ≤ config.maxMessageKeys) :
    ∀ past, ¬new.Evicted memory.first (granted ++ [counter]) past := by
  intro past evicted
  have accepts := mirrors.accepts_of_granted gives
  cases gives with
  | cached behind found => exact keepsAll past (evicted_of_cached evicted)
  | ahead count counter_eq notLast =>
      have counterBound := ne_last_iff.mp notLast
      have short := (mirrors.length_waiting_le (by omega) counter_eq accepts).trans fits
      rcases evicted_of_ahead (by omega) counter_eq evicted with before | ⟨keys, member, same⟩
      · exact keepsAll past before
      · refine cached?_eq_none.mp evicted.spent.uncached keys ?_ same
        dsimp only
        rw [skipped_cacheAll config _ mirrors.follows.short, newest_of_length_le short]
        exact member

/-- A chain that has given up nothing keeps exactly what it has passed and not given. -/
theorem Mirrors.cached_iff (mirrors : Mirrors suite config granted memory chain)
    (keepsAll : ∀ past, ¬chain.Evicted memory.first granted past) (counter : UInt32) :
    (∃ keys ∈ chain.skipped, keys.counter = counter) ↔
      memory.first.index.toNat ≤ counter.toNat ∧ counter.toNat < memory.next ∧
        counter ∉ granted := by
  constructor
  · rintro ⟨keys, member, rfl⟩
    refine ⟨(mirrors.follows.skipped_eq keys member).1, ?_, fun isGranted => ?_⟩
    · rw [mirrors.next_eq]
      exact UInt32.lt_iff_toNat_lt.mp (mirrors.follows.ordered.behind keys member)
    · exact mirrors.cached_untaken keys member (mirrors.granted_taken _ isGranted)
  · rintro ⟨begun, passed, notGranted⟩
    by_contra uncached
    rw [mirrors.next_eq, ← UInt32.lt_iff_toNat_lt] at passed
    refine keepsAll counter ⟨begun, notGranted, passed, cached?_eq_none.mpr ?_⟩
    exact fun keys member same => uncached ⟨keys, member, same⟩

/-- The highest counter that was given tells how far a memory is. -/
theorem Mirrors.next_le {otherGranted : List UInt32} {otherMemory : Memory} {other : ReceiverChain}
    (mirrors : Mirrors suite config granted memory chain)
    (otherMirrors : Mirrors suite config otherGranted otherMemory other)
    (sameFirst : memory.first = otherMemory.first)
    (included : ∀ counter ∈ granted, counter ∈ otherGranted) : memory.next ≤ otherMemory.next := by
  have begun := otherMirrors.follows.begun
  have next_eq := otherMirrors.next_eq
  rcases mirrors.last_granted with start | ⟨counter, isGranted, last⟩
  · rw [start, sameFirst]
    omega
  · have taken := otherMirrors.granted_taken counter (included counter isGranted)
    have passed := (otherMirrors.taken_passed _ taken).2
    omega

/-- Chains of one first chain key that have given up nothing are the same where they have given the
same. -/
theorem Mirrors.ext {otherGranted : List UInt32} {otherMemory : Memory} {other : ReceiverChain}
    (mirrors : Mirrors suite config granted memory chain)
    (otherMirrors : Mirrors suite config otherGranted otherMemory other)
    (sameFirst : memory.first = otherMemory.first) (sameKey : chain.ratchetKey = other.ratchetKey)
    (keepsAll : ∀ past, ¬chain.Evicted memory.first granted past)
    (otherKeepsAll : ∀ past, ¬other.Evicted otherMemory.first otherGranted past)
    (sameGranted : ∀ counter, counter ∈ granted ↔ counter ∈ otherGranted) : chain = other := by
  have sameNext : memory.next = otherMemory.next := Nat.le_antisymm
    (mirrors.next_le otherMirrors sameFirst fun counter => (sameGranted counter).mp)
    (otherMirrors.next_le mirrors sameFirst.symm fun counter => (sameGranted counter).mpr)
  have sameIndex : chain.chainKey.index = other.chainKey.index := by
    apply UInt32.toNat_inj.mp
    rw [← mirrors.next_eq, ← otherMirrors.next_eq, sameNext]
  refine mirrors.follows.ext (sameFirst ▸ otherMirrors.follows) sameKey sameIndex fun counter => ?_
  rw [mirrors.cached_iff keepsAll, otherMirrors.cached_iff otherKeepsAll, sameFirst, sameNext,
    sameGranted]

/-- A counter that a chain has passed and not given up was given just when its memory says so. -/
theorem Mirrors.granted_iff (mirrors : Mirrors suite config granted memory chain)
    (keepsAll : ∀ past, ¬chain.Evicted memory.first granted past) (counter : UInt32) :
    counter ∈ granted ↔ counter.toNat ∈ memory.taken := by
  constructor
  · exact mirrors.granted_taken counter
  · intro taken
    by_contra notGranted
    obtain ⟨begun, passed⟩ := mirrors.taken_passed _ taken
    rw [mirrors.next_eq, ← UInt32.lt_iff_toNat_lt] at passed
    refine keepsAll counter ⟨begun, notGranted, passed, cached?_eq_none.mpr ?_⟩
    rintro keys member rfl
    exact mirrors.cached_untaken keys member taken

end Mirrored

/-! ## Runs of requests -/

section Runs

variable {suite : Suite} {config : Config} {key : PublicKey} {first : ChainKey}
  {start : SessionState}

/-- A chain and its memory that are asked for the same counters have everything in common, and while
the memory fits the chain gives up nothing. -/
theorem mirrors_afterEach (suite : Suite) (config : Config)
    (found : start.receiverChain? key = some { ratchetKey := key, chainKey := first })
    (random : Randomness) (asked : List UInt32) (below : 0xffffffff ∉ asked) :
    ∃ chain : ReceiverChain, chain.ratchetKey = key ∧
      Step.afterEach (SessionState.keysFor suite config key) random asked start =
        start.withChain chain ∧
      Mirrors suite config (Step.granted (SessionState.keysFor suite config key) random asked start)
        ((Memory.blank first).after config asked) chain ∧
      ((Memory.blank first).Fits config asked → ∀ past, ¬chain.Evicted first
        (Step.granted (SessionState.keysFor suite config key) random asked start) past) := by
  induction asked using List.reverseRecOn with
  | nil =>
      refine ⟨_, rfl, (SessionState.withChain_of_found found).symm, .blank suite config first key,
        fun _ past evicted => ?_⟩
      have behind : past < first.index := evicted.spent.behind
      rw [UInt32.lt_iff_toNat_lt] at behind
      exact Nat.not_le_of_lt behind evicted.begun
  | append_singleton asked counter ih =>
      have earlierBelow : 0xffffffff ∉ asked := fun last => below (List.mem_append_left _ last)
      obtain ⟨chain, chain_key, state_eq, mirrors, keepsAll⟩ := ih earlierBelow
      have notLast : counter ≠ 0xffffffff := by
        rintro rfl
        exact below (List.mem_append_right _ (List.mem_singleton.mpr rfl))
      have first_eq : ((Memory.blank first).after config asked).first = first :=
        Memory.first_after asked _
      have isFound : (start.withChain chain).receiverChain? key = some chain :=
        SessionState.found_withChain found chain_key
      rw [Step.afterEach_append, Memory.after_append]
      rw [← state_eq] at isFound
      rcases SessionState.keysFor_cases isFound suite config notLast random with
        ⟨keys, new, gives, given⟩ | ⟨spent, refused⟩ | ⟨notBehind, far, refused⟩
      · rw [Step.granted_append_of_ok given, given, state_eq]
        refine ⟨new, gives.ratchetKey_eq.trans chain_key,
          SessionState.withChain_withChain gives.ratchetKey_eq.symm, mirrors.gives gives,
          fun fits => ?_⟩
        have fitsNow := fits _ (List.prefix_refl _)
        rw [Memory.after_append] at fitsNow
        have keepsAllNow := keepsAll fits.earlier
        rw [← first_eq] at keepsAllNow ⊢
        exact mirrors.keeps_all gives keepsAllNow fitsNow
      · rw [Step.granted_append_of_error refused, refused]
        exact ⟨chain, chain_key, state_eq, mirrors.refuses spent, fun fits => keepsAll fits.earlier⟩
      · have refuses := mirrors.not_accepts_of_far notBehind far
        rw [Step.granted_append_of_error refused, refused, Memory.remember_of_refused refuses]
        exact ⟨chain, chain_key, state_eq, mirrors, fun fits => keepsAll fits.earlier⟩

/-- What a chain answers where it stands beside its memory. -/
theorem Mirrors.answers {granted : List UInt32} {memory : Memory} {chain : ReceiverChain}
    {state : SessionState} {counter : UInt32}
    (mirrors : Mirrors suite config granted memory chain)
    (found : state.receiverChain? key = some chain) (notLast : counter ≠ 0xffffffff)
    (random : Randomness) :
    (chain.Evicted memory.first granted counter →
      SessionState.keysFor suite config key counter state random =
        ⟨.error (.refused (.duplicateMessage chain.chainKey.index counter)), state, random⟩) ∧
    (¬chain.Evicted memory.first granted counter →
      (SessionState.keysFor suite config key counter state random).result =
        memory.answer suite config counter) ∧
    ∀ failure, (SessionState.keysFor suite config key counter state random).result =
      .error failure → (SessionState.keysFor suite config key counter state random).state = state := by
  refine ⟨fun evicted => SessionState.keysFor_of_spent found evicted.spent random, ?_⟩
  rcases SessionState.keysFor_cases found suite config notLast random with
    ⟨keys, new, gives, given⟩ | ⟨spent, refused⟩ | ⟨notBehind, far, refused⟩
  · rw [given, Memory.answer_of_accepts (mirrors.accepts_of_granted gives)]
    exact ⟨fun _ => congrArg Except.ok (mirrors.follows.granted gives).1, nofun⟩
  · rw [refused]
    refine ⟨fun kept => ?_, fun _ _ => rfl⟩
    rw [Memory.answer_of_consumed (mirrors.consumed_of_spent spent kept), mirrors.next_eq,
      UInt32.ofNat_toNat]
  · rw [refused, Memory.answer_of_far (mirrors.not_consumed_of_far notBehind)
      (mirrors.far_of_far notBehind far)]
    exact ⟨fun _ => rfl, fun _ _ => rfl⟩

/-! ## The main statement -/

/-- A chain that begins with nothing kept answers every request as its memory does, but calls a message
whose keys it gave up a duplicate; what it refuses changes nothing. It gives up the oldest keys first.
While its memory has no more keys than the chain may keep, it gives up nothing, and what it is then
depends on what was accepted and not on the order. -/
theorem lookup_refines_memory (suite : Suite) (config : Config)
    (found : start.receiverChain? key = some { ratchetKey := key, chainKey := first })
    (random : Randomness) (asked : List UInt32) (below : 0xffffffff ∉ asked) :
    let request := SessionState.keysFor suite config key
    let state := Step.afterEach request random asked start
    let granted := Step.granted request random asked start
    let memory := (Memory.blank first).after config asked
    ∃ chain : ReceiverChain, state.receiverChain? key = some chain ∧
      chain.skipped.length ≤ config.maxMessageKeys ∧
      (∀ counter, counter ≠ 0xffffffff →
        (chain.Evicted first granted counter → request counter state random =
          ⟨.error (.refused (.duplicateMessage chain.chainKey.index counter)), state, random⟩) ∧
        (¬chain.Evicted first granted counter →
          (request counter state random).result = memory.answer suite config counter) ∧
        ∀ failure, (request counter state random).result = .error failure →
          (request counter state random).state = state) ∧
      (∀ counter, chain.Evicted first granted counter →
        ∀ keys ∈ chain.skipped, counter < keys.counter) ∧
      ((Memory.blank first).Fits config asked →
        (∀ counter, ¬chain.Evicted first granted counter) ∧
        (∀ counter, counter ∈ granted ↔ counter.toNat ∈ memory.taken) ∧
        ∀ other, 0xffffffff ∉ other → (Memory.blank first).Fits config other →
          (∀ counter, counter ∈ Step.granted request random other start ↔ counter ∈ granted) →
          Step.afterEach request random other start = state) := by
  intro request state granted memory
  obtain ⟨chain, chain_key, state_eq, mirrors, keepsAll⟩ :=
    mirrors_afterEach suite config found random asked below
  have first_eq : memory.first = first := Memory.first_after asked _
  have isFound : state.receiverChain? key = some chain := by
    change (Step.afterEach (SessionState.keysFor suite config key) random asked start).receiverChain?
      key = some chain
    rw [state_eq]
    exact SessionState.found_withChain found chain_key
  refine ⟨chain, isFound, mirrors.follows.short, fun counter notLast => ?_, fun counter evicted => ?_,
    fun fits => ⟨keepsAll fits, fun counter => ?_, fun other otherBelow otherFits sameGranted => ?_⟩⟩
  · rw [← first_eq]
    exact mirrors.answers isFound notLast random
  · rw [← first_eq] at evicted
    exact mirrors.evicted_before counter evicted
  · have keepsAllNow := keepsAll fits
    rw [← first_eq] at keepsAllNow
    exact mirrors.granted_iff keepsAllNow counter
  · obtain ⟨otherChain, other_key, otherState_eq, otherMirrors, otherKeepsAll⟩ :=
      mirrors_afterEach suite config found random other otherBelow
    have otherFirst_eq : ((Memory.blank first).after config other).first = first :=
      Memory.first_after other _
    have sameChain : otherChain = chain := by
      apply otherMirrors.ext mirrors (otherFirst_eq.trans first_eq.symm)
        (other_key.trans chain_key.symm) _ _ sameGranted
      · rw [otherFirst_eq]
        exact otherKeepsAll otherFits
      · rw [first_eq]
        exact keepsAll fits
    exact otherState_eq.trans ((congrArg start.withChain sameChain).trans state_eq.symm)

end Runs

/-- A session that has received nothing yet on its only chain. -/
def SessionState.hearing : SessionState :=
  { receiverChains := [{ ratchetKey := (KeyPair.additive 3).publicKey
                         chainKey := { key := Suite.summed 32 [5], index := 0 } }] }

/-- Requests to the session for the keys of its chain. -/
def hearingRequest : UInt32 → Step SessionState MessageKeys :=
  SessionState.keysFor Suite.additive .tight (KeyPair.additive 3).publicKey

/-- Three messages in two orders leave the same behind; five in one jump cost the oldest keys. -/
theorem orders_meet :
    Step.afterEach hearingRequest (.repeated 0) [1, 2, 0] .hearing =
        Step.afterEach hearingRequest (.repeated 0) [2, 0, 1] .hearing ∧
      (hearingRequest 0 (Step.afterEach hearingRequest (.repeated 0) [4] .hearing)
        (.repeated 0)).result = .error (.refused (.duplicateMessage 5 0)) := by
  have found : SessionState.hearing.receiverChain? (KeyPair.additive 3).publicKey =
      some { ratchetKey := (KeyPair.additive 3).publicKey
             chainKey := { key := Suite.summed 32 [5], index := 0 } } := by rfl
  constructor
  · obtain ⟨_, _, _, _, _, orderless⟩ := lookup_refines_memory Suite.additive .tight found
      (.repeated 0) [2, 0, 1] (by decide)
    have oneOrder : Step.granted hearingRequest (.repeated 0) [1, 2, 0] .hearing = [1, 2, 0] := by
      decide +kernel
    have otherOrder : Step.granted hearingRequest (.repeated 0) [2, 0, 1] .hearing = [2, 0, 1] := by
      decide +kernel
    refine (orderless (by decide +kernel)).2.2 [1, 2, 0] (by decide) (by decide +kernel)
      fun counter => ?_
    change counter ∈ Step.granted hearingRequest _ _ _ ↔ counter ∈ Step.granted hearingRequest _ _ _
    rw [oneOrder, otherOrder]
    exact List.Perm.mem_iff (by decide)
  · obtain ⟨chain, isFound, _, answers, _⟩ := lookup_refines_memory Suite.additive .tight found
      (.repeated 0) [4] (by decide)
    have gone : ((Step.afterEach hearingRequest (.repeated 0) [4] .hearing).receiverChain?
        (KeyPair.additive 3).publicKey).map (fun chain => (chain.chainKey.index, chain.cached? 0)) =
          some (5, none) := by decide +kernel
    have foundAgain : (Step.afterEach hearingRequest (.repeated 0) [4] .hearing).receiverChain?
      (KeyPair.additive 3).publicKey = some chain := isFound
    rw [foundAgain] at gone
    obtain ⟨index_eq, uncached⟩ := Prod.mk.inj (Option.some.inj gone)
    have behind : 0 < chain.chainKey.index := by
      rw [index_eq]
      decide
    have notGranted : (0 : UInt32) ∉ Step.granted hearingRequest (.repeated 0) [4] .hearing := by
      decide +kernel
    have refused := (answers 0 (by decide)).1 ⟨Nat.zero_le _, notGranted, behind, uncached⟩
    rw [index_eq] at refused
    exact congrArg Outcome.result refused

end DoubleRatchet
