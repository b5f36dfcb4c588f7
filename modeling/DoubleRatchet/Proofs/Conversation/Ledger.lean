import DoubleRatchet.Proofs.Session.ReceiverChain

/-!
# What was read on the chains of the other side

A book says for every chain of the other side how far it was read, which skipped messages are still
waited for, and which were given up. It holds no keys: counters and limits decide alone what a chain
gives, and a receiving chain is a log filled in with keys.
-/

namespace DoubleRatchet

/-- What a chain shows without its keys: how far it is, and what is still waited for. -/
def ReceiverChain.outline (chain : ReceiverChain) : PublicKey × Nat × List Nat :=
  (chain.ratchetKey, chain.chainKey.index.toNat, chain.skipped.map fun keys => keys.counter.toNat)

/-! ## One chain -/

structure ChainLog where
  key : PublicKey
  next : Nat := 0
  /-- Skipped messages that can still be read, oldest first. -/
  waiting : List Nat := []
  /-- Skipped messages whose keys had to go for newer ones. -/
  evicted : List Nat := []
  deriving DecidableEq

namespace ChainLog

def read (config : Config) (counter : Nat) (log : ChainLog) : ChainLog :=
  if counter < log.next then { log with waiting := log.waiting.erase counter }
  else
    let skipped := log.waiting ++ List.range' log.next (counter - log.next)
    { log with
      next := counter + 1
      waiting := newest config.maxMessageKeys skipped
      evicted := log.evicted ++ skipped.take (skipped.length - config.maxMessageKeys) }

/-- The message is waited for, or it is ahead and not too far. -/
def Grants (config : Config) (counter : Nat) (log : ChainLog) : Prop :=
  counter < log.next ∧ counter ∈ log.waiting ∨
    log.next ≤ counter ∧ counter ≤ log.next + config.maxForwardJumps.toNat

/-- The message was passed and is not waited for. -/
def Done (counter : Nat) (log : ChainLog) : Prop :=
  counter < log.next ∧ counter ∉ log.waiting

theorem Grants.not_done {config : Config} {counter : Nat} {log : ChainLog}
    (grants : log.Grants config counter) : ¬log.Done counter := by
  intro done
  rcases grants with ⟨_, waits⟩ | ⟨ahead, _⟩
  · exact done.2 waits
  · exact Nat.not_lt_of_le ahead done.1

/-- What is neither granted nor done is too far ahead. -/
theorem far_of_not_grants {config : Config} {counter : Nat} {log : ChainLog}
    (notGrants : ¬log.Grants config counter) (notDone : ¬log.Done counter) :
    log.next + config.maxForwardJumps.toNat < counter := by
  rcases Nat.lt_or_ge counter log.next with behind | ahead
  · by_cases waits : counter ∈ log.waiting
    · exact absurd (.inl ⟨behind, waits⟩) notGrants
    · exact absurd ⟨behind, waits⟩ notDone
  · apply Nat.lt_of_not_le
    intro near
    exact notGrants (.inr ⟨ahead, near⟩)

structure Valid (config : Config) (log : ChainLog) : Prop where
  short : log.waiting.length ≤ config.maxMessageKeys
  behind : ∀ counter ∈ log.waiting, counter < log.next
  distinct : log.waiting.Nodup
  fits : log.next < 0x100000000

variable {config : Config} {log : ChainLog} {counter other : Nat}

theorem valid_from (config : Config) (key : PublicKey) {next : Nat} (fits : next < 0x100000000) :
    ({ key := key, next := next } : ChainLog).Valid config where
  short := Nat.zero_le _
  behind _ member := nomatch member
  distinct := .nil
  fits := fits

/-- A log from some place on grants what is not too far ahead of it. -/
theorem grants_from {config : Config} {key : PublicKey} {next counter : Nat} :
    ({ key := key, next := next } : ChainLog).Grants config counter ↔
      next ≤ counter ∧ counter ≤ next + config.maxForwardJumps.toNat := by
  constructor
  · rintro (⟨_, impossible⟩ | ahead)
    · cases impossible
    · exact ahead
  · exact .inr

theorem valid_new (config : Config) (key : PublicKey) : ({ key := key } : ChainLog).Valid config :=
  valid_from config key (Nat.two_pow_pos 32)

@[simp] theorem key_read : (log.read config counter).key = log.key := by
  unfold read
  split <;> rfl

theorem nodup_skipped (valid : log.Valid config) :
    (log.waiting ++ List.range' log.next (counter - log.next)).Nodup := by
  apply List.nodup_append.mpr
  refine ⟨valid.distinct, List.nodup_range', ?_⟩
  intro waits isWaiting passed isPassed same
  have before := valid.behind waits isWaiting
  have after := (List.mem_range'_1.mp isPassed).1
  omega

theorem Valid.read (valid : log.Valid config) (fits : counter + 1 < 0x100000000) :
    (log.read config counter).Valid config := by
  unfold ChainLog.read
  split
  · exact
      { short := Nat.le_trans (List.length_erase_le) valid.short
        behind := fun waits isWaiting => valid.behind waits (List.mem_of_mem_erase isWaiting)
        distinct := valid.distinct.erase counter
        fits := valid.fits }
  · rename_i ahead
    refine ⟨length_newest_le _ _, ?_, ?_, fits⟩
    · intro waits isWaiting
      rcases List.mem_append.mp ((newest_sublist _ _).subset isWaiting) with old | passed
      · have before := valid.behind waits old
        dsimp only
        omega
      · have bounds := List.mem_range'_1.mp passed
        dsimp only
        omega
    · exact (nodup_skipped valid).sublist (newest_sublist _ _)

theorem done_read (valid : log.Valid config) : (log.read config counter).Done counter := by
  unfold ChainLog.read Done
  split
  · rename_i behind
    exact ⟨behind, fun isWaiting => (List.Nodup.mem_erase_iff valid.distinct).mp isWaiting |>.1 rfl⟩
  · rename_i ahead
    refine ⟨Nat.lt_succ_self counter, fun isWaiting => ?_⟩
    rcases List.mem_append.mp ((newest_sublist _ _).subset isWaiting) with old | passed
    · exact ahead (valid.behind counter old)
    · have bounds := List.mem_range'_1.mp passed
      omega

theorem Done.read (done : log.Done other) : (log.read config counter).Done other := by
  unfold ChainLog.read Done
  split
  · exact ⟨done.1, fun isWaiting => done.2 (List.mem_of_mem_erase isWaiting)⟩
  · rename_i ahead
    have passed : other < log.next := done.1
    refine ⟨by dsimp only; omega, fun isWaiting => ?_⟩
    rcases List.mem_append.mp ((newest_sublist _ _).subset isWaiting) with old | isPassed
    · exact done.2 old
    · have bounds := List.mem_range'_1.mp isPassed
      omega

/-- Whatever is done after a message was read is that message, was done before, or was evicted. -/
theorem done_of_read (done : (log.read config counter).Done other) :
    other = counter ∨ log.Done other ∨ other ∈ (log.read config counter).evicted := by
  unfold ChainLog.read Done at *
  split at done
  · rename_i behind
    rw [if_pos behind]
    by_cases same : other = counter
    · exact .inl same
    · refine .inr (.inl ⟨done.1, fun isWaiting => done.2 ?_⟩)
      exact (List.mem_erase_of_ne same).mpr isWaiting
  · rename_i ahead
    rw [if_neg ahead]
    obtain ⟨passed, gone⟩ := done
    dsimp only at passed gone ⊢
    by_cases same : other = counter
    · exact .inl same
    by_cases skipped : other ∈ log.waiting ++ List.range' log.next (counter - log.next)
    · refine .inr (.inr (List.mem_append_right _ ?_))
      have whole := List.take_append_drop ((log.waiting ++
        List.range' log.next (counter - log.next)).length - config.maxMessageKeys)
        (log.waiting ++ List.range' log.next (counter - log.next))
      rw [← whole] at skipped
      exact (List.mem_append.mp skipped).resolve_right gone
    · refine .inr (.inl ⟨?_, fun isWaiting => skipped (List.mem_append_left _ isWaiting)⟩)
      have notPassed : other ∉ List.range' log.next (counter - log.next) :=
        fun isPassed => skipped (List.mem_append_right _ isPassed)
      rw [List.mem_range'_1] at notPassed
      omega

theorem evicted_read (evicted : other ∈ log.evicted) :
    other ∈ (log.read config counter).evicted := by
  unfold ChainLog.read
  split
  · exact evicted
  · exact List.mem_append_left _ evicted

/-- What is given up for a message does not depend on what was given up before. -/
theorem mem_evicted_read : other ∈ (log.read config counter).evicted ↔
    other ∈ log.evicted ∨ other ∈ ({ log with evicted := [] }.read config counter).evicted := by
  unfold ChainLog.read
  dsimp only
  split
  · simp
  · simp

theorem next_read_le : (log.read config counter).next ≤ max log.next (counter + 1) := by
  unfold ChainLog.read
  split
  · exact Nat.le_max_left _ _
  · exact Nat.le_max_right _ _

theorem next_le_read : log.next ≤ (log.read config counter).next := by
  unfold read
  split
  · exact Nat.le_refl _
  · dsimp only
    omega

/-! ## Filled in with keys -/

section Filled

variable {κ : Type} {counters : List Nat} {keyOf : Nat → κ} {isWanted : κ → Bool}

theorem find?_filled
    (only : ∀ counter ∈ counters, isWanted (keyOf counter) = decide (counter = other)) :
    (counters.map keyOf).find? isWanted = if other ∈ counters then some (keyOf other) else none := by
  induction counters with
  | nil => rfl
  | cons first rest ih =>
      have here := only first List.mem_cons_self
      have later := ih fun counter member => only counter (List.mem_cons_of_mem _ member)
      by_cases same : first = other
      · subst same
        simp [here]
      · simp [here, same, Ne.symm same, later]

theorem eraseP_filled
    (only : ∀ counter ∈ counters, isWanted (keyOf counter) = decide (counter = other)) :
    (counters.map keyOf).eraseP isWanted = (counters.erase other).map keyOf := by
  induction counters with
  | nil => rfl
  | cons first rest ih =>
      have here := only first List.mem_cons_self
      have later := ih fun counter member => only counter (List.mem_cons_of_mem _ member)
      by_cases same : first = other
      · subst same
        simp [here]
      · simp [here, same, later]

end Filled

variable {suite : Suite} {start : ChainKey}

/-- The receiving chain of a log, when its sending chain began with `start`. -/
def realise (suite : Suite) (start : ChainKey) (log : ChainLog) : ReceiverChain :=
  { ratchetKey := log.key
    chainKey := start.later suite log.next
    skipped := log.waiting.map fun counter => (start.later suite counter).messageKeys suite }

/-- What a log says of its chain. -/
def outline (log : ChainLog) : PublicKey × Nat × List Nat :=
  (log.key, log.next, log.waiting)

theorem passed_later (first count : Nat) :
    (start.later suite first).passed suite count =
      (List.range' first count).map fun counter =>
        (start.later suite counter).messageKeys suite := by
  induction count generalizing first with
  | zero => rfl
  | succ count ih =>
      rw [ChainKey.passed, ← ChainKey.later_succ, ih, List.range'_succ, List.map_cons]

theorem cacheAll_realise (valid : log.Valid config) (count : Nat) :
    ({ (log.realise suite start).cacheAll config
          ((start.later suite log.next).passed suite count) with
        chainKey := start.later suite (log.next + count + 1) } : ReceiverChain) =
      (log.read config (log.next + count)).realise suite start := by
  have short : (log.realise suite start).skipped.length ≤ config.maxMessageKeys := by
    simp only [realise, List.length_map]
    exact valid.short
  have ahead : ¬log.next + count < log.next := by omega
  have difference : log.next + count - log.next = count := by omega
  have cached := ReceiverChain.skipped_cacheAll config
    ((start.later suite log.next).passed suite count) short
  rw [passed_later] at cached ⊢
  simp only [read, if_neg ahead, realise, difference, ← newest_map, List.map_append]
  simp only [realise] at cached
  rw [ReceiverChain.mk.injEq]
  exact ⟨ReceiverChain.ratchetKey_cacheAll _ _ _, rfl, cached⟩

section Start

variable (begins : start.index = 0)

include begins

theorem index_later (fits : counter < 0x100000000) :
    (start.later suite counter).index.toNat = counter := by
  have room : start.index.toNat + counter < 0x100000000 := by
    rw [begins]
    exact (Nat.zero_add counter).symm ▸ fits
  rw [ChainKey.toNat_index_later room, begins]
  exact Nat.zero_add counter

theorem counter_later_iff (suite : Suite) (fits : counter < 0x100000000) (wanted : UInt32) :
    ((start.later suite counter).messageKeys suite).counter = wanted ↔
      counter = wanted.toNat := by
  rw [ChainKey.counter_messageKeys, ← UInt32.toNat_inj, index_later begins fits]

theorem outline_realise (valid : log.Valid config) :
    (log.realise suite start).outline = log.outline := by
  have waiting_eq : ((log.realise suite start).skipped.map fun keys => keys.counter.toNat) =
      log.waiting := by
    unfold realise
    rw [List.map_map]
    apply Eq.trans _ (List.map_id log.waiting)
    apply List.map_congr_left
    intro waits isWaiting
    change ((start.later suite waits).messageKeys suite).counter.toNat = waits
    rw [ChainKey.counter_messageKeys]
    exact index_later begins (Nat.lt_trans (valid.behind waits isWaiting) valid.fits)
  unfold ReceiverChain.outline outline
  rw [waiting_eq]
  exact congrArg (fun next => (log.key, next, log.waiting)) (index_later begins valid.fits)

/-- Among the keys of a log, those of a counter are the only ones that carry it. -/
theorem counter_filled (valid : log.Valid config) (suite : Suite) (wanted : UInt32) :
    ∀ waits ∈ log.waiting,
      decide (((start.later suite waits).messageKeys suite).counter = wanted) =
        decide (waits = wanted.toNat) := by
  intro waits isWaiting
  have fits : waits < 0x100000000 := Nat.lt_trans (valid.behind waits isWaiting) valid.fits
  exact decide_eq_decide.mpr (counter_later_iff begins suite fits wanted)

theorem cached?_realise (valid : log.Valid config) (wanted : UInt32) :
    (log.realise suite start).cached? wanted =
      if wanted.toNat ∈ log.waiting then
        some ((start.later suite wanted.toNat).messageKeys suite)
      else none :=
  find?_filled (counter_filled begins valid suite wanted)

theorem uncache_realise (valid : log.Valid config) (taken : UInt32) :
    (log.realise suite start).uncache taken =
      ({ log with waiting := log.waiting.erase taken.toNat } : ChainLog).realise suite start := by
  simp only [ReceiverChain.uncache, realise, ReceiverChain.mk.injEq, true_and]
  exact eraseP_filled (counter_filled begins valid suite taken)

/-- Counters and limits decide what a chain gives, and the chain moves on as its log does. -/
theorem request_realise (valid : log.Valid config) {wanted : UInt32} {keys : MessageKeys}
    {after : ReceiverChain} :
    (log.realise suite start).request suite config wanted = .ok (keys, after) ↔
      wanted ≠ 0xffffffff ∧ log.Grants config wanted.toNat ∧
        keys = (start.later suite wanted.toNat).messageKeys suite ∧
        after = (log.read config wanted.toNat).realise suite start := by
  have index_eq : (log.realise suite start).chainKey.index.toNat = log.next :=
    index_later begins valid.fits
  have isLast : wanted = 0xffffffff ↔ wanted.toNat = 0xffffffff := by
    rw [← UInt32.toNat_inj]
    exact Iff.rfl
  rw [ReceiverChain.request_eq_ok]
  constructor
  · intro granted
    cases granted with
    | cached behind found =>
        rw [UInt32.lt_iff_toNat_lt, index_eq] at behind
        rw [cached?_realise begins valid] at found
        by_cases waits : wanted.toNat ∈ log.waiting
        · rw [if_pos waits] at found
          cases found
          have fits := valid.fits
          refine ⟨by rw [ne_eq, isLast]; omega, .inl ⟨behind, waits⟩, rfl, ?_⟩
          rw [uncache_realise begins valid, read, if_pos behind]
        · rw [if_neg waits] at found
          cases found
    | ahead count counter_eq notLast near keys_eq =>
        rw [index_eq] at counter_eq
        refine ⟨notLast, .inr ⟨by omega, by omega⟩, ?_, ?_⟩
        · rw [keys_eq, counter_eq]
          simp only [realise, ChainKey.later_add]
        · rw [counter_eq, ← cacheAll_realise valid]
          simp only [realise, ChainKey.later_add]
          rfl
  · rintro ⟨notLast, ⟨behind, waits⟩ | ⟨ahead, near⟩, rfl, rfl⟩
    · have found : (log.realise suite start).cached? wanted =
          some ((start.later suite wanted.toNat).messageKeys suite) := by
        rw [cached?_realise begins valid, if_pos waits]
      have isBehind : wanted < (log.realise suite start).chainKey.index := by
        rw [UInt32.lt_iff_toNat_lt, index_eq]
        exact behind
      rw [read, if_pos behind, ← uncache_realise begins valid]
      exact .cached isBehind found
    · obtain ⟨count, counter_eq⟩ := Nat.exists_eq_add_of_le ahead
      rw [counter_eq, ← cacheAll_realise valid]
      have reached : wanted.toNat = (log.realise suite start).chainKey.index.toNat + count := by
        rw [index_eq]
        exact counter_eq
      have granted : (log.realise suite start).Granted suite config wanted
          (((start.later suite log.next).later suite count).messageKeys suite) _ :=
        .ahead count reached notLast (by omega) rfl
      simp only [realise, ChainKey.later_add] at granted ⊢
      exact granted

theorem request_of_far (valid : log.Valid config) {wanted : UInt32}
    (far : log.next + config.maxForwardJumps.toNat < wanted.toNat) :
    (log.realise suite start).request suite config wanted =
      .error (.invalidMessage (.tooFarAhead config.maxForwardJumps)) := by
  have index_eq : (log.realise suite start).chainKey.index.toNat = log.next :=
    index_later begins valid.fits
  have reached : wanted.toNat =
      (log.realise suite start).chainKey.index.toNat + (wanted.toNat - log.next) := by omega
  have notBehind := not_lt_of_ahead reached
  have isFar : config.maxForwardJumps < wanted - (log.realise suite start).chainKey.index := by
    rw [lt_sub_of_ahead reached]
    omega
  simp only [ReceiverChain.request, if_neg notBehind, if_pos isFar]

/-- A message that is done is called a duplicate. -/
theorem Done.spent (valid : log.Valid config) {past : UInt32} (done : log.Done past.toNat) :
    (log.realise suite start).Spent past := by
  constructor
  · rw [UInt32.lt_iff_toNat_lt]
    have index_eq : (log.realise suite start).chainKey.index.toNat = log.next :=
      index_later begins valid.fits
    rw [index_eq]
    exact done.1
  · rw [cached?_realise begins valid, if_neg done.2]

end Start

end ChainLog

/-! ## All chains of the other side -/

/-- The logs of the chains that were ever received on, oldest first. -/
abbrev Book : Type := List ChainLog

namespace Book

def keys (book : Book) : List PublicKey :=
  book.map ChainLog.key

/-- A chain is noted when a message of it is read for the first time. -/
def noting (key : PublicKey) (book : Book) : Book :=
  if key ∈ book.keys then book else book ++ [{ key := key }]

/-- The log of a chain; a chain that was never received on has an empty one. -/
def log (key : PublicKey) (book : Book) : ChainLog :=
  (book.find? fun log => log.key = key).getD { key := key }

/-- The chain is one of the newest, itself counted if it is not noted yet. -/
def Keeps (config : Config) (key : PublicKey) (book : Book) : Prop :=
  key ∈ keys (newest config.maxReceiverChains (book.noting key))

def reading (config : Config) (key : PublicKey) (counter : Nat) (book : Book) : Book :=
  (book.noting key).map fun log => if log.key = key then log.read config counter else log

instance (config : Config) (key : PublicKey) (book : Book) : Decidable (book.Keeps config key) :=
  inferInstanceAs (Decidable (_ ∈ _))

variable {config : Config} {book : Book} {log : ChainLog} {key other : PublicKey} {counter : Nat}

theorem noting_of_mem (noted : key ∈ book.keys) : book.noting key = book := if_pos noted

theorem noting_of_notMem (unseen : key ∉ book.keys) : book.noting key = book ++ [{ key := key }] :=
  if_neg unseen

theorem keeps_of_kept (kept : key ∈ keys (newest config.maxReceiverChains book)) :
    book.Keeps config key := by
  have noted : key ∈ book.keys := ((newest_sublist _ _).map _).subset kept
  unfold Keeps
  rw [noting_of_mem noted]
  exact kept

/-- A chain that is new is the newest one. -/
theorem keeps_of_unseen (unseen : key ∉ book.keys) (room : 0 < config.maxReceiverChains) :
    book.Keeps config key := by
  let new : ChainLog := { key := key }
  have short : (book ++ [new]).length - config.maxReceiverChains ≤ book.length := by
    rw [List.length_append, List.length_singleton]
    omega
  have kept : new ∈ newest config.maxReceiverChains (book ++ [new]) := by
    unfold newest
    rw [List.drop_append_of_le_length short]
    exact List.mem_append_right _ List.mem_cons_self
  unfold Keeps
  rw [noting_of_notMem unseen]
  exact List.mem_map_of_mem kept

theorem mem_keys_noting (key : PublicKey) (book : Book) : key ∈ (book.noting key).keys := by
  unfold noting
  split
  · assumption
  · simp [keys]

theorem keys_noting_subset : (book.noting key).keys ⊆ key :: book.keys := by
  intro noted member
  unfold noting at member
  split at member
  · exact List.mem_cons_of_mem _ member
  · simp only [keys, List.map_append, List.map_cons, List.map_nil, List.mem_append,
      List.mem_singleton] at member
    exact List.mem_cons.mpr member.symm

theorem nodup_keys_noting (key : PublicKey) (distinct : book.keys.Nodup) :
    (book.noting key).keys.Nodup := by
  unfold noting
  split
  · exact distinct
  · rename_i unseen
    rw [keys, List.map_append]
    refine List.nodup_append.mpr ⟨distinct, List.pairwise_singleton _ _, ?_⟩
    intro old isOld new isNew same
    have newKey : new = key := List.mem_singleton.mp isNew
    rw [same, newKey] at isOld
    exact unseen isOld

theorem keys_reading (config : Config) (key : PublicKey) (counter : Nat) (book : Book) :
    (book.reading config key counter).keys = (book.noting key).keys := by
  unfold reading keys
  rw [List.map_map]
  apply List.map_congr_left
  intro log _
  simp only [Function.comp_apply]
  split
  · exact ChainLog.key_read
  · rfl

theorem reading_noting (config : Config) (key : PublicKey) (counter : Nat) (book : Book) :
    (book.noting key).reading config key counter = book.reading config key counter := by
  unfold reading
  rw [noting_of_mem (mem_keys_noting key book)]

theorem key_log (key : PublicKey) (book : Book) : (book.log key).key = key := by
  unfold log
  cases found : book.find? fun log => log.key = key with
  | none => rfl
  | some log => simpa using List.find?_some found

theorem log_of_unseen (unseen : key ∉ book.keys) : book.log key = { key := key } := by
  unfold log
  rw [List.find?_eq_none.mpr]
  · rfl
  · intro log member same
    apply unseen
    rw [← of_decide_eq_true same]
    exact List.mem_map_of_mem member

/-- Only a chain that was received on has messages that are done. -/
theorem noted_of_done (done : (book.log key).Done counter) : key ∈ book.keys := by
  by_cases noted : key ∈ book.keys
  · exact noted
  · rw [log_of_unseen noted] at done
    exact absurd done.1 (Nat.not_lt_zero counter)

theorem log_of_mem (distinct : book.keys.Nodup) (member : log ∈ book) :
    book.log log.key = log := by
  induction book with
  | nil => cases member
  | cons first rest ih =>
      rw [keys, List.map_cons, List.nodup_cons] at distinct
      rcases List.mem_cons.mp member with rfl | later
      · simp [Book.log]
      · have different : first.key ≠ log.key := by
          intro same
          apply distinct.1
          rw [same]
          exact List.mem_map_of_mem later
        simpa [Book.log, different] using ih distinct.2 later

theorem log_mem (noted : key ∈ book.keys) : book.log key ∈ book := by
  unfold log
  obtain ⟨log, member, same⟩ := List.mem_map.mp noted
  cases found : book.find? fun log => log.key = key with
  | none =>
      have different := List.find?_eq_none.mp found log member
      simp [same] at different
  | some log => exact List.mem_of_find?_eq_some found

theorem log_noting (key other : PublicKey) (book : Book) :
    (book.noting key).log other = book.log other := by
  unfold noting
  split
  · rfl
  · rename_i unseen
    by_cases same : other = key
    · rw [same, log_of_unseen unseen]
      have notFound : (book.find? fun log => log.key = key) = none := by
        apply List.find?_eq_none.mpr
        intro log member isKey
        apply unseen
        rw [← of_decide_eq_true isKey]
        exact List.mem_map_of_mem member
      simp [log, List.find?_append, notFound]
    · cases found : book.find? fun log => log.key = other with
      | none => simp [log, List.find?_append, found, Ne.symm same]
      | some log => simp [Book.log, List.find?_append, found]

/-- On a chain that was only noted nothing was read. -/
theorem log_noted (key other : PublicKey) : Book.log key [{ key := other }] = { key := key } := by
  have same := log_noting other key []
  rw [noting_of_notMem List.not_mem_nil] at same
  exact same.trans (log_of_unseen List.not_mem_nil)

theorem log_reading (config : Config) (key other : PublicKey) (counter : Nat) (book : Book) :
    (book.reading config key counter).log other =
      if other = key then (book.log key).read config counter else book.log other := by
  let change (log : ChainLog) : ChainLog := if log.key = key then log.read config counter else log
  have keepsKey (log : ChainLog) : (change log).key = log.key := by
    simp only [change]
    split
    · exact ChainLog.key_read
    · rfl
  have found_eq : ((book.noting key).map change).find? (fun log => log.key = other) =
      ((book.noting key).find? fun log => log.key = other).map change := by
    rw [List.find?_map]
    simp only [Function.comp_def, keepsKey]
  rw [← log_noting key other book, ← log_noting key key book]
  change (((book.noting key).map change).find? fun log => log.key = other).getD { key := other } = _
  rw [found_eq, log, log]
  by_cases same : other = key
  · rw [if_pos same, same]
    obtain ⟨noted, member, isKey⟩ := List.mem_map.mp (mem_keys_noting key book)
    cases found : (book.noting key).find? fun log => log.key = key with
    | none =>
        have different := List.find?_eq_none.mp found noted member
        simp [isKey] at different
    | some log =>
        have logKey : log.key = key := by simpa using List.find?_some found
        simp only [Option.map_some, Option.getD_some, change, if_pos logKey]
  · rw [if_neg same]
    cases found : (book.noting key).find? fun log => log.key = other with
    | none => rfl
    | some log =>
        have logKey : log.key = other := by simpa using List.find?_some found
        have notKey : log.key ≠ key := logKey.symm ▸ same
        simp only [Option.map_some, Option.getD_some, change, if_neg notKey]

/-! ## The chains of a book -/

/-- The receiving chains of a book, when `start` tells how each sending chain began. -/
def realise (suite : Suite) (config : Config) (start : PublicKey → ChainKey) (book : Book) :
    List ReceiverChain :=
  (newest config.maxReceiverChains book).map fun log => log.realise suite (start log.key)

variable {suite : Suite} {start : PublicKey → ChainKey}

theorem realise_nil : realise suite config start [] = [] := by
  simp only [realise, newest, List.drop_nil, List.map_nil]

theorem map_ratchetKey_realise :
    (book.realise suite config start).map ReceiverChain.ratchetKey =
      keys (newest config.maxReceiverChains book) := by
  unfold realise keys
  rw [List.map_map]
  rfl

theorem map_outline_realise (valid : ∀ log ∈ book, log.Valid config)
    (begins : ∀ key ∈ book.keys, (start key).index = 0) :
    (book.realise suite config start).map ReceiverChain.outline =
      (newest config.maxReceiverChains book).map ChainLog.outline := by
  unfold realise
  rw [List.map_map]
  apply List.map_congr_left
  intro log isKept
  have member := (newest_sublist config.maxReceiverChains book).subset isKept
  exact ChainLog.outline_realise (begins log.key (List.mem_map_of_mem member)) (valid log member)

theorem lookup_realise_of_unseen (unseen : key ∉ book.keys) :
    ReceiverChain.lookup key (book.realise suite config start) = none := by
  apply List.find?_eq_none.mpr
  intro chain member isKey
  obtain ⟨log, kept, rfl⟩ := List.mem_map.mp member
  apply unseen
  rw [← of_decide_eq_true isKey]
  exact List.mem_map_of_mem ((newest_sublist _ _).subset kept)

/-- Only a chain that is kept is found. -/
theorem kept_of_lookup_realise {chain : ReceiverChain}
    (found : ReceiverChain.lookup key (book.realise suite config start) = some chain) :
    key ∈ keys (newest config.maxReceiverChains book) := by
  obtain ⟨log, kept, rfl⟩ := List.mem_map.mp (List.mem_of_find?_eq_some found)
  have isKey : log.key = key := ReceiverChain.ratchetKey_of_lookup found
  exact isKey ▸ List.mem_map_of_mem kept

theorem kept_log (distinct : book.keys.Nodup)
    (kept : key ∈ keys (newest config.maxReceiverChains book)) :
    book.log key ∈ newest config.maxReceiverChains book := by
  obtain ⟨log, member, rfl⟩ := List.mem_map.mp kept
  rwa [log_of_mem distinct ((newest_sublist _ _).subset member)]

theorem lookup_realise (distinct : book.keys.Nodup)
    (kept : key ∈ keys (newest config.maxReceiverChains book)) :
    ReceiverChain.lookup key (book.realise suite config start) =
      some ((book.log key).realise suite (start key)) := by
  have chainsDistinct : ((book.realise suite config start).map ReceiverChain.ratchetKey).Nodup := by
    rw [map_ratchetKey_realise]
    exact distinct.sublist ((newest_sublist _ _).map _)
  have member : (book.log key).realise suite (start (book.log key).key) ∈
      book.realise suite config start := List.mem_map_of_mem (kept_log distinct kept)
  have found := ReceiverChain.lookup_of_mem chainsDistinct member
  rwa [key_log, show ((book.log key).realise suite (start key)).ratchetKey = key from
    key_log key book] at found

theorem replace_realise (distinct : book.keys.Nodup) (noted : key ∈ book.keys) :
    ReceiverChain.replace (((book.log key).read config counter).realise suite (start key))
        (book.realise suite config start) =
      (book.reading config key counter).realise suite config start := by
  unfold reading realise
  rw [noting_of_mem noted, newest_map, List.map_map]
  have logs : ∀ log ∈ newest config.maxReceiverChains book, book.log log.key = log :=
    fun log member => log_of_mem distinct ((newest_sublist _ _).subset member)
  have chainsDistinct : ((book.realise suite config start).map ReceiverChain.ratchetKey).Nodup := by
    rw [map_ratchetKey_realise]
    exact distinct.sublist ((newest_sublist _ _).map _)
  have replaced := ReceiverChain.replace_eq_map chainsDistinct
    (((book.log key).read config counter).realise suite (start key))
  have newKey : (((book.log key).read config counter).realise suite (start key)).ratchetKey =
      key := ChainLog.key_read.trans (key_log key book)
  rw [newKey, realise, List.map_map] at replaced
  rw [replaced]
  apply List.map_congr_left
  intro log member
  simp only [Function.comp_apply]
  change (if log.key = key then _ else _) = _
  by_cases same : log.key = key
  · have isLog := logs log member
    rw [same] at isLog
    rw [if_pos same, if_pos same, ChainLog.key_read, isLog, same]
  · rw [if_neg same, if_neg same]

theorem realise_noting (unseen : key ∉ book.keys) :
    newest config.maxReceiverChains
        (book.realise suite config start ++ [{ ratchetKey := key, chainKey := start key }]) =
      (book.noting key).realise suite config start := by
  have new : ({ ratchetKey := key, chainKey := start key } : ReceiverChain) =
      ({ key := key } : ChainLog).realise suite (start key) := rfl
  unfold realise
  rw [noting_of_notMem unseen, new, ← newest_map, newest_newest_append, ← newest_map,
    List.map_append]
  rfl

end Book
end DoubleRatchet
