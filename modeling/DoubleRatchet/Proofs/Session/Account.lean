import DoubleRatchet.Proofs.Conversation.Ledger
import DoubleRatchet.Proofs.Session.Replay

/-!
# What a state has used up

A chain that calls a counter spent has read it, or has skipped it and given its keys up for newer
ones. The log of a chain, which is the chain without its keys, tells which keys one message costs; so
a list of what was read and what was given up accounts for every counter that a state calls spent.
-/

namespace DoubleRatchet

variable {suite : Suite} {config : Config} {key : PublicKey} {counter : UInt32}

namespace ReceiverChain

variable {keys : MessageKeys} {chain after : ReceiverChain}

/-- How far a chain is and what it still waits for. -/
def log (chain : ReceiverChain) : ChainLog :=
  { key := chain.ratchetKey
    next := chain.chainKey.index.toNat
    waiting := chain.skipped.map fun keys => keys.counter.toNat }

theorem mem_waiting_log : counter.toNat ∈ chain.log.waiting ↔
    ∃ keys ∈ chain.skipped, keys.counter = counter := by
  simp only [log, List.mem_map, UInt32.toNat_inj]

theorem log_realise {start : ChainKey} {log : ChainLog} (begins : start.index = 0)
    (valid : log.Valid config) : (log.realise suite start).log = { log with evicted := [] } := by
  have same := @ChainLog.outline_realise config log suite start begins valid
  simp only [outline, ChainLog.outline, Prod.mk.injEq] at same
  obtain ⟨key_eq, next_eq, waiting_eq⟩ := same
  simp only [ReceiverChain.log, key_eq, next_eq, waiting_eq]

theorem spent_iff_done : chain.Spent counter ↔ chain.log.Done counter.toNat := by
  have behind_iff : counter < chain.chainKey.index ↔ counter.toNat < chain.log.next :=
    UInt32.lt_iff_toNat_lt
  have uncached_iff : chain.cached? counter = none ↔ counter.toNat ∉ chain.log.waiting := by
    rw [cached?_eq_none, mem_waiting_log]
    push Not
    exact Iff.rfl
  constructor
  · intro spent
    exact ⟨behind_iff.mp spent.behind, uncached_iff.mp spent.uncached⟩
  · intro done
    exact ⟨behind_iff.mpr done.1, uncached_iff.mpr done.2⟩

theorem Ordered.valid_log (ordered : chain.Ordered)
    (short : chain.skipped.length ≤ config.maxMessageKeys) : chain.log.Valid config where
  short := by simpa only [log, List.length_map] using short
  behind counter isWaiting := by
    obtain ⟨keys, member, rfl⟩ := List.mem_map.mp isWaiting
    exact UInt32.lt_iff_toNat_lt.mp (ordered.behind keys member)
  distinct := by
    apply List.Pairwise.map _ _ ordered.increasing
    intro left right before
    exact Nat.ne_of_lt (UInt32.lt_iff_toNat_lt.mp before)
  fits := chain.chainKey.index.toNat_lt

theorem waiting_uncache (counter : UInt32) (chain : ReceiverChain) :
    (chain.uncache counter).log.waiting = chain.log.waiting.erase counter.toNat := by
  unfold uncache log
  dsimp only
  induction chain.skipped with
  | nil => rfl
  | cons first rest ih =>
      by_cases same : first.counter = counter
      · simp [same]
      · have different : first.counter.toNat ≠ counter.toNat := mt UInt32.toNat_inj.mp same
        simp [same, different, ih]

theorem waiting_passed {chainKey : ChainKey} {count : Nat}
    (room : chainKey.index.toNat + count < 0x100000000) :
    (chainKey.passed suite count).map (fun keys => keys.counter.toNat) =
      List.range' chainKey.index.toNat count := by
  induction count generalizing chainKey with
  | zero => rfl
  | succ count ih =>
      have step : (chainKey.following suite).index.toNat = chainKey.index.toNat + 1 :=
        ChainKey.toNat_index_following (by omega)
      rw [ChainKey.passed, List.map_cons, ih (by omega), step, List.range'_succ]
      rfl

/-- A chain that gives the keys of a counter moves as its log does. -/
theorem Granted.log_eq (granted : Granted suite config counter chain keys after)
    (short : chain.skipped.length ≤ config.maxMessageKeys) :
    after.log = { chain.log.read config counter.toNat with evicted := [] } := by
  cases granted with
  | cached behind =>
      have isBehind : counter.toNat < chain.log.next := UInt32.lt_iff_toNat_lt.mp behind
      rw [ChainLog.read, if_pos isBehind, ← waiting_uncache]
      rfl
  | ahead count counter_eq notLast =>
      have counterBound := ne_last_iff.mp notLast
      have isAhead : ¬counter.toNat < chain.log.next := by
        change ¬counter.toNat < chain.chainKey.index.toNat
        omega
      have difference : counter.toNat - chain.log.next = count := by
        change counter.toNat - chain.chainKey.index.toNat = count
        omega
      have key_eq := ratchetKey_cacheAll config (chain.chainKey.passed suite count) chain
      have next_eq : (chain.chainKey.later suite (count + 1)).index.toNat = counter.toNat + 1 := by
        rw [ChainKey.toNat_index_later (by omega)]
        omega
      have waiting_eq : (chain.cacheAll config (chain.chainKey.passed suite count)).skipped.map
          (fun keys => keys.counter.toNat) = newest config.maxMessageKeys
            (chain.log.waiting ++ List.range' chain.log.next count) := by
        rw [skipped_cacheAll config _ short, ← newest_map, List.map_append,
          waiting_passed (by omega)]
        rfl
      rw [ChainLog.read, if_neg isAhead, difference]
      simp only [log, key_eq, next_eq, waiting_eq]

theorem Granted.short (granted : Granted suite config counter chain keys after)
    (ordered : chain.Ordered) (short : chain.skipped.length ≤ config.maxMessageKeys) :
    after.skipped.length ≤ config.maxMessageKeys := by
  have valid : (chain.log.read config counter.toNat).Valid config := by
    have notLast : counter ≠ 0xffffffff := by
      cases granted with
      | cached behind =>
          rintro rfl
          have before := UInt32.lt_iff_toNat_lt.mp behind
          have bound := chain.chainKey.index.toNat_lt
          change 0xffffffff < _ at before
          omega
      | ahead _ _ notLast => exact notLast
    have counterBound := ne_last_iff.mp notLast
    exact (ordered.valid_log short).read (by omega)
  have shorter := valid.short
  have waiting_eq := congrArg ChainLog.waiting (granted.log_eq short)
  dsimp only at waiting_eq
  rw [← waiting_eq] at shorter
  simpa only [log, List.length_map] using shorter

/-- What a chain has spent after it gave the keys of a counter is that counter, was spent before, or
was given up for it. -/
theorem Granted.spent_cases {past : UInt32} (granted : Granted suite config counter chain keys after)
    (short : chain.skipped.length ≤ config.maxMessageKeys) (spent : after.Spent past) :
    past = counter ∨ chain.Spent past ∨
      past.toNat ∈ (chain.log.read config counter.toNat).evicted := by
  have done : (chain.log.read config counter.toNat).Done past.toNat := by
    have same := spent_iff_done.mp spent
    rw [granted.log_eq short] at same
    exact same
  rcases ChainLog.done_of_read done with same | before | evicted
  · exact .inl (UInt32.toNat_inj.mp same)
  · exact .inr (.inl (spent_iff_done.mpr before))
  · exact .inr (.inr evicted)

end ReceiverChain

namespace SessionState

variable {state old new : SessionState} {chain : ReceiverChain} {message : SignalMessage}
  {plaintext : Bytes} {random rest : Randomness} {past later : PublicKey → Nat → Prop}

/-- The log of the chain of a ratchet key; a chain that was never received on has an empty one. -/
def log (key : PublicKey) (state : SessionState) : ChainLog :=
  ((state.receiverChain? key).map ReceiverChain.log).getD { key := key }

/-- The skipped messages whose keys go for newer ones when a state reads a message. -/
def evictions (config : Config) (message : SignalMessage) (state : SessionState) : List Nat :=
  ((state.log message.ratchetKey).read config message.counter.toNat).evicted

theorem log_of_found (found : state.receiverChain? key = some chain) : state.log key = chain.log := by
  rw [log, found]
  rfl

theorem log_of_ready {ready : SessionState}
    (isReady : Ready suite config key state random ready rest)
    (found : ready.receiverChain? key = some chain) : state.log key = chain.log := by
  cases isReady with
  | known => exact log_of_found found
  | turned missing turn =>
      have isNew : chain = { ratchetKey := key, chainKey := turn.receiver.chain } :=
        lookup_append_of_missing missing config.maxReceiverChains _ found
      have begins : turn.receiver.chain.index = 0 := RootKey.index_of_step turn.receives
      rw [log, missing, isNew]
      simp only [ReceiverChain.log, begins]
      rfl

/-- Whatever a state calls spent is accounted for. -/
structure Accounted (config : Config) (past : PublicKey → Nat → Prop) (state : SessionState) :
    Prop where
  sound : state.Sound
  short : ∀ chain ∈ state.receiverChains, chain.skipped.length ≤ config.maxMessageKeys
  spent : ∀ chain ∈ state.receiverChains, ∀ counter : UInt32, chain.Spent counter →
    past chain.ratchetKey counter.toNat

theorem accounted_blank : Accounted config past {} := ⟨sound_blank, nofun, nofun⟩

theorem Accounted.mono (accounted : Accounted config past state)
    (extends_past : ∀ key counter, past key counter → later key counter) :
    Accounted config later state :=
  ⟨accounted.sound, accounted.short, fun chain member counter spent =>
    extends_past _ _ (accounted.spent chain member counter spent)⟩

theorem not_spent_new {chainKey : ChainKey} (begins : chainKey.index = 0) :
    ¬({ ratchetKey := key, chainKey := chainKey } : ReceiverChain).Spent counter := by
  intro spent
  have behind := UInt32.lt_iff_toNat_lt.mp spent.behind
  dsimp only at behind
  rw [begins] at behind
  exact absurd behind (Nat.not_lt_zero _)

theorem Accounted.begins (accounted : Accounted config past old) (isBlank : old.rootKey = none)
    (begins : Begins suite config old new) : Accounted config past new := by
  have sound := accounted.sound.begins isBlank begins
  have noChains := accounted.sound.blank isBlank
  cases begins with
  | @initiated _ _ signedPreKey _ _ _ _ established =>
      obtain ⟨secret, sending, _, _, rfl, _⟩ :=
        Handshake.Initiator.establish_eq_ok.mp established
      let first : ReceiverChain :=
        { ratchetKey := signedPreKey
          chainKey := (Handshake.firstStep suite secret old.authKey.key).chain }
      have isFirst {chain : ReceiverChain}
          (member : chain ∈ newest config.maxReceiverChains (old.receiverChains ++ [first])) :
          chain = first := by
        rw [noChains] at member
        exact List.mem_singleton.mp ((newest_sublist _ _).subset member)
      constructor
      · exact sound
      · intro chain member
        rw [isFirst member]
        exact Nat.zero_le _
      · intro chain member counter spent
        rw [isFirst member] at spent
        exact absurd spent (not_spent_new rfl)
  | joined established =>
      obtain ⟨secret, _, rfl, _⟩ := Handshake.Responder.establish_eq_ok.mp established
      exact ⟨sound, accounted.short, accounted.spent⟩

theorem Accounted.sent (accounted : Accounted config past old) {ours theirs : PublicKey}
    {sent : CiphertextMessage}
    (encrypted : encrypt suite config ours theirs plaintext old random = ⟨.ok sent, new, rest⟩) :
    Accounted config past new := by
  have sound := accounted.sound.evolves (.sent encrypted)
  obtain ⟨_, _, _, _, _, _, rfl, _⟩ := encrypt_eq_ok.mp encrypted
  exact ⟨sound, accounted.short, accounted.spent⟩

/-- A turn of the ratchet adds a chain on which nothing is spent. -/
theorem Accounted.ready {ready : SessionState} (accounted : Accounted config past old)
    (isReady : Ready suite config key old random ready rest) : Accounted config past ready := by
  have sound := accounted.sound.ready isReady
  cases isReady with
  | known => exact accounted
  | turned missing turn =>
      have member_cases {chain : ReceiverChain}
          (member : chain ∈ (turn.turned suite config).receiverChains) :
          chain ∈ old.receiverChains ∨
            chain = { ratchetKey := key, chainKey := turn.receiver.chain } := by
        rw [turn.receiverChains_turned] at member
        exact (List.mem_append.mp ((newest_sublist _ _).subset member)).imp_right
          List.mem_singleton.mp
      constructor
      · exact sound
      · intro chain member
        rcases member_cases member with older | rfl
        · exact accounted.short chain older
        · exact Nat.zero_le _
      · intro chain member counter spent
        rcases member_cases member with older | rfl
        · exact accounted.spent chain older counter spent
        · exact absurd spent (not_spent_new (RootKey.index_of_step turn.receives))

/-- What a state has spent after it read a message was accounted for before, is the message, or was
given up for it. -/
theorem Accounted.read (accounted : Accounted config past old)
    (decrypted : decrypt suite config message old random = ⟨.ok plaintext, new, rest⟩)
    (extends_past : ∀ key counter, past key counter → later key counter)
    (isRead : later message.ratchetKey message.counter.toNat)
    (evicted : ∀ counter ∈ old.evictions config message, later message.ratchetKey counter) :
    Accounted config later new := by
  have sound := accounted.sound.evolves (.read decrypted)
  obtain ⟨ready, isReady, decryption, rfl⟩ := decrypt_eq_ok decrypted
  have readied := accounted.ready isReady
  have asked := List.mem_of_find?_eq_some decryption.found
  have granted := ReceiverChain.request_eq_ok.mp decryption.granted
  have short := readied.short _ asked
  have key_eq := ReceiverChain.ratchetKey_of_lookup decryption.found
  constructor
  · exact sound
  · intro chain member
    rcases ReceiverChain.mem_replace member with rfl | older
    · exact granted.short (readied.sound.ordered _ asked) short
    · exact readied.short chain older
  · intro chain member past spent
    rcases ReceiverChain.mem_replace member with rfl | older
    · rw [granted.ratchetKey_eq, key_eq]
      rcases granted.spent_cases short spent with rfl | before | gone
      · exact isRead
      · have known := readied.spent _ asked past before
        rw [key_eq] at known
        exact extends_past _ _ known
      · apply evicted
        rw [evictions, log_of_ready isReady decryption.found]
        exact gone
    · exact extends_past _ _ (readied.spent chain older past spent)

end SessionState
end DoubleRatchet
