import DoubleRatchet.Proofs.Conversation.Ledger
import DoubleRatchet.Proofs.Group.State
import DoubleRatchet.Proofs.Message.SenderKey

/-!
# The places of a sender's chain

A sender key is made once, and from then on each message takes the next place of its chain. Whoever
was given the chain at some place has the keys from there on: which ones it still has is what a log
says, and what it gives is decided by places and limits alone.
-/

namespace DoubleRatchet

/-- A sender key, known from the place of its start on. -/
structure Voice where
  keyId : UInt32
  start : SenderChainKey
  signingKey : PublicKey

namespace Voice

variable {suite : Suite} {config : Config} {voice : Voice} {log : ChainLog} {place count : Nat}
  {iteration : UInt32} {secret : Option PrivateKey} {random : Randomness}

def first (voice : Voice) : Nat :=
  voice.start.iteration.toNat

/-- The seeds follow one another as the keys of a chain of message keys do. -/
def seedAt (suite : Suite) (voice : Voice) (place : Nat) : Block 32 :=
  (({ key := voice.start.seed, index := 0 } : ChainKey).later suite (place - voice.first)).key

def chainAt (suite : Suite) (voice : Voice) (place : Nat) : SenderChainKey :=
  { iteration := UInt32.ofNat place, seed := voice.seedAt suite place }

def keyAt (suite : Suite) (voice : Voice) (place : Nat) : SenderMessageKey :=
  (voice.chainAt suite place).messageKey suite

/-- The state of a party with a log; only the sender has the secret half of the signing key. -/
def hearing (suite : Suite) (voice : Voice) (log : ChainLog) (secret : Option PrivateKey) :
    SenderKeyState :=
  { keyId := voice.keyId
    chainKey := voice.chainAt suite log.next
    signingKey := voice.signingKey
    privateSigningKey := secret
    skipped := log.waiting.map (voice.keyAt suite) }

/-- The sender's state when the next message takes a place. -/
def speaking (suite : Suite) (voice : Voice) (place : Nat) (secret : PrivateKey) : SenderKeyState :=
  voice.hearing suite { key := voice.signingKey, next := place } (some secret)

/-- What hands out the chain from a place on. -/
def invitation (suite : Suite) (voice : Voice) (place : Nat) : DistributionMessage :=
  .handing voice.keyId (voice.chainAt suite place) voice.signingKey

theorem chainAt_first (suite : Suite) (voice : Voice) :
    voice.chainAt suite voice.first = voice.start := by
  unfold chainAt seedAt first
  rw [Nat.sub_self, UInt32.ofNat_toNat]
  rfl

theorem toNat_iteration_chainAt (fits : place < 0x100000000) :
    (voice.chainAt suite place).iteration.toNat = place :=
  UInt32.toNat_ofNat_of_lt' fits

theorem iteration_keyAt_eq_iff (fits : place < 0x100000000) :
    (voice.keyAt suite place).iteration = iteration ↔ place = iteration.toNat := by
  change (voice.chainAt suite place).iteration = iteration ↔ _
  rw [← UInt32.toNat_inj, toNat_iteration_chainAt fits]

theorem next_chainAt (since : voice.first ≤ place) (fits : place < 0xffffffff) :
    (voice.chainAt suite place).next suite = .ok (voice.chainAt suite (place + 1)) := by
  have notLast : (voice.chainAt suite place).iteration ≠ 0xffffffff := by
    intro last
    have place_eq : place = 0xffffffff :=
      (toNat_iteration_chainAt (by omega)).symm.trans (congrArg UInt32.toNat last)
    omega
  have offset : place + 1 - voice.first = place - voice.first + 1 := by omega
  have seed_eq : voice.seedAt suite (place + 1) =
      suite.tag (voice.seedAt suite place).bytes SenderChainKey.chainLabel := by
    unfold seedAt
    rw [offset, ChainKey.later_succ]
    rfl
  refine SenderChainKey.next_eq_ok.mpr ⟨notLast, ?_⟩
  unfold chainAt
  rw [seed_eq, UInt32.ofNat_add]
  rfl

/-- Only the last place has none after it. -/
theorem of_next_chainAt {next : SenderChainKey} (since : voice.first ≤ place)
    (fits : place < 0x100000000) (moved : (voice.chainAt suite place).next suite = .ok next) :
    place < 0xffffffff ∧ next = voice.chainAt suite (place + 1) := by
  have reached : (voice.chainAt suite place).iteration.toNat = place := toNat_iteration_chainAt fits
  have after := SenderChainKey.toNat_iteration_of_next moved
  have bound := next.iteration.toNat_lt
  have notLast : place < 0xffffffff := by omega
  rw [next_chainAt since notLast] at moved
  exact ⟨notLast, (Except.ok.inj moved).symm⟩

/-! ## Skipping -/

/-- A state caches the keys of the places that it skips, and of all keys keeps the newest. -/
theorem skip_chainAt {state : SenderKeyState} (since : voice.first ≤ place)
    (short : state.skipped.length ≤ config.maxMessageKeys) (fits : place + count < 0x100000000) :
    SenderKeyState.skip suite config count (voice.chainAt suite place) state random =
      ⟨.ok (voice.chainAt suite (place + count)),
        { state with
          skipped := newest config.maxMessageKeys
            (state.skipped ++ (List.range' place count).map (voice.keyAt suite)) }, random⟩ := by
  induction count generalizing place state with
  | zero =>
      simp only [List.range'_zero, List.map_nil, List.append_nil, newest_of_length_le short]
      rfl
  | succ count ih =>
      have moved : (voice.chainAt suite place).next suite =
          .ok (voice.chainAt suite (place + 1)) := next_chainAt since (by omega)
      have cached : (state.cacheMessageKey config (voice.keyAt suite place)).skipped =
          newest config.maxMessageKeys (state.skipped ++ [voice.keyAt suite place]) := rfl
      have cachedShort :
          (state.cacheMessageKey config (voice.keyAt suite place)).skipped.length ≤
            config.maxMessageKeys := length_newest_le _ _
      have since' : voice.first ≤ place + 1 := by omega
      have fits' : place + 1 + count < 0x100000000 := by omega
      unfold SenderKeyState.skip
      rw [Step.bind_of_ok (Step.modify_run _ _ _), Step.bind_of_ok (by rw [Step.lift_run, moved])]
      refine (ih since' cachedShort fits').trans ?_
      rw [cached, newest_newest_append, List.append_assoc, List.singleton_append,
        List.range'_succ, List.map_cons, Nat.add_right_comm]
      rfl

/-! ## What a state gives -/

/-- The log is one of this voice: it has come at least to the start. -/
structure Tracks (config : Config) (voice : Voice) (log : ChainLog) : Prop where
  valid : log.Valid config
  since : voice.first ≤ log.next

theorem tracks_from (config : Config) (key : PublicKey) (since : voice.first ≤ place)
    (fits : place < 0x100000000) : voice.Tracks config { key := key, next := place } where
  valid := ChainLog.valid_from config key fits
  since := since

theorem Tracks.read (tracks : voice.Tracks config log) (fits : place < 0xffffffff) :
    voice.Tracks config (log.read config place) where
  valid := tracks.valid.read (by omega)
  since := Nat.le_trans tracks.since ChainLog.next_le_read

theorem Tracks.spoken (tracks : voice.Tracks config log) (fits : log.next < 0xffffffff) :
    voice.Tracks config { log with next := log.next + 1 } where
  valid :=
    { short := tracks.valid.short
      behind := fun waits isWaiting => Nat.lt_succ_of_lt (tracks.valid.behind waits isWaiting)
      distinct := tracks.valid.distinct
      fits := Nat.succ_lt_succ fits }
  since := Nat.le_succ_of_le tracks.since

/-- Among the keys of a log, that of an iteration is the only one. -/
theorem iteration_filled (valid : log.Valid config) (suite : Suite) (voice : Voice)
    (wanted : UInt32) :
    ∀ waits ∈ log.waiting,
      decide ((voice.keyAt suite waits).iteration = wanted) = decide (waits = wanted.toNat) := by
  intro waits isWaiting
  have fits : waits < 0x100000000 := Nat.lt_trans (valid.behind waits isWaiting) valid.fits
  exact decide_eq_decide.mpr (iteration_keyAt_eq_iff fits)

theorem lt_iteration_hearing (valid : log.Valid config) (wanted : UInt32) :
    wanted < (voice.hearing suite log secret).chainKey.iteration ↔ wanted.toNat < log.next := by
  have next_eq : (voice.hearing suite log secret).chainKey.iteration.toNat = log.next :=
    toNat_iteration_chainAt valid.fits
  rw [UInt32.lt_iff_toNat_lt, next_eq]

/-- Taking a key out of the cache is no longer waiting for its place. -/
theorem hearing_taken (valid : log.Valid config) (wanted : UInt32) :
    { voice.hearing suite log secret with
      skipped := (voice.hearing suite log secret).skipped.eraseP fun key => key.iteration = wanted } =
      voice.hearing suite { log with waiting := log.waiting.erase wanted.toNat } secret := by
  have left : (voice.hearing suite log secret).skipped.eraseP (fun key => key.iteration = wanted) =
      (log.waiting.erase wanted.toNat).map (voice.keyAt suite) :=
    ChainLog.eraseP_filled (iteration_filled valid suite voice wanted)
  rw [left]
  rfl

/-- A state skips to a place ahead. -/
theorem skip_hearing (tracks : voice.Tracks config log) (ahead : log.next ≤ place)
    (fits : place < 0x100000000) (random : Randomness) :
    SenderKeyState.skip suite config (place - log.next) (voice.hearing suite log secret).chainKey
      (voice.hearing suite log secret) random =
      ⟨.ok (voice.chainAt suite place),
        { voice.hearing suite log secret with
          skipped := (newest config.maxMessageKeys
            (log.waiting ++ List.range' log.next (place - log.next))).map (voice.keyAt suite) },
        random⟩ := by
  have short : (voice.hearing suite log secret).skipped.length ≤ config.maxMessageKeys := by
    simp only [hearing, List.length_map]
    exact tracks.valid.short
  have reached : log.next + (place - log.next) = place := by omega
  have passing : SenderKeyState.skip suite config (place - log.next)
      (voice.hearing suite log secret).chainKey (voice.hearing suite log secret) random = _ :=
    skip_chainAt tracks.since short (by omega)
  rw [passing, reached, ← newest_map, List.map_append]
  rfl

theorem messageKey_of_waiting (tracks : voice.Tracks config log) {wanted : UInt32}
    (behind : wanted.toNat < log.next) (waits : wanted.toNat ∈ log.waiting) (random : Randomness) :
    SenderKeyState.messageKey suite config wanted (voice.hearing suite log secret) random =
      ⟨.ok (voice.keyAt suite wanted.toNat),
        voice.hearing suite { log with waiting := log.waiting.erase wanted.toNat } secret, random⟩ := by
  have found : (voice.hearing suite log secret).skipped.find? (fun key => key.iteration = wanted) =
      some (voice.keyAt suite wanted.toNat) :=
    (ChainLog.find?_filled (iteration_filled tracks.valid suite voice wanted)).trans (if_pos waits)
  have isBehind : wanted < (voice.hearing suite log secret).chainKey.iteration :=
    (lt_iteration_hearing tracks.valid wanted).mpr behind
  rw [SenderKeyState.messageKey_of_cached isBehind found, hearing_taken tracks.valid]

theorem messageKey_of_ahead (tracks : voice.Tracks config log) {wanted : UInt32}
    (notLast : wanted ≠ 0xffffffff) (ahead : log.next ≤ wanted.toNat)
    (near : wanted.toNat ≤ log.next + config.maxForwardJumps.toNat) (random : Randomness) :
    SenderKeyState.messageKey suite config wanted (voice.hearing suite log secret) random =
      ⟨.ok (voice.keyAt suite wanted.toNat),
        voice.hearing suite
          { log with
            next := wanted.toNat + 1
            waiting := newest config.maxMessageKeys
              (log.waiting ++ List.range' log.next (wanted.toNat - log.next)) } secret, random⟩ := by
  have next_eq : (voice.hearing suite log secret).chainKey.iteration.toNat = log.next :=
    toNat_iteration_chainAt tracks.valid.fits
  have reached : wanted.toNat = (voice.hearing suite log secret).chainKey.iteration.toNat +
      (wanted.toNat - log.next) := by omega
  have notFar : ¬config.maxForwardJumps < wanted - (voice.hearing suite log secret).chainKey.iteration := by
    rw [lt_sub_of_ahead reached]
    omega
  have bound := ne_last_iff.mp notLast
  have below := wanted.toNat_lt
  have moved : (voice.chainAt suite wanted.toNat).next suite =
      .ok (voice.chainAt suite (wanted.toNat + 1)) :=
    next_chainAt (Nat.le_trans tracks.since ahead) (by omega)
  unfold SenderKeyState.messageKey
  rw [Step.get_bind, if_neg (not_lt_of_ahead reached), if_neg notFar, toNat_sub_of_ahead reached,
    Step.bind_of_ok (skip_hearing tracks ahead below random),
    Step.bind_of_ok (by rw [Step.lift_run, moved]), Step.bind_of_ok (Step.modify_run _ _ _),
    Step.pure_run]
  rfl

/-- Places and limits decide what a member gives, and its state moves on as its log does. -/
theorem messageKey_hearing (tracks : voice.Tracks config log) {wanted : UInt32}
    (notLast : wanted ≠ 0xffffffff) (grants : log.Grants config wanted.toNat)
    (random : Randomness) :
    SenderKeyState.messageKey suite config wanted (voice.hearing suite log secret) random =
      ⟨.ok (voice.keyAt suite wanted.toNat), voice.hearing suite (log.read config wanted.toNat) secret,
        random⟩ := by
  rcases grants with ⟨behind, waits⟩ | ⟨ahead, near⟩
  · rw [messageKey_of_waiting tracks behind waits, ChainLog.read, if_pos behind]
  · rw [messageKey_of_ahead tracks notLast ahead near, ChainLog.read,
      if_neg (Nat.not_lt_of_le ahead)]
    rfl

/-- However a state gives a key, its log read the place. -/
theorem hearing_of_gives (tracks : voice.Tracks config log) {wanted : UInt32}
    {key : SenderMessageKey} {final : SenderKeyState}
    (gives : SenderKeyState.Gives suite config wanted (voice.hearing suite log secret) key final) :
    wanted.toNat < 0xffffffff ∧
      final = voice.hearing suite (log.read config wanted.toNat) secret := by
  have bound := tracks.valid.fits
  cases gives with
  | cached isBehind _ =>
      have behind := (lt_iteration_hearing tracks.valid wanted).mp isBehind
      rw [ChainLog.read, if_pos behind]
      exact ⟨by omega, hearing_taken tracks.valid wanted⟩
  | @ahead drawn _ reached next _ skipped reached_eq moved _ =>
      have next_eq : (voice.hearing suite log secret).chainKey.iteration.toNat = log.next :=
        toNat_iteration_chainAt bound
      have passed := SenderKeyState.toNat_iteration_of_skip skipped
      rw [reached_eq, next_eq] at passed
      have ahead : log.next ≤ wanted.toNat := by omega
      rw [next_eq, skip_hearing tracks ahead wanted.toNat_lt] at skipped
      cases skipped
      obtain ⟨notLast, rfl⟩ := of_next_chainAt (Nat.le_trans tracks.since ahead) wanted.toNat_lt moved
      rw [ChainLog.read, if_neg (Nat.not_lt_of_le ahead)]
      exact ⟨notLast, rfl⟩

/-- Speaking moves a state past the place without keeping its key. -/
theorem hearing_spoken (tracks : voice.Tracks config log) {next : SenderChainKey}
    (moved : (voice.hearing suite log secret).chainKey.next suite = .ok next) :
    log.next < 0xffffffff ∧ { voice.hearing suite log secret with chainKey := next } =
      voice.hearing suite { log with next := log.next + 1 } secret := by
  obtain ⟨notLast, rfl⟩ := of_next_chainAt tracks.since tracks.valid.fits moved
  exact ⟨notLast, rfl⟩

/-- A place that is done is spent. -/
theorem spent_hearing (valid : log.Valid config) {past : UInt32} (done : log.Done past.toNat) :
    (voice.hearing suite log secret).Spent past := by
  refine ⟨(lt_iteration_hearing valid past).mpr done.1, ?_⟩
  intro key member same
  obtain ⟨waits, isWaiting, rfl⟩ := List.mem_map.mp member
  have fits : waits < 0x100000000 := Nat.lt_trans (valid.behind waits isWaiting) valid.fits
  exact done.2 ((iteration_keyAt_eq_iff fits).mp same ▸ isWaiting)

end Voice
end DoubleRatchet
