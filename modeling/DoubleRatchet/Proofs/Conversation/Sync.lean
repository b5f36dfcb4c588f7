import DoubleRatchet.Proofs.Conversation.Half
import DoubleRatchet.Proofs.Conversation.Run

/-!
# Two halves in step

The side that drew the last ratchet key is ahead: it has noted every ratchet key of the other side,
and the other side all of its own but the last. One step of the root key leads from the root of the
side behind to the root of the side ahead, and reading under the last ratchet key takes this step and
one more, after which the sides have changed places.
-/

namespace DoubleRatchet

structure Synced (suite : Suite) (config : Config) (identity : Side → PublicKey)
    (halves : Side → Half) (books : Side → Book) (states : Side → SessionState)
    (ahead : Side) : Prop where
  proper : ∀ side, (halves side).Proper suite
  holds : ∀ side, Holds suite config (identity side) (identity side.other) (halves side)
    (halves side.other).start (books side) (states side)
  valid : ∀ side, ∀ log ∈ books side, log.Valid config
  reached : ∀ side, ((books side).log (halves side.other).last.publicKey).next ≤
    (halves side.other).count
  ahead_keys : (books ahead).keys = (halves ahead.other).keys
  behind_keys : (books ahead.other).keys = (halves ahead).earlier.map KeyPair.publicKey
  step_eq : ∃ auth, (halves ahead.other).root.step suite (halves ahead).last.publicKey
    (halves ahead.other).last = .ok
      { root := (halves ahead).root
        chain := (halves ahead).start (halves ahead).last.publicKey
        auth := auth }

namespace Synced

variable {suite : Suite} {config : Config} {identity : Side → PublicKey} {halves : Side → Half}
  {books : Side → Book} {states : Side → SessionState} {ahead side : Side} {key : PublicKey}
  {counter : Nat}

theorem book_keys_sublist
    (synced : Synced suite config identity halves books states ahead) (side : Side) :
    (books side).keys.Sublist (halves side.other).keys := by
  rcases Side.eq_or_eq_other side ahead with rfl | rfl
  · exact synced.ahead_keys ▸ List.Sublist.refl _
  · rw [synced.behind_keys, Side.other_other]
    exact List.sublist_append_left _ _

theorem distinct (synced : Synced suite config identity halves books states ahead) (side : Side) :
    (books side).keys.Nodup :=
  (synced.proper side.other).distinct.sublist (synced.book_keys_sublist side)

theorem valid_log (synced : Synced suite config identity halves books states ahead) (side : Side)
    (key : PublicKey) : ((books side).log key).Valid config := by
  by_cases noted : key ∈ (books side).keys
  · exact synced.valid side _ (Book.log_mem noted)
  · rw [Book.log_of_unseen noted]
    exact ChainLog.valid_new config key

/-- The only ratchet key that a side can meet for the first time is the last one of a side that is
ahead of it. -/
theorem eq_last_of_unseen (synced : Synced suite config identity halves books states ahead)
    (drawn : key ∈ (halves side.other).keys) (unseen : key ∉ (books side).keys) :
    side = ahead.other ∧ key = (halves ahead).last.publicKey := by
  rcases Side.eq_or_eq_other side ahead with rfl | rfl
  · rw [synced.ahead_keys] at unseen
    exact absurd drawn unseen
  · rw [synced.behind_keys] at unseen
    rw [Side.other_other] at drawn
    refine ⟨rfl, ?_⟩
    exact List.mem_singleton.mp ((List.mem_append.mp drawn).resolve_left unseen)

/-! ## Sending -/

theorem sent (synced : Synced suite config identity halves books states ahead) (side : Side)
    (fits : (halves side).count + 1 < 0x100000000) :
    Synced suite config identity (side.update (halves side).sentOne halves) books
      (side.update ((states side).sentOn suite ((halves side).sending suite)) states) ahead := by
  have keys_eq (each : Side) : (side.update (halves side).sentOne halves each).keys =
      (halves each).keys := Side.update_congr Half.keys rfl
  have earlier_eq (each : Side) : (side.update (halves side).sentOne halves each).earlier =
      (halves each).earlier := Side.update_congr Half.earlier rfl
  have last_eq (each : Side) : (side.update (halves side).sentOne halves each).last =
      (halves each).last := Side.update_congr Half.last rfl
  have start_eq (each : Side) : (side.update (halves side).sentOne halves each).start =
      (halves each).start := Side.update_congr Half.start rfl
  have root_eq (each : Side) : (side.update (halves side).sentOne halves each).root =
      (halves each).root := Side.update_congr Half.root rfl
  constructor
  case proper =>
    intro each
    rcases Side.eq_or_eq_other each side with rfl | rfl
    · rw [Side.update_self]
      exact { synced.proper each with fits := fits }
    · rw [Side.update_other]
      exact synced.proper side.other
  case holds =>
    intro each
    rw [start_eq]
    rcases Side.eq_or_eq_other each side with rfl | rfl
    · rw [Side.update_self, Side.update_self]
      exact (synced.holds each).sentOn
    · rw [Side.update_other, Side.update_other]
      exact synced.holds side.other
  case valid => exact synced.valid
  case reached =>
    intro each
    rw [last_eq]
    apply Nat.le_trans (synced.reached each)
    rcases Side.eq_or_eq_other each.other side with same | same
    · rw [same, Side.update_self]
      exact Nat.le_succ _
    · simp only [same, Side.update_other, Nat.le_refl]
  case ahead_keys => rw [keys_eq]; exact synced.ahead_keys
  case behind_keys => rw [earlier_eq]; exact synced.behind_keys
  case step_eq =>
    simp only [root_eq, last_eq, start_eq]
    exact synced.step_eq

/-! ## Reading -/

/-- Reading under a ratchet key that is noted. -/
theorem reading (synced : Synced suite config identity halves books states ahead)
    (noted : key ∈ (books side).keys) (fits : counter + 1 < 0x100000000)
    (isSent : key = (halves side.other).last.publicKey → counter < (halves side.other).count) :
    Synced suite config identity halves
      (side.update ((books side).reading config key counter) books)
      (side.update (Holds.afterReading suite config (halves side.other).start (books side) key
        counter (states side)) states) ahead := by
  have keys_eq (each : Side) :
      (side.update ((books side).reading config key counter) books each).keys =
        (books each).keys := by
    apply Side.update_congr Book.keys
    rw [Book.keys_reading, Book.noting_of_mem noted]
  constructor
  case proper => exact synced.proper
  case holds =>
    intro each
    rcases Side.eq_or_eq_other each side with rfl | rfl
    · rw [Side.update_self, Side.update_self]
      exact (synced.holds each).reading (synced.distinct each) noted
    · rw [Side.update_other, Side.update_other]
      exact synced.holds side.other
  case valid =>
    intro each log member
    rcases Side.eq_or_eq_other each side with rfl | rfl
    · rw [Side.update_self] at member
      unfold Book.reading at member
      rw [Book.noting_of_mem noted] at member
      obtain ⟨old, isOld, rfl⟩ := List.mem_map.mp member
      split
      · exact (synced.valid each old isOld).read fits
      · exact synced.valid each old isOld
    · rw [Side.update_other] at member
      exact synced.valid side.other log member
  case reached =>
    intro each
    rcases Side.eq_or_eq_other each side with rfl | rfl
    · rw [Side.update_self, Book.log_reading]
      have before := synced.reached each
      split
      · rename_i same
        have bound := isSent same.symm
        rw [same] at before
        exact Nat.le_trans ChainLog.next_read_le (Nat.max_le.mpr ⟨before, bound⟩)
      · exact before
    · rw [Side.update_other]
      exact synced.reached side.other
  case ahead_keys => rw [keys_eq]; exact synced.ahead_keys
  case behind_keys => rw [keys_eq]; exact synced.behind_keys
  case step_eq => exact synced.step_eq

theorem last_unseen (synced : Synced suite config identity halves books states ahead) :
    (halves ahead).last.publicKey ∉ (books ahead.other).keys := by
  rw [synced.behind_keys]
  intro member
  have apart := (List.nodup_append.mp (synced.proper ahead).distinct).2.2
  exact apart _ member _ List.mem_cons_self rfl

/-- The side behind finds the chain of the side ahead, and steps on from the root of the side
ahead. -/
theorem receiver_of_turn (synced : Synced suite config identity halves books states ahead)
    {fresh : KeyPair}
    (turn : SessionState.Turn suite (halves ahead).last.publicKey fresh (states ahead.other)) :
    (halves ahead).start (halves ahead).last.publicKey = turn.receiver.chain ∧
      (halves ahead).root.step suite (halves ahead).last.publicKey fresh = .ok turn.sender := by
  have holds := synced.holds ahead.other
  obtain ⟨auth, step_eq⟩ := synced.step_eq
  have hasRoot := turn.hasRoot
  have hasSending := turn.hasSending
  rw [holds.rootKey_eq] at hasRoot
  rw [holds.senderChain_eq] at hasSending
  have receives := turn.receives
  rw [← Option.some.inj hasRoot, ← Option.some.inj hasSending] at receives
  have receiver_eq := Except.ok.inj (receives.symm.trans step_eq)
  have sends := turn.sends
  rw [receiver_eq] at sends
  exact ⟨by rw [receiver_eq], sends⟩

/-- Reading under a ratchet key that the side meets for the first time. The step that the side ahead
took with its last ratchet key is the step that the side behind takes to read under it; the next step,
with the fresh ratchet key, puts the side behind ahead. -/
theorem turned (synced : Synced suite config identity halves books states ahead)
    (bothWays : suite.AgreesBothWays) {fresh : KeyPair} (freshMatches : fresh.Matches suite)
    (isFresh : fresh.publicKey ∉ (halves ahead.other).keys)
    (turn : SessionState.Turn suite (halves ahead).last.publicKey fresh (states ahead.other)) :
    Synced suite config identity
      (ahead.other.update ((halves ahead.other).turned fresh turn.sender) halves)
      (ahead.other.update ((books ahead.other).noting (halves ahead).last.publicKey) books)
      (ahead.other.update (turn.turned suite config) states) ahead.other := by
  have holds := synced.holds ahead.other
  rw [Side.other_other] at holds
  have unseen := synced.last_unseen
  obtain ⟨starts, sends⟩ := synced.receiver_of_turn turn
  constructor
  -- The side that was ahead stays as it is, save that it expects letters under the fresh key.
  case proper =>
    intro each
    rcases Side.eq_or_eq_other each ahead with rfl | rfl
    · rw [Side.other_update_self]
      exact synced.proper each
    · rw [Side.update_self]
      exact (synced.proper ahead.other).turned isFresh freshMatches (RootKey.index_of_step sends)
  case holds =>
    intro each
    rcases Side.eq_or_eq_other each ahead with rfl | rfl
    · rw [Side.other_update_self, Side.other_update_self, Side.other_update_self,
        Side.update_self]
      apply (synced.holds each).start_congr
      intro key noted
      apply Half.start_turned_of_mem _ isFresh
      exact (synced.book_keys_sublist each).subset noted
    · rw [Side.update_self, Side.update_self, Side.update_self, Side.other_other,
        Side.other_update_self]
      exact holds.turned turn unseen starts
  case valid =>
    intro each log member
    rcases Side.eq_or_eq_other each ahead with rfl | rfl
    · rw [Side.other_update_self] at member
      exact synced.valid each log member
    · rw [Side.update_self, Book.noting_of_notMem unseen] at member
      rcases List.mem_append.mp member with old | new
      · exact synced.valid ahead.other log old
      · rw [List.mem_singleton.mp new]
        exact ChainLog.valid_new config _
  case reached =>
    intro each
    rcases Side.eq_or_eq_other each ahead with rfl | rfl
    · rw [Side.other_update_self, Side.update_self]
      have notNoted : fresh.publicKey ∉ (books each).keys := fun noted =>
        isFresh ((synced.book_keys_sublist each).subset noted)
      have unread : ((books each).log fresh.publicKey).next = 0 := by
        rw [Book.log_of_unseen notNoted]
      exact Nat.le_of_eq unread
    · rw [Side.update_self, Side.other_other, Side.other_update_self, Book.log_noting]
      have before := synced.reached ahead.other
      rwa [Side.other_other] at before
  case ahead_keys =>
    -- Only the last key of the side that was ahead was missing, and it is noted now.
    rw [Side.update_self, Side.other_other, Side.other_update_self, Book.noting_of_notMem unseen]
    simp only [Book.keys, List.map_append, List.map_cons, List.map_nil]
    exact congrArg (· ++ [(halves ahead).last.publicKey]) synced.behind_keys
  case behind_keys =>
    -- All keys of the other side were noted, and the fresh one is the only one since.
    rw [Side.other_other, Side.other_update_self, Side.update_self, synced.ahead_keys]
    simp only [Half.keys, Half.turned, List.map_append, List.map_cons, List.map_nil]
  case step_eq =>
    rw [Side.other_other, Side.other_update_self, Side.update_self]
    have begins : ((halves ahead.other).turned fresh turn.sender).start fresh.publicKey =
        turn.sender.chain := Half.start_turned_self
    refine ⟨turn.sender.auth, ?_⟩
    change (halves ahead).root.step suite fresh.publicKey (halves ahead).last = .ok
      { root := turn.sender.root
        chain := ((halves ahead.other).turned fresh turn.sender).start fresh.publicKey
        auth := turn.sender.auth }
    rw [begins, RootKey.step_comm bothWays _ (synced.proper ahead).last_matches freshMatches]
    exact sends

/-! ## Ready for a message -/

section Ready

variable {ready : SessionState} {random rest : Randomness}

theorem ready_cases (synced : Synced suite config identity halves books states ahead)
    (drawn : key ∈ (halves side.other).keys)
    (isReady : SessionState.Ready suite config key (states side) random ready rest)
    (kept : (books side).Keeps config key) :
    (key ∈ (books side).keys ∧ ready = states side) ∨
      (key ∉ (books side).keys ∧ side = ahead.other ∧ key = (halves ahead).last.publicKey ∧
        ∃ turn : SessionState.Turn suite key (KeyPair.generate suite random).1 (states side),
          ready = turn.turned suite config) := by
  have holds := synced.holds side
  by_cases noted : key ∈ (books side).keys
  · refine .inl ⟨noted, ?_⟩
    cases isReady with
    | known => rfl
    | turned missing =>
        unfold Book.Keeps at kept
        rw [Book.noting_of_mem noted] at kept
        rw [holds.receiverChain?_eq (synced.distinct side) kept] at missing
        cases missing
  · refine .inr ⟨noted, ?_⟩
    obtain ⟨behind, isLast⟩ := synced.eq_last_of_unseen drawn noted
    cases isReady with
    | known known =>
        rw [holds.receiverChain?_of_unseen noted] at known
        cases known
    | turned missing turn => exact ⟨behind, isLast, turn, rfl⟩

/-- A state that is ready for a message of the other side has noted its ratchet key. -/
theorem holds_ready (synced : Synced suite config identity halves books states ahead)
    (drawn : key ∈ (halves side.other).keys)
    (isReady : SessionState.Ready suite config key (states side) random ready rest)
    (kept : (books side).Keeps config key) :
    ∃ half, Holds suite config (identity side) (identity side.other) half
      (halves side.other).start ((books side).noting key) ready := by
  have holds := synced.holds side
  rcases synced.ready_cases drawn isReady kept with ⟨noted, rfl⟩ | ⟨unseen, rfl, rfl, turn, rfl⟩
  · rw [Book.noting_of_mem noted]
    exact ⟨_, holds⟩
  · refine ⟨_, holds.turned turn unseen ?_⟩
    rw [Side.other_other]
    exact (synced.receiver_of_turn turn).1

theorem exists_ready (synced : Synced suite config identity halves books states ahead)
    (lawful : suite.Lawful) (drawn : key ∈ (halves side.other).keys)
    (kept : (books side).Keeps config key)
    (room : key ∉ (books side).keys → (halves side).keys.length < 0x80000000) (random : Randomness) :
    ∃ ready rest, SessionState.Ready suite config key (states side) random ready rest := by
  have holds := synced.holds side
  by_cases noted : key ∈ (books side).keys
  · unfold Book.Keeps at kept
    rw [Book.noting_of_mem noted] at kept
    have found := holds.receiverChain?_eq (synced.distinct side) kept
    exact ⟨states side, random, .known (by rw [found]; rfl)⟩
  · obtain ⟨rfl, rfl⟩ := synced.eq_last_of_unseen drawn noted
    obtain ⟨_, receives⟩ := synced.step_eq
    obtain ⟨turn⟩ := holds.exists_turn lawful (synced.proper ahead).last_matches receives
      (room noted) (KeyPair.generate suite random).1
    exact ⟨_, _, .turned (holds.receiverChain?_of_unseen noted) turn⟩

/-- The halves once a side is ready for a message, and who is ahead then: as before, or that side with
one more ratchet key. -/
inductive Readied (suite : Suite) (fresh : KeyPair) (side : Side) (halves : Side → Half)
    (ahead : Side) (noted : Prop) : (Side → Half) → Side → Prop where
  | same (isNoted : noted) : Readied suite fresh side halves ahead noted halves ahead
  | turned (notNoted : ¬noted) (sender : RootStep) : Readied suite fresh side halves ahead noted
      (side.update ((halves side).turned fresh sender) halves) side

/-- What was drawn before is as it was; only what is drawn next may differ. -/
structure Extends (before after : Half) : Prop where
  keys : ∀ key ∈ before.keys, key ∈ after.keys
  start : ∀ key ∈ before.keys, after.start key = before.start key
  last : ∀ key ∈ before.keys, key = after.last.publicKey →
    key = before.last.publicKey ∧ after.count = before.count
  count : after.count ≤ before.count

theorem Extends.refl (half : Half) : Extends half half :=
  ⟨fun _ member => member, fun _ _ => rfl, fun _ _ isLast => ⟨isLast, rfl⟩, Nat.le_refl _⟩

theorem Readied.extends {fresh : KeyPair} {noted : Prop} {next : Side → Half} {nextAhead : Side}
    (readied : Readied suite fresh side halves ahead noted next nextAhead)
    (isFresh : ¬noted → fresh.publicKey ∉ (halves side).keys) (each : Side) :
    Extends (halves each) (next each) := by
  cases readied with
  | same => exact .refl (halves each)
  | turned notNoted sender =>
      have isNew := isFresh notNoted
      rcases Side.eq_or_eq_other each side with rfl | rfl
      · rw [Side.update_self]
        constructor
        · intro key member
          rw [Half.keys_turned]
          exact List.mem_append_left _ member
        · intro key member
          exact Half.start_turned_of_mem member isNew
        · intro key member isLast
          exact absurd (isLast ▸ member) isNew
        · exact Nat.zero_le _
      · rw [Side.update_other]
        exact .refl (halves side.other)

theorem Readied.drawn {fresh : KeyPair} {noted : Prop} [Decidable noted] {next : Side → Half}
    {nextAhead : Side} (readied : Readied suite fresh side halves ahead noted next nextAhead)
    {drawn : Side → List PublicKey}
    (before : ∀ each, drawn each = (halves each).keys) (each : Side) :
    side.update (if noted then drawn side else drawn side ++ [fresh.publicKey]) drawn each =
      (next each).keys := by
  cases readied with
  | same isNoted =>
      rw [if_pos isNoted, Side.update_eq_self]
      exact before each
  | turned notNoted sender =>
      rw [if_neg notNoted]
      rcases Side.eq_or_eq_other each side with rfl | rfl
      · rw [Side.update_self, Side.update_self, Half.keys_turned, before]
      · rw [Side.update_other, Side.update_other]
        exact before side.other

theorem readied (synced : Synced suite config identity halves books states ahead)
    (bothWays : suite.AgreesBothWays) (drawn : key ∈ (halves side.other).keys)
    (isReady : SessionState.Ready suite config key (states side) random ready rest)
    (kept : (books side).Keeps config key)
    (fresh : key ∉ (books side).keys →
      (KeyPair.generate suite random).1.publicKey ∉ (halves side).keys) :
    ∃ next nextAhead,
      Readied suite (KeyPair.generate suite random).1 side halves ahead
        (key ∈ (books side).keys) next nextAhead ∧
      Synced suite config identity next (side.update ((books side).noting key) books)
        (side.update ready states) nextAhead := by
  rcases synced.ready_cases drawn isReady kept with ⟨noted, rfl⟩ | ⟨unseen, rfl, rfl, turn, rfl⟩
  · refine ⟨halves, ahead, .same noted, ?_⟩
    rw [Book.noting_of_mem noted, Side.update_eq_self, Side.update_eq_self]
    exact synced
  · refine ⟨_, _, .turned unseen turn.sender, ?_⟩
    exact synced.turned bothWays (KeyPair.matches_generate suite random) (fresh unseen) turn

/-- Whatever a side reads, it stays in step. -/
theorem read (synced : Synced suite config identity halves books states ahead)
    (bothWays : suite.AgreesBothWays) {message : SignalMessage} {plaintext : Bytes}
    (drawn : message.ratchetKey ∈ (halves side.other).keys)
    (kept : (books side).Keeps config message.ratchetKey)
    (fresh : message.ratchetKey ∉ (books side).keys →
      (KeyPair.generate suite random).1.publicKey ∉ (halves side).keys)
    (fits : message.counter.toNat + 1 < 0x100000000)
    (isSent : message.ratchetKey = (halves side.other).last.publicKey →
      message.counter.toNat < (halves side.other).count)
    (isReady : SessionState.Ready suite config message.ratchetKey (states side) random ready rest)
    (decryption : SessionState.Decryption suite config message plaintext (states side) ready) :
    ((books side).log message.ratchetKey).Grants config message.counter.toNat ∧
      ∃ next nextAhead, Readied suite (KeyPair.generate suite random).1 side halves ahead
        (message.ratchetKey ∈ (books side).keys) next nextAhead ∧
      Synced suite config identity next
        (side.update ((books side).reading config message.ratchetKey message.counter.toNat) books)
        (side.update decryption.opened states) nextAhead := by
  obtain ⟨next, nextAhead, readied, inStep⟩ := synced.readied bothWays drawn isReady kept fresh
  have grown := readied.extends fresh side.other
  have holds := inStep.holds side
  have distinct := inStep.distinct side
  have valid := inStep.valid_log side message.ratchetKey
  have begins := (inStep.proper side.other).begins _ (grown.keys _ drawn)
  simp only [Side.update_self] at holds distinct valid
  obtain ⟨grants, opened_eq⟩ := holds.opened_eq distinct kept begins valid decryption
  rw [Book.log_noting] at grants
  refine ⟨grants, next, nextAhead, readied, ?_⟩
  have noted : message.ratchetKey ∈
      (side.update ((books side).noting message.ratchetKey) books side).keys := by
    rw [Side.update_self]
    exact Book.mem_keys_noting _ _
  have counted : message.ratchetKey = (next side.other).last.publicKey →
      message.counter.toNat < (next side.other).count := by
    intro isLast
    have before := grown.last _ drawn isLast
    rw [before.2]
    exact isSent before.1
  have reading := inStep.reading noted fits counted
  rw [Side.update_self, Side.update_self, Side.update_update, Side.update_update,
    Book.reading_noting, ← opened_eq] at reading
  exact reading

/-! ## What comes of a message -/

variable {message : SignalMessage} {plaintext : Bytes}

/-- A genuine message that the log grants is read. -/
theorem decrypt_of_grants (synced : Synced suite config identity halves books states ahead)
    (lawful : suite.Lawful) (drawn : message.ratchetKey ∈ (halves side.other).keys)
    (kept : (books side).Keeps config message.ratchetKey)
    (room : message.ratchetKey ∉ (books side).keys → (halves side).keys.length < 0x80000000)
    (genuine : Genuine suite config (identity side.other) (identity side)
      (halves side.other).start plaintext message)
    (grants : ((books side).log message.ratchetKey).Grants config message.counter.toNat)
    (random : Randomness) :
    ∃ final rest, SessionState.decrypt suite config message (states side) random =
      ⟨.ok plaintext, final, rest⟩ := by
  obtain ⟨ready, rest, isReady⟩ := synced.exists_ready lawful drawn kept room random
  obtain ⟨half, holds⟩ := synced.holds_ready drawn isReady kept
  have distinct := Book.nodup_keys_noting message.ratchetKey (synced.distinct side)
  have begins := (synced.proper side.other).begins _ drawn
  have valid := synced.valid_log side message.ratchetKey
  rw [← Book.log_noting message.ratchetKey] at valid grants
  have sends : (states side).senderChain.isSome = true := by
    rw [(synced.holds side).senderChain_eq]
    rfl
  exact ⟨_, _, holds.decrypt_of_grants distinct kept begins valid isReady sends
    (synced.holds side).version_eq genuine grants⟩

/-- A message that is done is called a duplicate. -/
theorem decrypt_of_done (synced : Synced suite config identity halves books states ahead)
    (drawn : message.ratchetKey ∈ (halves side.other).keys)
    (kept : (books side).Keeps config message.ratchetKey)
    (version_eq : message.version = Envelope.currentVersion)
    (done : ((books side).log message.ratchetKey).Done message.counter.toNat)
    (random : Randomness) :
    ∃ index, index.toNat = ((books side).log message.ratchetKey).next ∧
      SessionState.decrypt suite config message (states side) random =
        ⟨.error (.refused (.duplicateMessage index message.counter)), states side, random⟩ := by
  have noted := Book.noted_of_done done
  unfold Book.Keeps at kept
  rw [Book.noting_of_mem noted] at kept
  exact (synced.holds side).decrypt_of_done (synced.distinct side) kept
    ((synced.proper side.other).begins _ drawn) (synced.valid_log side message.ratchetKey)
    version_eq done

/-- A message that is neither granted nor done is refused as too far ahead. -/
theorem decrypt_of_far (synced : Synced suite config identity halves books states ahead)
    (lawful : suite.Lawful) (drawn : message.ratchetKey ∈ (halves side.other).keys)
    (kept : (books side).Keeps config message.ratchetKey)
    (room : message.ratchetKey ∉ (books side).keys → (halves side).keys.length < 0x80000000)
    (version_eq : message.version = Envelope.currentVersion)
    (far : ((books side).log message.ratchetKey).next + config.maxForwardJumps.toNat <
      message.counter.toNat)
    (random : Randomness) :
    (SessionState.decrypt suite config message (states side) random).result =
      .error (.invalidMessage (.tooFarAhead config.maxForwardJumps)) := by
  obtain ⟨ready, rest, isReady⟩ := synced.exists_ready lawful drawn kept room random
  obtain ⟨half, holds⟩ := synced.holds_ready drawn isReady kept
  have distinct := Book.nodup_keys_noting message.ratchetKey (synced.distinct side)
  have valid := synced.valid_log side message.ratchetKey
  rw [← Book.log_noting message.ratchetKey] at valid far
  have begins := (synced.proper side.other).begins _ drawn
  have sends : (states side).senderChain.isSome = true := by
    rw [(synced.holds side).senderChain_eq]
    rfl
  exact SessionState.decrypt_of_refused isReady sends
    (version_eq.trans (synced.holds side).version_eq.symm) (holds.receiverChain?_eq distinct kept)
    (ChainLog.request_of_far begins valid far)

end Ready

end Synced
end DoubleRatchet
