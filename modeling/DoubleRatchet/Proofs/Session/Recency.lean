import DoubleRatchet.Proofs.Session.Attempts
import DoubleRatchet.Proofs.Session.Entry
import Mathlib.Data.List.Nodup
import Mathlib.Logic.Function.Basic

/-!
# The order of the archive

The sessions of an address are numbered as they begin, and a history says which of them was the current
one at which time. The record of the address is made of nothing else: the session that was current last
is current, the others follow by how recently each was current, and the oldest ones are cut off.
-/

namespace DoubleRatchet

/-- The state that answered, and the others after it up to the limit. -/
theorem SessionRecord.answered_eq {config : Config} {record : SessionRecord}
    (short : record.archived.length ≤ config.maxArchivedStates) (answer : Answer) :
    record.answered config answer =
      { current := answer.state
        archived := (record.states.eraseIdx answer.index).take config.maxArchivedStates } := by
  unfold answered
  cases answer.index with
  | zero =>
      change _ = { current := answer.state, archived := record.archived.take _ : SessionRecord }
      rw [List.take_of_length_le short]
      rfl
  | succ position => rfl

/-- What one address has been through. -/
structure Sessions where
  count : Nat := 0
  /-- The sessions that were current, the latest first. -/
  history : List Nat := []
  state : Nat → SessionState := fun _ => {}

namespace Sessions

/-- Every session of a history once, where it was current for the last time. -/
def lastTimes : List Nat → List Nat
  | [] => []
  | session :: earlier => session :: (lastTimes earlier).erase session

/-- The sessions by how recently each was the current one. -/
def recent (sessions : Sessions) : List Nat :=
  lastTimes sessions.history

/-- The record of the sessions: the current one, and an archive of limited length. -/
def record (config : Config) (sessions : Sessions) : SessionRecord :=
  match sessions.recent with
  | [] => {}
  | current :: others =>
      { current := sessions.state current
        archived := (others.take config.maxArchivedStates).map sessions.state }

/-- The sessions that the record keeps. -/
def kept (config : Config) (sessions : Sessions) : List Nat :=
  sessions.recent.take (config.maxArchivedStates + 1)

/-- What happens to the sessions of an address. -/
inductive Event where
  | began (state : SessionState)
  | used (session : Nat) (state : SessionState)
  | deleted

/-- A session that begins or is used becomes the current one, and no other one changes. -/
def after (sessions : Sessions) : Event → Sessions
  | .began state =>
      { count := sessions.count + 1
        history := sessions.count :: sessions.history
        state := Function.update sessions.state sessions.count state }
  | .used session state =>
      { sessions with
        history := session :: sessions.history
        state := Function.update sessions.state session state }
  | .deleted => {}

/-! ## The order of the sessions -/

theorem mem_lastTimes {session : Nat} {history : List Nat} :
    session ∈ lastTimes history ↔ session ∈ history := by
  induction history with
  | nil => exact Iff.rfl
  | cons latest earlier ih =>
      rw [lastTimes, List.mem_cons, List.mem_cons]
      by_cases same : session = latest
      · simp [same]
      · rw [List.mem_erase_of_ne same, ih]

theorem nodup_lastTimes (history : List Nat) : (lastTimes history).Nodup := by
  induction history with
  | nil => exact List.nodup_nil
  | cons latest earlier ih => exact List.nodup_cons.mpr ⟨ih.not_mem_erase, ih.erase latest⟩

/-- A session stands before another one if it was current more recently. -/
theorem lastTimes_sorted (history : List Nat) : (lastTimes history).Pairwise fun newer older =>
    history.idxOf newer < history.idxOf older := by
  induction history with
  | nil => exact List.Pairwise.nil
  | cons latest earlier ih =>
      have others : ∀ other ∈ (lastTimes earlier).erase latest, latest ≠ other := by
        rintro other member rfl
        exact (nodup_lastTimes earlier).not_mem_erase member
      rw [lastTimes, List.pairwise_cons]
      constructor
      · intro other member
        rw [List.idxOf_cons_self, List.idxOf_cons_ne _ (others other member)]
        exact Nat.succ_pos _
      · apply (ih.sublist List.erase_sublist).imp_of_mem
        intro newer older newer_mem older_mem before
        rw [List.idxOf_cons_ne _ (others newer newer_mem), List.idxOf_cons_ne _ (others older older_mem)]
        exact Nat.succ_lt_succ before

/-! ## The record of the sessions -/

/-- The sessions are numbered, and each has been part of a handshake. -/
structure Sound (sessions : Sessions) : Prop where
  numbered : ∀ session, session ∈ sessions.history ↔ session < sessions.count
  begun : ∀ session ∈ sessions.history, (sessions.state session).isInitialized = true

theorem sound_none : Sound {} where
  numbered session := by simp
  begun := nofun

variable {config : Config} {sessions : Sessions} {state : SessionState} {session position : Nat}

theorem mem_of_kept (isKept : (sessions.kept config)[position]? = some session) :
    session ∈ sessions.history :=
  mem_lastTimes.mp (List.mem_of_mem_take (List.mem_of_getElem? isKept))

theorem Sound.began (sound : sessions.Sound) (begun : state.isInitialized = true) :
    (sessions.after (.began state)).Sound where
  numbered session := by
    change session ∈ sessions.count :: sessions.history ↔ session < sessions.count + 1
    rw [List.mem_cons, sound.numbered]
    omega
  begun session member := by
    change (Function.update sessions.state sessions.count state session).isInitialized = true
    rcases List.mem_cons.mp member with rfl | earlier
    · rw [Function.update_self]
      exact begun
    · have older := (sound.numbered session).mp earlier
      rw [Function.update_of_ne (Nat.ne_of_lt older)]
      exact sound.begun session earlier

theorem Sound.used (sound : sessions.Sound) (member : session ∈ sessions.history)
    (begun : state.isInitialized = true) : (sessions.after (.used session state)).Sound where
  numbered other := by
    change other ∈ session :: sessions.history ↔ other < sessions.count
    rw [List.mem_cons, ← sound.numbered]
    exact or_iff_right_of_imp fun same => same ▸ member
  begun other listed := by
    change (Function.update sessions.state session state other).isInitialized = true
    by_cases same : other = session
    · rw [same, Function.update_self]
      exact begun
    · rw [Function.update_of_ne same]
      exact sound.begun other ((List.mem_cons.mp listed).resolve_left same)

theorem map_update_of_notMem {numbers : List Nat} (notMem : session ∉ numbers)
    (states : Nat → SessionState) (state : SessionState) :
    numbers.map (Function.update states session state) = numbers.map states := by
  apply List.map_congr_left
  intro number member
  apply Function.update_of_ne
  rintro rfl
  exact notMem member

theorem states_record (nonempty : sessions.recent ≠ []) :
    (sessions.record config).states = (sessions.kept config).map sessions.state := by
  unfold record kept SessionRecord.states
  cases recents : sessions.recent with
  | nil => exact absurd recents nonempty
  | cons current others => rfl

/-- A record without sessions is blank, and any other one has a session that was begun. -/
theorem Sound.fresh_iff (sound : sessions.Sound) :
    (sessions.record config).isFresh = true ↔ sessions.recent = [] := by
  unfold record SessionRecord.isFresh
  cases recents : sessions.recent with
  | nil => simp [SessionState.isInitialized]
  | cons current others =>
      have member : current ∈ sessions.history := by
        apply mem_lastTimes.mp
        change current ∈ sessions.recent
        rw [recents]
        exact List.mem_cons_self
      simp [sound.begun current member]

/-- The record as one list: the session that is in front of the others, which are cut. -/
theorem record_after_began (sound : sessions.Sound) (state : SessionState) :
    (sessions.after (.began state)).record config =
      { current := state
        archived := (sessions.recent.take config.maxArchivedStates).map sessions.state } := by
  have isNew : sessions.count ∉ sessions.recent := by
    intro member
    exact Nat.lt_irrefl _ ((sound.numbered _).mp (mem_lastTimes.mp member))
  have recents : (sessions.after (.began state)).recent = sessions.count :: sessions.recent := by
    change sessions.count :: sessions.recent.erase sessions.count = _
    rw [List.erase_of_not_mem isNew]
  unfold record
  rw [recents]
  dsimp only [after]
  rw [Function.update_self, map_update_of_notMem (mt List.mem_of_mem_take isNew)]

theorem record_after_used (sessions : Sessions) (session : Nat) (state : SessionState) :
    (sessions.after (.used session state)).record config =
      { current := state
        archived := ((sessions.recent.erase session).take config.maxArchivedStates).map
          sessions.state } := by
  have notMem : session ∉ sessions.recent.erase session :=
    (nodup_lastTimes sessions.history).not_mem_erase
  change { current := Function.update sessions.state session state session
           archived := ((sessions.recent.erase session).take config.maxArchivedStates).map
            (Function.update sessions.state session state) : SessionRecord } = _
  rw [Function.update_self, map_update_of_notMem (mt List.mem_of_mem_take notMem)]

/-- A session that begins is put in front of the record. -/
theorem record_began (sound : sessions.Sound) (state : SessionState) :
    (Session.makeRoom config (sessions.record config)).setCurrent state =
      (sessions.after (.began state)).record config := by
  rw [record_after_began sound]
  unfold Session.makeRoom
  split
  · rename_i fresh
    have blank := sound.fresh_iff.mp fresh
    unfold record
    rw [blank, List.take_nil]
    rfl
  · rename_i notFresh
    have nonempty := mt sound.fresh_iff.mpr notFresh
    change { current := state
             archived := (sessions.record config).states.take config.maxArchivedStates :
              SessionRecord } = _
    rw [states_record nonempty, ← List.map_take, kept, List.take_take,
      Nat.min_eq_left (Nat.le_succ config.maxArchivedStates)]

theorem take_eraseIdx (numbers : List Nat) (limit position : Nat) :
    ((numbers.take (limit + 1)).eraseIdx position).take limit =
      (numbers.eraseIdx position).take limit := by
  apply List.ext_getElem?
  intro index
  simp only [List.getElem?_take, List.getElem?_eraseIdx]
  grind

/-- A session that is used comes to the front of the record, from wherever it was. -/
theorem record_used (isKept : (sessions.kept config)[position]? = some session)
    (state : SessionState) (plaintext : Bytes) :
    (sessions.record config).answered config { index := position, state, plaintext } =
      (sessions.after (.used session state)).record config := by
  have isRecent : sessions.recent[position]? = some session := by
    unfold kept at isKept
    rw [List.getElem?_take] at isKept
    split at isKept
    · exact isKept
    · cases isKept
  obtain ⟨bound, at_position⟩ := List.getElem?_eq_some_iff.mp isRecent
  have nonempty : sessions.recent ≠ [] := List.ne_nil_of_length_pos (Nat.zero_lt_of_lt bound)
  have erased : sessions.recent.erase session = sessions.recent.eraseIdx position := by
    rw [← at_position]
    exact (nodup_lastTimes sessions.history).erase_getElem position bound
  have short : (sessions.record config).archived.length ≤ config.maxArchivedStates := by
    unfold record
    split
    · exact Nat.zero_le _
    · rw [List.length_map]
      exact List.length_take_le _ _
  rw [record_after_used, erased, SessionRecord.answered_eq short, states_record nonempty, List.eraseIdx_map,
    ← List.map_take, kept, take_eraseIdx]

end Sessions
end DoubleRatchet
