import DoubleRatchet.Proofs.Session.Begin
import Mathlib.Data.List.Nodup
import Mathlib.Logic.Function.Basic

/-!
# Records as families of sessions

The base key of the initiator names a session on both sides. So a record is a family of states by base
keys, whatever the order of its states; and what a record does with a session, beginning it or going
on with it, changes the family at one base key.
-/

namespace DoubleRatchet
namespace SessionRecord

variable {config : Config} {family : PublicKey → Option SessionState} {record later : SessionRecord}
  {state : SessionState} {base : PublicKey}

/-- The states of a record are those of a family, which knows each by its base key. A record that no
session was begun on has its blank state. -/
structure Lists (family : PublicKey → Option SessionState) (record : SessionRecord) : Prop where
  named : ∀ base state, family base = some state →
    state.initiatorBaseKey = some base ∧ state.isInitialized = true
  known : record = {} ∨ ∀ state ∈ record.states, ∃ base, family base = some state
  distinct : (record.states.map SessionState.initiatorBaseKey).Nodup

/-- No session of a record is missing in a later one. -/
def KeepsSessions (record later : SessionRecord) : Prop :=
  ∀ state ∈ record.states, state.isInitialized = true →
    ∃ kept ∈ later.states, kept.initiatorBaseKey = state.initiatorBaseKey

theorem lists_blank : Lists (fun _ => none) {} where
  named _ _ found := nomatch found
  known := .inl rfl
  distinct := List.nodup_singleton _

/-- A state of the record is the one that the family has for its base key. -/
theorem Lists.lookup (lists : Lists family record) (member : state ∈ record.states)
    (baseKey_eq : state.initiatorBaseKey = some base) : family base = some state := by
  rcases lists.known with rfl | known
  · cases List.mem_singleton.mp member
    cases baseKey_eq
  · obtain ⟨own, found⟩ := known state member
    have own_eq := (lists.named own state found).1
    rw [baseKey_eq] at own_eq
    cases own_eq
    exact found

theorem Lists.eq_blank_of_fresh (lists : Lists family record) (fresh : record.isFresh = true) :
    record = {} := by
  rcases lists.known with rfl | known
  · rfl
  · obtain ⟨base, found⟩ := known record.current List.mem_cons_self
    have begun := (lists.named base _ found).2
    rw [isFresh, begun] at fresh
    cases fresh

theorem Lists.current_makeRoom (lists : Lists family record) (config : Config) :
    (Session.makeRoom config record).current = {} :=
  Session.current_makeRoom_of_blank config fun fresh => by rw [lists.eq_blank_of_fresh fresh]

/-- A record with a session of the family is one that something was begun on. -/
theorem Lists.isFresh_eq (lists : Lists family record) (found : family base = some state)
    (member : state ∈ record.states) : record.isFresh = false := by
  cases fresh : record.isFresh with
  | false => rfl
  | true =>
      rw [lists.eq_blank_of_fresh fresh] at member
      cases List.mem_singleton.mp member
      cases (lists.named base _ found).2

theorem Lists.named_update (lists : Lists family record)
    (baseKey_eq : state.initiatorBaseKey = some base) (begun : state.isInitialized = true) :
    ∀ other found, Function.update family base (some state) other = some found →
      found.initiatorBaseKey = some other ∧ found.isInitialized = true := by
  intro other found isFound
  by_cases same : other = base
  · rw [same, Function.update_self] at isFound
    cases isFound
    exact ⟨same ▸ baseKey_eq, begun⟩
  · rw [Function.update_of_ne same] at isFound
    exact lists.named other found isFound

theorem Lists.begin (lists : Lists family record) (isNew : family base = none)
    (baseKey_eq : state.initiatorBaseKey = some base) (begun : state.isInitialized = true)
    (config : Config) :
    Lists (Function.update family base (some state))
      ((Session.makeRoom config record).setCurrent state) := by
  have cut := Session.states_makeRoom_cut config record state
  have unlisted (other : SessionState) (member : other ∈ record.states) :
      other.initiatorBaseKey ≠ some base := by
    intro same
    rw [lists.lookup member same] at isNew
    cases isNew
  constructor
  case named => exact lists.named_update baseKey_eq begun
  case known =>
    right
    intro other member
    rcases List.mem_cons.mp (cut.subset member) with rfl | older
    · exact ⟨base, Function.update_self ..⟩
    · split at older
      · rename_i fresh
        rw [lists.eq_blank_of_fresh fresh] at older
        cases older
      · rename_i begunBefore
        rcases lists.known with rfl | known
        · exact absurd rfl begunBefore
        · obtain ⟨own, found⟩ := known other older
          have own_eq := (lists.named own other found).1
          have different : own ≠ base := fun same => unlisted other older (same ▸ own_eq)
          refine ⟨own, ?_⟩
          rw [Function.update_of_ne different]
          exact found
  case distinct =>
    exact Session.nodup_makeRoom lists.distinct (fun other member => baseKey_eq ▸
      unlisted other member) config

/-- A session goes on with a new state, which leads the record. -/
theorem Lists.answered (lists : Lists family record) {answer : Answer}
    (found : record.states[answer.index]? = some state)
    (baseKey_eq : state.initiatorBaseKey = some base)
    (same : answer.state.initiatorBaseKey = some base) (begun : answer.state.isInitialized = true)
    (config : Config) :
    Lists (Function.update family base (some answer.state)) (record.answered config answer) := by
  have cut := states_answered_cut config answer record
  have permuted := perm_cons_eraseIdx found
  have distinct := (permuted.map SessionState.initiatorBaseKey).nodup_iff.mpr lists.distinct
  rw [List.map_cons, List.nodup_cons, baseKey_eq] at distinct
  constructor
  case named => exact lists.named_update same begun
  case known =>
    right
    intro other member
    rcases List.mem_cons.mp (cut.subset member) with rfl | rest
    · exact ⟨base, Function.update_self ..⟩
    · rcases lists.known with rfl | known
      · have blank : state = {} := List.mem_singleton.mp (List.mem_of_getElem? found)
        rw [blank] at baseKey_eq
        cases baseKey_eq
      · obtain ⟨own, isFound⟩ := known other (List.mem_of_mem_eraseIdx rest)
        have own_eq := (lists.named own other isFound).1
        have different : own ≠ base := fun isBase =>
          distinct.1 (List.mem_map.mpr ⟨other, rest, isBase ▸ own_eq⟩)
        refine ⟨own, ?_⟩
        rw [Function.update_of_ne different]
        exact isFound
  case distinct => exact nodup_answered lists.distinct found (same.trans baseKey_eq.symm) config

/-- What a record keeps of its sessions, it keeps in the states that the family has for them. -/
theorem Lists.kept (lists : Lists family record)
    (kept : ∀ base state, family base = some state → state ∈ record.states)
    (later_lists : Lists (Function.update family base (some later.current)) later)
    (keeps : KeepsSessions record later) :
    ∀ other found, Function.update family base (some later.current) other = some found →
      found ∈ later.states := by
  intro other found isFound
  by_cases same : other = base
  · rw [same, Function.update_self] at isFound
    cases isFound
    exact List.mem_cons_self
  · rw [Function.update_of_ne same] at isFound
    obtain ⟨baseKey_eq, begun⟩ := lists.named other found isFound
    obtain ⟨state, member, same_base⟩ := keeps found (kept other found isFound) begun
    have again := later_lists.lookup member (same_base.trans baseKey_eq)
    rw [Function.update_of_ne same, isFound] at again
    cases again
    exact member

end SessionRecord
end DoubleRatchet
