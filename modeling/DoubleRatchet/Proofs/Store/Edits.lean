import DoubleRatchet.Proofs.Step
import DoubleRatchet.Proofs.Store.Lookup
import Mathlib.Data.List.Sort

/-!
# Edits of a store

What a session leaves in a store is a list of edits, each about one address or about one one-time
prekey. Edits about different ones come to the same in either order, because a table is settled by its
answers; and none of them reaches the signed prekeys, the sender keys or the party's own identity.
-/

namespace DoubleRatchet
namespace Table

variable {κ α : Type} [Ord κ] [DecidableEq κ]

/-- Keys are in strict order, so a lookup finds whatever entry the table has. -/
theorem find?_eq_some_iff [Std.OrientedOrd κ] {key : κ} {value : α} {table : Table κ α} :
    table.find? key = some value ↔ (key, value) ∈ table.entries := by
  constructor
  · intro found
    obtain ⟨entry, isFound, isValue⟩ := Option.map_eq_some_iff.mp found
    have isKey : entry.1 = key := by simpa using List.find?_some isFound
    have whole : entry = (key, value) := Prod.ext isKey isValue
    exact whole ▸ List.mem_of_find?_eq_some isFound
  · intro member
    obtain ⟨before, after, split⟩ := List.append_of_mem member
    have sorted := table.sorted
    rw [split, List.pairwise_append] at sorted
    have earlier : ∀ entry ∈ before, ¬decide (entry.1 = key) = true := by
      intro entry isBefore same
      have smaller := sorted.2.2 entry isBefore _ List.mem_cons_self
      have equal : compare key key = .eq := Std.ReflCmp.compare_self
      rw [of_decide_eq_true same, equal] at smaller
      cases smaller
    unfold find?
    rw [split, List.find?_append, List.find?_eq_none.mpr earlier]
    simp

/-- Tables that answer alike are the same table. -/
theorem ext_find? [Std.OrientedOrd κ] {left right : Table κ α}
    (alike : ∀ key, left.find? key = right.find? key) : left = right := by
  have sameMembers : ∀ entry, entry ∈ left.entries ↔ entry ∈ right.entries := by
    rintro ⟨key, value⟩
    rw [← find?_eq_some_iff, ← find?_eq_some_iff, alike key]
  have irreflexive : Std.Irrefl fun first second : κ × α => compare first.1 second.1 = .lt := by
    constructor
    intro entry smaller
    have equal : compare entry.1 entry.1 = .eq := Std.ReflCmp.compare_self
    rw [equal] at smaller
    cases smaller
  have antisymmetric : Std.Antisymm fun first second : κ × α => compare first.1 second.1 = .lt := by
    constructor
    intro first second smaller greater
    rw [Std.OrientedCmp.gt_of_lt smaller] at greater
    cases greater
  have sameEntries : left.entries = right.entries :=
    left.sorted.eq_of_mem_iff right.sorted sameMembers
  rcases left with ⟨entries, sorted⟩
  cases sameEntries
  rfl

theorem insert_comm [Std.TransOrd κ] [Std.LawfulEqOrd κ] {key other : κ} (different : key ≠ other)
    (value otherValue : α) (table : Table κ α) :
    (table.insert key value).insert other otherValue =
      (table.insert other otherValue).insert key value := by
  apply ext_find?
  intro asked
  by_cases isKey : asked = key
  · subst isKey
    rw [find?_insert_of_ne different, find?_insert_self, find?_insert_self]
  · by_cases isOther : asked = other
    · subst isOther
      rw [find?_insert_self, find?_insert_of_ne different.symm, find?_insert_self]
    · rw [find?_insert_of_ne isOther, find?_insert_of_ne isKey, find?_insert_of_ne isKey,
        find?_insert_of_ne isOther]

theorem erase_comm (key other : κ) (table : Table κ α) :
    (table.erase key).erase other = (table.erase other).erase key := by
  simp only [erase, List.filter_filter, Bool.and_comm]

end Table

/-- What a session does to a store, one table at a time. -/
inductive Edit where
  | pin (peer : Address) (identity : PublicKey)
  | store (peer : Address) (record : SessionRecord)
  | removePreKey (id : UInt32)

namespace Edit

def apply : Edit → Store → Store
  | pin peer identity => Store.putIdentity peer identity
  | store peer record => Store.putSession peer record
  | removePreKey id => Store.removePreKey id

/-- Edits one after the other. -/
def applyAll (edits : List Edit) (store : Store) : Store :=
  edits.foldl (fun store edit => edit.apply store) store

/-- The edit is about this address, or about the one-time prekey that is named. -/
def Within (address : Address) (named : Option UInt32) : Edit → Prop
  | pin peer _ => peer = address
  | store peer _ => peer = address
  | removePreKey id => named = some id

variable {edit other : Edit} {edits others : List Edit} {address peer : Address}
  {named otherNamed : Option UInt32}

theorem not_within (within : edit.Within address named) (different : address ≠ peer)
    (unshared : ∀ id, named = some id → otherNamed ≠ some id) : ¬edit.Within peer otherNamed := by
  intro shared
  cases edit with
  | pin | store => exact different (within.symm.trans shared)
  | removePreKey id => exact unshared id within shared

/-! ## What an edit leaves alone -/

theorem identity_apply (edit : Edit) (store : Store) :
    (edit.apply store).identity = store.identity := by
  cases edit <;> rfl

theorem registrationId_apply (edit : Edit) (store : Store) :
    (edit.apply store).registrationId = store.registrationId := by
  cases edit <;> rfl

theorem signedPreKeys_apply (edit : Edit) (store : Store) :
    (edit.apply store).signedPreKeys = store.signedPreKeys := by
  cases edit <;> rfl

theorem senderKeys_apply (edit : Edit) (store : Store) :
    (edit.apply store).senderKeys = store.senderKeys := by
  cases edit <;> rfl

theorem find?_identities_apply (foreign : ¬edit.Within address named) (store : Store) :
    (edit.apply store).identities.find? address = store.identities.find? address := by
  cases edit with
  | pin peer identity => exact Table.find?_insert_of_ne (Ne.symm foreign) _ _
  | store | removePreKey => rfl

theorem find?_sessions_apply (foreign : ¬edit.Within address named) (store : Store) :
    (edit.apply store).sessions.find? address = store.sessions.find? address := by
  cases edit with
  | store peer record => exact Table.find?_insert_of_ne (Ne.symm foreign) _ _
  | pin | removePreKey => rfl

theorem find?_preKeys_apply {id : UInt32} (foreign : ¬edit.Within address (some id))
    (store : Store) : (edit.apply store).preKeys.find? id = store.preKeys.find? id := by
  cases edit with
  | removePreKey removed =>
      have different : id ≠ removed := fun same => foreign (congrArg some same)
      exact (Table.find?_erase removed id store.preKeys).trans (if_neg different)
  | pin | store => rfl

theorem session_apply (foreign : ¬edit.Within address named) (store : Store) :
    (edit.apply store).session address = store.session address := by
  unfold Store.session
  rw [find?_sessions_apply foreign]

theorem trusts_apply (foreign : ¬edit.Within address named) (store : Store)
    (identity : PublicKey) :
    (edit.apply store).trusts address identity = store.trusts address identity := by
  unfold Store.trusts
  rw [find?_identities_apply foreign]

/-! ## Edits in either order -/

theorem removePreKey_apply (edit : Edit) (id : UInt32) (store : Store) :
    (edit.apply store).removePreKey id = edit.apply (store.removePreKey id) := by
  cases edit with
  | pin | store => rfl
  | removePreKey other =>
      exact congrArg (fun preKeys => { store with preKeys })
        (Table.erase_comm other id store.preKeys)

theorem apply_comm (within : edit.Within address named) (foreign : ¬other.Within address named)
    (store : Store) : edit.apply (other.apply store) = other.apply (edit.apply store) := by
  cases edit with
  | pin peer identity =>
      cases other with
      | pin otherPeer otherIdentity =>
          have different : otherPeer ≠ peer := fun same => foreign (same.trans within)
          exact congrArg (fun identities => { store with identities })
            (Table.insert_comm different otherIdentity identity store.identities)
      | store | removePreKey => rfl
  | store peer record =>
      cases other with
      | store otherPeer otherRecord =>
          have different : otherPeer ≠ peer := fun same => foreign (same.trans within)
          exact congrArg (fun sessions => { store with sessions })
            (Table.insert_comm different otherRecord record store.sessions)
      | pin | removePreKey => rfl
  | removePreKey id => exact removePreKey_apply other id store

theorem putIdentity_apply (foreign : ¬edit.Within address named) (identity : PublicKey)
    (store : Store) : (edit.apply store).putIdentity address identity =
      edit.apply (store.putIdentity address identity) := by
  have within : (pin address identity).Within address named := rfl
  exact apply_comm within foreign store

theorem putSession_apply (foreign : ¬edit.Within address named) (record : SessionRecord)
    (store : Store) : (edit.apply store).putSession address record =
      edit.apply (store.putSession address record) := by
  have within : (Edit.store address record).Within address named := rfl
  exact apply_comm within foreign store

theorem apply_applyAll (within : edit.Within address named)
    (foreign : ∀ other ∈ others, ¬other.Within address named) (store : Store) :
    edit.apply (applyAll others store) = applyAll others (edit.apply store) := by
  induction others generalizing store with
  | nil => rfl
  | cons other later ih =>
      obtain ⟨first, rest⟩ := List.forall_mem_cons.mp foreign
      change edit.apply (applyAll later (other.apply store)) =
        applyAll later (other.apply (edit.apply store))
      rw [ih rest, apply_comm within first]

theorem applyAll_comm (within : ∀ edit ∈ edits, edit.Within address named)
    (foreign : ∀ other ∈ others, ¬other.Within address named) (store : Store) :
    applyAll edits (applyAll others store) = applyAll others (applyAll edits store) := by
  induction edits generalizing store with
  | nil => rfl
  | cons edit later ih =>
      obtain ⟨first, rest⟩ := List.forall_mem_cons.mp within
      change applyAll later (edit.apply (applyAll others store)) =
        applyAll others (applyAll later (edit.apply store))
      rw [apply_applyAll first foreign, ih rest]

theorem ignores_applyAll {α : Type} {step : Step Store α}
    (ignores : ∀ edit ∈ edits, Step.Ignores edit.apply step) :
    Step.Ignores (applyAll edits) step := by
  induction edits with
  | nil => exact fun _ _ => rfl
  | cons edit later ih =>
      obtain ⟨first, rest⟩ := List.forall_mem_cons.mp ignores
      intro store random
      change step (applyAll later (edit.apply store)) random = _
      rw [ih rest (edit.apply store) random, first store random]
      rfl

end Edit

/-! ## What stays as it was -/

/-- One store became another, and nothing is different but what belongs to an address and, if it is
named, a one-time prekey that is gone. -/
structure Store.SameBut (address : Address) (named : Option UInt32) (before after : Store) : Prop where
  identity : after.identity = before.identity
  registrationId : after.registrationId = before.registrationId
  identities : ∀ other, other ≠ address →
    after.identities.find? other = before.identities.find? other
  sessions : ∀ other, other ≠ address → after.sessions.find? other = before.sessions.find? other
  preKeys : ∀ id, after.preKeys.find? id = before.preKeys.find? id ∨
    named = some id ∧ after.preKeys.find? id = none
  signedPreKeys : after.signedPreKeys = before.signedPreKeys
  senderKeys : after.senderKeys = before.senderKeys

namespace Store.SameBut

variable {address : Address} {named : Option UInt32} {before middle after : Store}

theorem refl (address : Address) (named : Option UInt32) (store : Store) :
    store.SameBut address named store :=
  ⟨rfl, rfl, fun _ _ => rfl, fun _ _ => rfl, fun _ => .inl rfl, rfl, rfl⟩

theorem trans (first : before.SameBut address named middle)
    (second : middle.SameBut address named after) : before.SameBut address named after where
  identity := second.identity.trans first.identity
  registrationId := second.registrationId.trans first.registrationId
  identities other different :=
    (second.identities other different).trans (first.identities other different)
  sessions other different :=
    (second.sessions other different).trans (first.sessions other different)
  preKeys id := by
    rcases second.preKeys id with same | gone
    · rw [same]
      exact first.preKeys id
    · exact .inr gone
  signedPreKeys := second.signedPreKeys.trans first.signedPreKeys
  senderKeys := second.senderKeys.trans first.senderKeys

end Store.SameBut

namespace Edit

variable {edit : Edit} {edits : List Edit} {address : Address} {named : Option UInt32}

theorem sameBut_apply (within : edit.Within address named) (store : Store) :
    store.SameBut address named (edit.apply store) := by
  have elsewhere : ∀ other, other ≠ address → ¬edit.Within other none := fun other different =>
    not_within within different.symm fun _ _ => nofun
  refine ⟨edit.identity_apply store, edit.registrationId_apply store, ?identities, ?sessions,
    ?preKeys, edit.signedPreKeys_apply store, edit.senderKeys_apply store⟩
  case identities => exact fun other different => find?_identities_apply (elsewhere other different) store
  case sessions => exact fun other different => find?_sessions_apply (elsewhere other different) store
  case preKeys =>
    intro id
    by_cases isNamed : edit.Within address (some id)
    · cases edit with
      | pin | store => exact .inl rfl
      | removePreKey removed =>
          cases isNamed
          exact .inr ⟨within, (Table.find?_erase id id store.preKeys).trans (if_pos rfl)⟩
    · exact .inl (find?_preKeys_apply isNamed store)

theorem sameBut_applyAll (within : ∀ edit ∈ edits, edit.Within address named) (store : Store) :
    store.SameBut address named (applyAll edits store) := by
  induction edits generalizing store with
  | nil => exact .refl address named store
  | cons edit later ih =>
      obtain ⟨first, rest⟩ := List.forall_mem_cons.mp within
      exact (sameBut_apply first store).trans (ih rest (edit.apply store))

end Edit
end DoubleRatchet
