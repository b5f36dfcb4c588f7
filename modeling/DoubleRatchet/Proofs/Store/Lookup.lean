import DoubleRatchet.Store

/-!
# What a store answers after a change

A table is known by its lookups: an insertion changes the answer for one key, and inserting what is
already there changes nothing. The lookups of a store follow.
-/

namespace DoubleRatchet
namespace Table

variable {κ α : Type} [Ord κ] [DecidableEq κ]

theorem find?_place_self (key : κ) (value : α) (entries : List (κ × α)) :
    (place key value entries).find? (fun entry => entry.1 = key) = some (key, value) := by
  induction entries with
  | nil => simp [place]
  | cons first rest ih =>
      simp only [place]
      split
      · simp
      · rename_i different
        split
        · simp
        · simp [different, ih]

theorem find?_place_of_ne {key other : κ} (different : other ≠ key) (value : α)
    (entries : List (κ × α)) :
    (place key value entries).find? (fun entry => entry.1 = other) =
      entries.find? fun entry => entry.1 = other := by
  induction entries with
  | nil => simp [place, different.symm]
  | cons first rest ih =>
      simp only [place]
      split
      · rename_i same
        simp [same, different.symm]
      · split
        · simp [different.symm]
        · simp only [List.find?_cons, ih]

/-- Keeping some keys answers for these as before, and for no others. -/
theorem find?_keep (test : κ → Bool) (key : κ) (table : Table κ α) :
    (table.keep test).find? key = if test key then table.find? key else none := by
  unfold find? keep
  rw [List.find?_filter]
  split
  · rename_i kept
    congr 2
    funext entry
    by_cases same : entry.1 = key
    · simp [same, kept]
    · simp [same]
  · rename_i dropped
    rw [List.find?_eq_none.mpr, Option.map_none]
    intro entry member
    by_cases same : entry.1 = key
    · simp [same, dropped]
    · simp [same]

theorem find?_erase (key other : κ) (table : Table κ α) :
    (table.erase key).find? other = if other = key then none else table.find? other := by
  have erased : table.erase key = table.keep (· ≠ key) := rfl
  rw [erased, find?_keep]
  by_cases same : other = key <;> simp [same]

/-- In a sorted list the place of a key is where it already is. -/
theorem place_of_find? [Std.OrientedOrd κ] {key : κ} {value : α} {entries : List (κ × α)}
    (sorted : entries.Pairwise fun left right => compare left.1 right.1 = .lt)
    (found : entries.find? (fun entry => entry.1 = key) = some (key, value)) :
    place key value entries = entries := by
  induction entries with
  | nil => simp at found
  | cons first rest ih =>
      have ⟨before, restSorted⟩ := List.pairwise_cons.mp sorted
      by_cases same : first.1 = key
      · have firstFound : first = (key, value) := by simpa [same] using found
        simp [place, firstFound]
      · have restFound : rest.find? (fun entry => entry.1 = key) = some (key, value) := by
          simpa [same] using found
        have later : compare first.1 key = .lt :=
          before (key, value) (List.mem_of_find?_eq_some restFound)
        have notSmaller : ¬(compare key first.1).isLT = true := by
          rw [Std.OrientedCmp.gt_of_lt later]
          decide
        simp only [place, if_neg same, if_neg notSmaller, ih restSorted restFound]

variable [Std.TransOrd κ] [Std.LawfulEqOrd κ]

@[simp] theorem find?_insert_self (key : κ) (value : α) (table : Table κ α) :
    (table.insert key value).find? key = some value := by
  simp only [find?, insert, find?_place_self, Option.map_some]

theorem find?_insert_of_ne {key other : κ} (different : other ≠ key) (value : α)
    (table : Table κ α) : (table.insert key value).find? other = table.find? other := by
  simp only [find?, insert, find?_place_of_ne different]

theorem insert_of_find? {key : κ} {value : α} {table : Table κ α}
    (found : table.find? key = some value) : table.insert key value = table := by
  have ⟨entry, entryFound, entryValue⟩ := Option.map_eq_some_iff.mp found
  have entryKey : entry.1 = key := by simpa using List.find?_some entryFound
  have whole : entry = (key, value) := Prod.ext entryKey entryValue
  rcases table with ⟨entries, sorted⟩
  simp only [insert, mk.injEq]
  exact place_of_find? sorted (whole ▸ entryFound)

end Table

namespace Store

variable (address : Address) (store : Store)

@[simp] theorem session_putSession (record : SessionRecord) :
    (store.putSession address record).session address = record := by
  simp [session, putSession]

theorem session_putSession_of_ne {other : Address} (different : other ≠ address)
    (record : SessionRecord) :
    (store.putSession address record).session other = store.session other := by
  simp only [session, putSession, Table.find?_insert_of_ne different]

@[simp] theorem session_putIdentity (other : Address) (identity : PublicKey) :
    (store.putIdentity address identity).session other = store.session other := rfl

@[simp] theorem session_removePreKey (other : Address) (id : UInt32) :
    (store.removePreKey id).session other = store.session other := rfl

theorem session_deleteSessions (name : String) (other : Address) :
    (store.deleteSessions name).session other = store.session other ∨
      (store.deleteSessions name).session other = {} := by
  unfold session deleteSessions
  rw [Table.find?_keep]
  split
  · exact .inl rfl
  · exact .inr rfl

theorem session_deleteSession (other : Address) :
    (store.deleteSession address).session other = store.session other ∨
      (store.deleteSession address).session other = {} := by
  unfold session deleteSession
  rw [Table.find?_erase]
  split
  · exact .inr rfl
  · exact .inl rfl

/-- An identity that is known already is known afterwards, and nothing else changes. -/
theorem putIdentity_of_find? {identity : PublicKey}
    (known : store.identities.find? address = some identity) :
    store.putIdentity address identity = store := by
  simp only [putIdentity, Table.insert_of_find? known]

/-- Pinning an identity leaves no trace exactly if it was pinned before. -/
theorem putIdentity_eq_self_iff (identity : PublicKey) :
    store.putIdentity address identity = store ↔
      store.identities.find? address = some identity := by
  constructor
  · intro same
    rw [← same]
    simp [putIdentity]
  · exact putIdentity_of_find? address store

theorem trusts_iff (identity : PublicKey) :
    store.trusts address identity = true ↔
      store.identities.find? address = none ∨
        store.identities.find? address = some identity := by
  unfold trusts
  cases store.identities.find? address with
  | none => simp
  | some known => simp

end Store
end DoubleRatchet
