/-!
# Tables

A table has at most one value for a key. Its entries are kept in the order of the
keys, so a table does not remember in which order it was filled, and its keys can be
listed.
-/

namespace DoubleRatchet

structure Table (κ α : Type) [Ord κ] where
  entries : List (κ × α) := []
  sorted : entries.Pairwise fun left right => compare left.1 right.1 = .lt := by exact .nil
  deriving DecidableEq

namespace Table

variable {κ α : Type} [Ord κ]

def empty : Table κ α := {}

variable [DecidableEq κ]

def find? (key : κ) (table : Table κ α) : Option α :=
  (table.entries.find? fun entry => entry.1 = key).map Prod.snd

def contains (key : κ) (table : Table κ α) : Bool :=
  (table.find? key).isSome

def keys (table : Table κ α) : List κ :=
  table.entries.map Prod.fst

def place (key : κ) (value : α) : List (κ × α) → List (κ × α)
  | [] => [(key, value)]
  | entry :: rest =>
      if entry.1 = key then (key, value) :: rest
      else if (compare key entry.1).isLT then (key, value) :: entry :: rest
      else entry :: place key value rest

theorem mem_place {key : κ} {value : α} {entries : List (κ × α)} {entry : κ × α}
    (placed : entry ∈ place key value entries) : entry = (key, value) ∨ entry ∈ entries := by
  induction entries with
  | nil => simpa [place] using placed
  | cons first rest ih =>
      simp only [place] at placed
      split at placed
      · rcases List.mem_cons.mp placed with same | later
        · exact .inl same
        · exact .inr (List.mem_cons_of_mem _ later)
      · split at placed
        · rcases List.mem_cons.mp placed with same | later
          · exact .inl same
          · exact .inr later
        · rcases List.mem_cons.mp placed with same | later
          · exact .inr (same ▸ List.mem_cons_self)
          · exact (ih later).imp_right (List.mem_cons_of_mem _)

variable [Std.TransOrd κ] [Std.LawfulEqOrd κ]

theorem place_sorted (key : κ) (value : α) {entries : List (κ × α)}
    (sorted : entries.Pairwise fun left right => compare left.1 right.1 = .lt) :
    (place key value entries).Pairwise fun left right => compare left.1 right.1 = .lt := by
  induction entries with
  | nil => exact List.pairwise_singleton _ _
  | cons first rest ih =>
      have ⟨before, restSorted⟩ := List.pairwise_cons.mp sorted
      simp only [place]
      split
      · rename_i same
        exact List.pairwise_cons.mpr ⟨fun entry member => same ▸ before entry member, restSorted⟩
      · rename_i different
        split
        · rename_i smaller
          have keyFirst : compare key first.1 = .lt := Ordering.isLT_iff_eq_lt.mp smaller
          refine List.pairwise_cons.mpr ⟨fun entry member => ?_, sorted⟩
          rcases List.mem_cons.mp member with same | later
          · exact same ▸ keyFirst
          · exact Std.TransCmp.lt_trans keyFirst (before entry later)
        · rename_i notSmaller
          have firstKey : compare first.1 key = .lt := by
            have notEqual : compare first.1 key ≠ .eq := fun equal =>
              different (Std.LawfulEqCmp.eq_of_compare equal)
            have notGreater : compare first.1 key ≠ .gt := fun greater =>
              notSmaller (Ordering.isLT_iff_eq_lt.mpr (Std.OrientedCmp.lt_of_gt greater))
            cases order : compare first.1 key with
            | lt => rfl
            | eq => exact absurd order notEqual
            | gt => exact absurd order notGreater
          refine List.pairwise_cons.mpr ⟨fun entry member => ?_, ih restSorted⟩
          rcases mem_place member with same | later
          · exact same ▸ firstKey
          · exact before entry later

def insert (key : κ) (value : α) (table : Table κ α) : Table κ α :=
  { entries := place key value table.entries
    sorted := place_sorted key value table.sorted }

omit [Std.TransOrd κ] [Std.LawfulEqOrd κ]

def erase (key : κ) (table : Table κ α) : Table κ α :=
  { entries := table.entries.filter fun entry => entry.1 ≠ key
    sorted := table.sorted.filter _ }

/-- Keeps the entries whose keys pass a test. -/
def keep (test : κ → Bool) (table : Table κ α) : Table κ α :=
  { entries := table.entries.filter fun entry => test entry.1
    sorted := table.sorted.filter _ }

/-- Changes the values and leaves the keys. -/
def map {β : Type} (change : α → β) (table : Table κ α) : Table κ β :=
  { entries := table.entries.map fun entry => (entry.1, change entry.2)
    sorted := List.pairwise_map.mpr table.sorted }

end Table
end DoubleRatchet
