import DoubleRatchet.PreKey
import DoubleRatchet.Proofs.Suite
import Mathlib.Data.List.Nodup

/-!
# The ids of a batch

The ids of a batch go up one by one and begin anew after the largest one. They are reduced from a count in
words, and words begin anew as well, in the middle of a round of ids: where the count of a batch leaves
its word, the ids fall back from 512 to one. A batch that stays within the words has no id twice, and one
that leaves them has none twice just if it is short.
-/

namespace DoubleRatchet
namespace PreKeyRecord

/-- The id after another one. -/
def nextId (id : UInt32) : UInt32 :=
  if id = idCount then 1 else id + 1

/-- The place of an id in the round of all ids. -/
def place (base position : Nat) : Nat :=
  (base + position) % UInt32.size % idCount.toNat

variable {base position count : Nat} {start id : UInt32}

theorem idCount_eq : idCount.toNat = 16777214 := rfl

theorem word_eq : UInt32.size = 4294967296 := rfl

theorem toNat_batchId (inWord : position < UInt32.size) :
    (batchId start (UInt32.ofNat position)).toNat = place (start.toNat - 1) position + 1 := by
  have base_eq : (if start = 0 then 0 else start - 1).toNat = start.toNat - 1 := by
    split
    · rename_i isZero
      rw [isZero]
      rfl
    · rename_i notZero
      have positive : (1 : UInt32) ≤ start := by
        rw [UInt32.le_iff_toNat_le]
        exact Nat.pos_of_ne_zero fun isZero => notZero (UInt32.toNat_inj.mp isZero)
      exact UInt32.toNat_sub_of_le _ _ positive
  have reduced : place (start.toNat - 1) position < idCount.toNat := Nat.mod_lt _ (by decide)
  unfold batchId
  dsimp only
  rw [UInt32.toNat_add, UInt32.toNat_mod, UInt32.toNat_add, base_eq,
    UInt32.toNat_ofNat_of_lt' inWord]
  change (place (start.toNat - 1) position + 1) % UInt32.size = _
  rw [idCount_eq] at reduced
  rw [word_eq]
  omega

/-- The ids of a batch do not depend on the keys. -/
theorem ids_generate (suite : Suite) (start count : UInt32) (random : Randomness) :
    (generate suite start count random).1.map PreKeyRecord.id =
      (List.range count.toNat).map fun position => batchId start (UInt32.ofNat position) := by
  unfold generate
  generalize List.range count.toNat = positions
  induction positions generalizing random with
  | nil => rfl
  | cons position later ih =>
      rw [List.mapM_cons]
      exact congrArg (List.cons _) (ih _)

/-! ## Going around -/

theorem place_lt (base position : Nat) : place base position < 16777214 :=
  Nat.mod_lt _ (by decide)

theorem place_of_within (inWord : base + position < UInt32.size) :
    place base position = (base + position) % idCount.toNat := by
  unfold place
  rw [Nat.mod_eq_of_lt inWord]

/-- After a word the places begin anew. -/
theorem place_of_beyond (beyond : UInt32.size ≤ base + position)
    (firstRound : base + position < UInt32.size + idCount.toNat) :
    place base position = base + position - UInt32.size := by
  unfold place
  rw [word_eq] at beyond firstRound ⊢
  rw [idCount_eq] at firstRound ⊢
  omega

/-- The last round of a word is cut short. -/
theorem place_of_last_round (lastRound : 4294966784 ≤ base + position)
    (inWord : base + position < UInt32.size) : place base position = base + position - 4294966784 := by
  rw [place_of_within inWord, idCount_eq]
  rw [word_eq] at inWord
  omega

theorem place_at_end (atEnd : base + position + 1 = UInt32.size) :
    place base position = 511 ∧ place base (position + 1) = 0 := by
  rw [word_eq] at atEnd
  constructor
  · rw [place_of_last_round (by omega) (by rw [word_eq]; omega)]
    omega
  · rw [place_of_beyond (by rw [word_eq]; omega) (by rw [word_eq, idCount_eq]; omega), word_eq]
    omega

/-- Everywhere else the places go around, one by one. -/
theorem place_succ (base_lt : base < UInt32.size) (few : position + 1 < idCount.toNat)
    (notAtEnd : base + position + 1 ≠ UInt32.size) :
    place base (position + 1) =
      if place base position + 1 = idCount.toNat then 0 else place base position + 1 := by
  rcases Nat.lt_or_gt_of_ne notAtEnd with within | beyond
  · have next_eq : place base (position + 1) = (base + (position + 1)) % idCount.toNat :=
      place_of_within within
    rw [next_eq, place_of_within (Nat.lt_of_succ_lt within), idCount_eq]
    split <;> omega
  · have next_eq : place base (position + 1) = base + (position + 1) - UInt32.size :=
      place_of_beyond (by omega) (by omega)
    rw [next_eq, place_of_beyond (by omega) (by omega)]
    split <;> omega

theorem place_injective {left right : Nat} (inWord : base + count ≤ UInt32.size)
    (few : count ≤ idCount.toNat) (left_lt : left < count) (right_lt : right < count)
    (same : place base left = place base right) : left = right := by
  rw [place_of_within (by omega), place_of_within (by omega)] at same
  rw [idCount_eq] at few same
  omega

/-- A short batch that leaves its word ends before it comes to the places that it began with. -/
theorem place_injective_of_short {left right : Nat} (base_lt : base < UInt32.size)
    (beyond : UInt32.size < base + count) (short : count ≤ 512) (left_lt : left < count)
    (right_lt : right < count) (same : place base left = place base right) : left = right := by
  have place_eq {position : Nat} (isPosition : position < count) :
      place base position =
        if base + position < UInt32.size then base + position - 4294966784
        else base + position - UInt32.size := by
    rw [word_eq] at base_lt beyond ⊢
    split
    · exact place_of_last_round (by omega) ‹_›
    · exact place_of_beyond (Nat.le_of_not_lt ‹_›) (by rw [word_eq, idCount_eq]; omega)
  rw [place_eq left_lt, place_eq right_lt, word_eq] at same
  rw [word_eq] at base_lt beyond
  split at same <;> split at same <;> omega

/-- A longer one meets its own places again. -/
theorem exists_place_again (base_lt : base < UInt32.size) (beyond : UInt32.size < base + count)
    (long : 512 < count) :
    ∃ position, position + 512 < count ∧ place base (position + 512) = place base position := by
  unfold place
  rw [word_eq] at base_lt beyond ⊢
  rw [idCount_eq]
  -- The last 512 places of a word are the first ones of the next.
  refine ⟨4294967296 - base - 512, ?_, ?_⟩ <;> omega

theorem place_inj_iff (base_lt : base < UInt32.size) (few : count ≤ idCount.toNat) :
    (∀ left < count, ∀ right < count, place base left = place base right → left = right) ↔
      base + count ≤ UInt32.size ∨ count ≤ 512 := by
  constructor
  · intro injective
    by_contra repeats
    obtain ⟨beyond, long⟩ := not_or.mp repeats
    obtain ⟨position, isPosition, again⟩ :=
      exists_place_again base_lt (Nat.lt_of_not_le beyond) (Nat.lt_of_not_le long)
    have same := injective _ isPosition position (by omega) again
    omega
  · intro distinct left left_lt right right_lt same
    by_cases inWord : base + count ≤ UInt32.size
    · exact place_injective inWord few left_lt right_lt same
    · exact place_injective_of_short base_lt (Nat.lt_of_not_le inWord) (distinct.resolve_left inWord)
        left_lt right_lt same

/-! ## The ids of a batch -/

theorem batchId_inj_iff {left right : Nat} (left_lt : left < UInt32.size)
    (right_lt : right < UInt32.size) :
    batchId start (UInt32.ofNat left) = batchId start (UInt32.ofNat right) ↔
      place (start.toNat - 1) left = place (start.toNat - 1) right := by
  rw [← UInt32.toNat_inj, toNat_batchId left_lt, toNat_batchId right_lt, Nat.succ_inj]

theorem toNat_nextId (bounded : id ≤ idCount) :
    (nextId id).toNat = if id.toNat = idCount.toNat then 1 else id.toNat + 1 := by
  rw [UInt32.le_iff_toNat_le] at bounded
  unfold nextId
  by_cases isLast : id = idCount
  · rw [if_pos isLast, if_pos (congrArg UInt32.toNat isLast)]
    rfl
  · rw [if_neg isLast, if_neg fun same => isLast (UInt32.toNat_inj.mp same), UInt32.toNat_add]
    rw [idCount_eq] at bounded
    exact Nat.mod_eq_of_lt (Nat.lt_of_le_of_lt (Nat.succ_le_succ bounded) (by decide))

variable {suite : Suite} {start count : UInt32} {random : Randomness}

theorem getElem?_ids
    (isId : ((generate suite start count random).1.map PreKeyRecord.id)[position]? = some id) :
    position < count.toNat ∧ id.toNat = place (start.toNat - 1) position + 1 := by
  rw [ids_generate, List.getElem?_map, Option.map_eq_some_iff] at isId
  obtain ⟨_, inRange, rfl⟩ := isId
  obtain ⟨isPosition, rfl⟩ := List.getElem?_eq_some_iff.mp inRange
  rw [List.length_range] at isPosition
  rw [List.getElem_range]
  exact ⟨isPosition, toNat_batchId (Nat.lt_trans isPosition count.toNat_lt)⟩

theorem nodup_ids_iff (few : count ≤ idCount) :
    ((generate suite start count random).1.map PreKeyRecord.id).Nodup ↔
      start.toNat - 1 + count.toNat ≤ UInt32.size ∨ count ≤ 512 := by
  have base_lt : start.toNat - 1 < UInt32.size := Nat.lt_of_le_of_lt (Nat.sub_le _ _) start.toNat_lt
  rw [ids_generate, List.nodup_map_iff_inj_on List.nodup_range, UInt32.le_iff_toNat_le]
  refine Iff.trans ?_ (place_inj_iff base_lt few)
  simp only [List.mem_range]
  refine forall₂_congr fun left left_lt => forall₂_congr fun right right_lt => ?_
  rw [batchId_inj_iff (Nat.lt_trans left_lt count.toNat_lt) (Nat.lt_trans right_lt count.toNat_lt)]

/-- A batch has the ids from its start on. They are numbers from one to the largest id, and each is followed
by the next one, which after the largest is one again, except that 512 is followed by one where the count
of the batch leaves its word. So no id comes twice, unless a batch of more than 512 leaves its word. -/
theorem batch_counts_on_within_words (suite : Suite) (start count : UInt32) (random : Randomness)
    (few : count ≤ idCount) :
    let ids := (generate suite start count random).1.map PreKeyRecord.id
    let base := start.toNat - 1
    ids.length = count.toNat ∧ (∀ id ∈ ids, 1 ≤ id ∧ id ≤ idCount) ∧
      (∀ id, ids.head? = some id → 1 ≤ start → start ≤ idCount → id = start) ∧
      (∀ position id next, ids[position]? = some id → ids[position + 1]? = some next →
        if base + position + 1 = UInt32.size then id = 512 ∧ next = 1 else next = nextId id) ∧
      (ids.Nodup ↔ base + count.toNat ≤ UInt32.size ∨ count ≤ 512) := by
  intro ids base
  have bounded (id : UInt32) (member : id ∈ ids) : 1 ≤ id ∧ id ≤ idCount := by
    obtain ⟨position, isId⟩ := List.mem_iff_getElem?.mp member
    obtain ⟨_, id_eq⟩ := getElem?_ids isId
    have bound := place_lt base position
    rw [UInt32.le_iff_toNat_le, UInt32.le_iff_toNat_le, id_eq, idCount_eq]
    exact ⟨Nat.succ_pos _, bound⟩
  refine ⟨?length, bounded, ?first, ?following, nodup_ids_iff few⟩
  case length =>
    change ((generate suite start count random).1.map PreKeyRecord.id).length = _
    rw [ids_generate, List.length_map, List.length_range]
  case first =>
    intro id isFirst positive isId
    rw [List.head?_eq_getElem?] at isFirst
    obtain ⟨_, id_eq⟩ := getElem?_ids isFirst
    rw [place_of_within (Nat.lt_of_le_of_lt (Nat.sub_le _ _) start.toNat_lt)] at id_eq
    rw [UInt32.le_iff_toNat_le, idCount_eq] at isId
    rw [UInt32.le_iff_toNat_le] at positive
    apply UInt32.toNat_inj.mp
    change 1 ≤ start.toNat at positive
    rw [id_eq, idCount_eq]
    omega
  case following =>
    intro position id next isId isNext
    obtain ⟨_, id_eq⟩ := getElem?_ids isId
    obtain ⟨isPosition, next_eq⟩ := getElem?_ids isNext
    split
    · rename_i atEnd
      obtain ⟨id_place, next_place⟩ := place_at_end atEnd
      rw [id_place] at id_eq
      rw [next_place] at next_eq
      exact ⟨UInt32.toNat_inj.mp id_eq, UInt32.toNat_inj.mp next_eq⟩
    · rename_i notAtEnd
      have base_lt : base < UInt32.size := Nat.lt_of_le_of_lt (Nat.sub_le _ _) start.toNat_lt
      have follows := place_succ base_lt (Nat.lt_of_lt_of_le isPosition few) notAtEnd
      apply UInt32.toNat_inj.mp
      rw [toNat_nextId (bounded id (List.mem_of_getElem? isId)).2, next_eq, id_eq, follows]
      split <;> rfl

/-- A batch that begins at the last start falls back after its second id, and is long enough to come to
its first ids again. -/
theorem last_batch_falls_back :
    let ids := (generate Suite.additive 4294967295 513 (.repeated 0)).1.map PreKeyRecord.id
    ids[1]? = some 512 ∧ ids[2]? = some 1 ∧ ¬ ids.Nodup := by
  intro ids
  obtain ⟨length_eq, _, _, following, distinct⟩ :=
    batch_counts_on_within_words Suite.additive 4294967295 513 (.repeated 0) (by decide)
  have at_position {position : Nat} (isPosition : position < 513) :
      ∃ id, ids[position]? = some id :=
    ⟨_, List.getElem?_eq_getElem (Nat.lt_of_lt_of_eq isPosition length_eq.symm)⟩
  obtain ⟨second, isSecond⟩ := at_position (by decide : 1 < 513)
  obtain ⟨third, isThird⟩ := at_position (by decide : 2 < 513)
  have fallsBack := following 1 second third isSecond isThird
  rw [if_pos (by decide)] at fallsBack
  obtain ⟨rfl, rfl⟩ := fallsBack
  exact ⟨isSecond, isThird, fun nodup => absurd (distinct.mp nodup) (by decide)⟩

end PreKeyRecord
end DoubleRatchet
