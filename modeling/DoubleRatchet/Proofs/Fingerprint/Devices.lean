import DoubleRatchet.Proofs.Fingerprint.Mirrored
import DoubleRatchet.Proofs.Suite
import DoubleRatchet.Suite.Standard

/-!
# Fingerprints of several devices

A party with several devices is fingerprinted by the device with the largest current key. Its devices come
in no particular order, and of those that share the largest key the last one is taken. They have the current
key in common, so the order does not tell in a fingerprint of the current epoch. It can tell in one of
the last epoch, unless they had one key then as well.
-/

namespace DoubleRatchet
namespace Fingerprint

/-- No other device has a larger current key. -/
def Leads (auths : List AuthKey) (auth : AuthKey) : Prop :=
  auth ∈ auths ∧ ∀ other ∈ auths, ¬ auth.key < other.key

instance (auths : List AuthKey) (auth : AuthKey) : Decidable (Leads auths auth) :=
  inferInstanceAs (Decidable (_ ∧ _))

/-- The devices with the largest current key had one key in the last epoch. -/
def SharedLast (auths : List AuthKey) : Prop :=
  ∀ left ∈ auths, ∀ right ∈ auths, Leads auths left → Leads auths right →
    left.lastKey = right.lastKey

instance (auths : List AuthKey) : Decidable (SharedLast auths) :=
  inferInstanceAs (Decidable (∀ left ∈ auths, ∀ right ∈ auths, _ → _ → _))

/-- What a fingerprint takes of a device. -/
def shown (useLastEpoch : Bool) (auth : AuthKey) : Bytes :=
  if useLastEpoch then auth.lastKey else auth.key

variable {auths order front : List AuthKey} {auth left right : AuthKey} {useLastEpoch : Bool}

theorem Leads.key_eq (leftLeads : Leads auths left) (rightLeads : Leads auths right) :
    left.key = right.key :=
  List.le_antisymm (List.not_lt.mp (rightLeads.2 left leftLeads.1))
    (List.not_lt.mp (leftLeads.2 right rightLeads.1))

theorem Leads.of_perm (leads : Leads order auth) (permuted : auths.Perm order) : Leads auths auth :=
  ⟨permuted.mem_iff.mpr leads.1, fun other member => leads.2 other (permuted.mem_iff.mp member)⟩

theorem Leads.shown_eq (leftLeads : Leads auths left) (rightLeads : Leads auths right)
    (shared : useLastEpoch = true → SharedLast auths) :
    shown useLastEpoch left = shown useLastEpoch right := by
  cases useLastEpoch with
  | false => exact leftLeads.key_eq rightLeads
  | true => exact shared rfl left leftLeads.1 right rightLeads.1 leftLeads rightLeads

/-! ## The device that is taken -/

theorem leads_foldl (first : AuthKey) (rest : List AuthKey) :
    Leads (first :: rest)
      (rest.foldl (fun best auth => if auth.key < best.key then best else auth) first) := by
  induction rest generalizing first with
  | nil =>
      refine ⟨List.mem_singleton_self first, fun other member => ?_⟩
      rw [List.mem_singleton.mp member]
      exact List.lt_irrefl first.key
  | cons next rest ih =>
      rw [List.foldl_cons]
      split
      · rename_i below
        obtain ⟨isDevice, largest⟩ := ih first
        obtain ⟨notFirst, notRest⟩ := List.forall_mem_cons.mp largest
        refine ⟨List.cons_subset_cons _ (List.subset_cons_self _ _) isDevice, ?_⟩
        refine List.forall_mem_cons.mpr ⟨notFirst, List.forall_mem_cons.mpr ⟨?_, notRest⟩⟩
        exact fun after => notFirst (List.lt_trans after below)
      · rename_i notBelow
        obtain ⟨isDevice, largest⟩ := ih next
        refine ⟨List.mem_cons_of_mem first isDevice, List.forall_mem_cons.mpr ⟨?_, largest⟩⟩
        have atLeast := List.not_lt.mp (List.forall_mem_cons.mp largest).1
        exact List.not_lt.mpr (List.le_trans (List.not_lt.mp notBelow) atLeast)

theorem leads_of_canonical (taken : canonical auths = .ok auth) : Leads auths auth := by
  cases auths with
  | nil => cases taken
  | cons first rest =>
      cases taken
      exact leads_foldl first rest

/-- Of the devices that lead the last one is taken. -/
theorem canonical_of_last (leads : Leads (front ++ [auth]) auth) :
    canonical (front ++ [auth]) = .ok auth := by
  cases front with
  | nil => rfl
  | cons first rest =>
      have isDevice := List.mem_append_left [auth] (leads_foldl first rest).1
      rw [List.cons_append, canonical, List.foldl_append, List.foldl_cons, List.foldl_nil,
        if_neg (leads.2 _ isDevice)]

/-- Each device that leads is taken in some order, and no other device is taken in any. -/
theorem exists_order_iff_leads :
    (∃ order, auths.Perm order ∧ canonical order = .ok auth) ↔ Leads auths auth := by
  constructor
  · rintro ⟨order, permuted, taken⟩
    exact (leads_of_canonical taken).of_perm permuted
  · intro leads
    have permuted : auths.Perm (auths.erase auth ++ [auth]) :=
      (List.perm_cons_erase leads.1).trans (List.perm_append_singleton auth _).symm
    exact ⟨_, permuted, canonical_of_last (leads.of_perm permuted.symm)⟩

/-- No weaker condition makes every order give the same. -/
theorem shown_ignores_order_iff :
    (∀ left right, (∃ order, auths.Perm order ∧ canonical order = .ok left) →
        (∃ order, auths.Perm order ∧ canonical order = .ok right) →
        shown useLastEpoch left = shown useLastEpoch right) ↔
      (useLastEpoch = true → SharedLast auths) := by
  simp only [exists_order_iff_leads]
  constructor
  · rintro same rfl left _ right _ leftLeads rightLeads
    exact same left right leftLeads rightLeads
  · intro shared left right leftLeads rightLeads
    exact leftLeads.shown_eq rightLeads shared

theorem exists_canonical (notEmpty : auths ≠ []) : ∃ auth, canonical auths = .ok auth := by
  obtain ⟨first, rest, rfl⟩ := List.exists_cons_of_ne_nil notEmpty
  exact ⟨_, rfl⟩

theorem exists_canonical_of_perm (taken : canonical auths = .ok auth) (permuted : auths.Perm order)
    (shared : useLastEpoch = true → SharedLast auths) :
    ∃ another, canonical order = .ok another ∧
      shown useLastEpoch another = shown useLastEpoch auth := by
  have notEmpty : order ≠ [] := by
    rintro rfl
    rw [permuted.eq_nil] at taken
    cases taken
  obtain ⟨another, takenThen⟩ := exists_canonical notEmpty
  exact ⟨another, takenThen, shown_ignores_order_iff.mpr shared another auth
    ⟨order, permuted, takenThen⟩ ⟨auths, .refl auths, taken⟩⟩

/-! ## The fingerprint -/

theorem create_eq_of_shown {ours theirs ours' theirs' : AuthKey} (suite : Suite)
    (iterations version : UInt32) (chainedHash : Bytes)
    (sameOurs : shown useLastEpoch ours' = shown useLastEpoch ours)
    (sameTheirs : shown useLastEpoch theirs' = shown useLastEpoch theirs) :
    create suite iterations version ours' theirs' chainedHash useLastEpoch =
      create suite iterations version ours theirs chainedHash useLastEpoch := by
  change Fingerprint.mk version (digest suite iterations (shown useLastEpoch ours') chainedHash)
    (digest suite iterations (shown useLastEpoch theirs') chainedHash) = _
  rw [sameOurs, sameTheirs]
  rfl

theorem createForList_of_canonical {ours theirs : List AuthKey} {our their : AuthKey} (suite : Suite)
    (iterations version : UInt32) (chainedHash : Bytes) (useLastEpoch : Bool)
    (ourDevice : canonical ours = .ok our) (theirDevice : canonical theirs = .ok their) :
    createForList suite iterations version ours theirs chainedHash useLastEpoch =
      .ok (create suite iterations version our their chainedHash useLastEpoch) := by
  rw [createForList, ourDevice, theirDevice]
  rfl

/-- The two parties make their fingerprints in any orders of the devices: both see the same digits and
each passes the other's scan, and neither fingerprint depends on the order. One of the last epoch asks
that the devices with the largest current key of a party had one key then. -/
theorem device_order_is_immaterial {ours theirs : List AuthKey} (suite : Suite)
    (iterations version : UInt32) (chainedHash : Bytes) (useLastEpoch : Bool)
    (oursNonempty : ours ≠ []) (theirsNonempty : theirs ≠ [])
    (ourShared : useLastEpoch = true → SharedLast ours)
    (theirShared : useLastEpoch = true → SharedLast theirs) :
    ∃ mine yours : Fingerprint,
      (∀ ours' theirs', ours.Perm ours' → theirs.Perm theirs' →
        createForList suite iterations version ours' theirs' chainedHash useLastEpoch = .ok mine ∧
        createForList suite iterations version theirs' ours' chainedHash useLastEpoch = .ok yours) ∧
      mine.display = yours.display ∧ mine.compareTo yours.scannable = .ok true ∧
      yours.compareTo mine.scannable = .ok true := by
  obtain ⟨our, ourTaken⟩ := exists_canonical oursNonempty
  obtain ⟨their, theirTaken⟩ := exists_canonical theirsNonempty
  have mirrors := mirrors_create suite iterations version our their chainedHash useLastEpoch
  refine ⟨_, _, ?made, mirrors.display_eq, mirrors.compareTo rfl, mirrors.symm.compareTo rfl⟩
  intro ours' theirs' ourOrder theirOrder
  obtain ⟨our', ourDevice, sameOurs⟩ := exists_canonical_of_perm ourTaken ourOrder ourShared
  obtain ⟨their', theirDevice, sameTheirs⟩ :=
    exists_canonical_of_perm theirTaken theirOrder theirShared
  constructor
  · rw [createForList_of_canonical suite iterations version chainedHash useLastEpoch ourDevice
      theirDevice]
    exact congrArg _ (create_eq_of_shown suite iterations version chainedHash sameOurs sameTheirs)
  · rw [createForList_of_canonical suite iterations version chainedHash useLastEpoch theirDevice
      ourDevice]
    exact congrArg _ (create_eq_of_shown suite iterations version chainedHash sameTheirs sameOurs)

/-- Of these three devices two lead, and they are of different epochs but had the same key. -/
theorem leaders_shared_a_key :
    let ours : List AuthKey := [⟨[2], [7], 1⟩, ⟨[1], [9], 1⟩, ⟨[2], [7], 4⟩]
    let theirs : List AuthKey := [⟨[4], [5], 1⟩]
    (Leads ours ⟨[2], [7], 1⟩ ∧ Leads ours ⟨[2], [7], 4⟩ ∧ SharedLast ours ∧ SharedLast theirs) ∧
      ∃ mine yours : Fingerprint,
        (∀ ours' theirs', ours.Perm ours' → theirs.Perm theirs' →
          createForList Suite.additive 2 1 ours' theirs' [3] true = .ok mine ∧
          createForList Suite.additive 2 1 theirs' ours' [3] true = .ok yours) ∧
        mine.display = yours.display ∧ mine.compareTo yours.scannable = .ok true ∧
        yours.compareTo mine.scannable = .ok true :=
  ⟨by decide, device_order_is_immaterial Suite.additive 2 1 [3] true (List.cons_ne_nil _ _)
    (List.cons_ne_nil _ _) (fun _ => by decide) (fun _ => by decide)⟩

theorem digits_of_two :
    displaySide (digest Suite.standard 1 [2] []) = "021055302269593617354954474965" := by
  decide +kernel

theorem digits_of_three :
    displaySide (digest Suite.standard 1 [3] []) = "789270293486172017072879169784" := by
  decide +kernel

/-- Two devices share their current key but not the one before it. In one order a fingerprint of the
last epoch shows other digits than in the other, though both are made of the same devices. -/
theorem device_order_tells_in_last_epoch :
    let ours : List AuthKey := [⟨[1], [2], 1⟩, ⟨[1], [3], 1⟩]
    let theirs : List AuthKey := [⟨[4], [3], 1⟩]
    let shownDigits (ours : List AuthKey) : Option String :=
      (createForList Suite.standard 1 1 ours theirs [] true).toOption.map display
    ours.Perm ours.reverse ∧ shownDigits ours ≠ shownDigits ours.reverse := by
  intro ours theirs shownDigits
  have shown_eq : shownDigits ours =
      some "789270293486172017072879169784789270293486172017072879169784" := by
    change some (display ⟨1, digest Suite.standard 1 [3] [], digest Suite.standard 1 [3] []⟩) = _
    unfold display
    rw [digits_of_three]
    decide
  have reversed_eq : shownDigits ours.reverse =
      some "021055302269593617354954474965789270293486172017072879169784" := by
    change some (display ⟨1, digest Suite.standard 1 [2] [], digest Suite.standard 1 [3] []⟩) = _
    unfold display
    rw [digits_of_two, digits_of_three]
    decide
  rw [shown_eq, reversed_eq]
  exact ⟨(List.reverse_perm ours).symm, by decide⟩

end Fingerprint
end DoubleRatchet
