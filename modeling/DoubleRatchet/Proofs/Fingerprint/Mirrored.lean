import DoubleRatchet.Fingerprint
import DoubleRatchet.Proofs.Fingerprint.Payload

/-!
# What two parties see of each other's fingerprint

The fingerprints that two parties make of the same keys are each the other with the sides swapped. Such
fingerprints show the same digits, and only such ones pass when one is scanned with the other.
-/

namespace DoubleRatchet

/-! ## Digits -/

/-- The text is made of just that many decimal digits. -/
def IsDigits (count : Nat) (text : String) : Prop :=
  text.length = count ∧ ∀ digit ∈ text.toList, digit.isDigit = true

theorem IsDigits.append {count more : Nat} {left right : String} (isLeft : IsDigits count left)
    (isRight : IsDigits more right) : IsDigits (count + more) (left ++ right) := by
  constructor
  · rw [String.length_append, isLeft.1, isRight.1]
  · intro digit member
    rw [String.toList_append] at member
    rcases List.mem_append.mp member with first | later
    · exact isLeft.2 digit first
    · exact isRight.2 digit later

theorem isDigits_join {size : Nat} {texts : List String} (all : ∀ text ∈ texts, IsDigits size text) :
    IsDigits (texts.length * size) (String.join texts) := by
  induction texts with
  | nil =>
      rw [List.length_nil, Nat.zero_mul]
      exact ⟨rfl, nofun⟩
  | cons text texts ih =>
      obtain ⟨first, later⟩ := List.forall_mem_cons.mp all
      rw [String.join_cons, List.length_cons, Nat.succ_mul, Nat.add_comm]
      exact first.append (ih later)

theorem Bytes.length_pieces {size : Nat} (positive : 0 < size) {count : Nat} {bytes : Bytes}
    (length_eq : bytes.length = count * size) : (pieces size bytes).length = count := by
  induction count generalizing bytes with
  | zero =>
      rw [Nat.zero_mul, List.length_eq_zero_iff] at length_eq
      rw [pieces, dif_pos (.inr length_eq)]
      rfl
  | succ count ih =>
      rw [Nat.succ_mul] at length_eq
      have notEmpty : ¬(size = 0 ∨ bytes = []) := by
        rintro (isZero | rfl)
        · omega
        · rw [List.length_nil] at length_eq
          omega
      have left : (bytes.drop size).length = count * size := by
        rw [List.length_drop]
        omega
      rw [pieces, dif_neg notEmpty, List.length_cons, ih left]

namespace Fingerprint

theorem isDigits_digits (bytes : Bytes) : IsDigits 5 (digits bytes) := by
  have inRange : Bytes.ofBigEndian bytes % 100000 < 100000 := Nat.mod_lt _ (by decide)
  have short : (Nat.toDigits 10 (Bytes.ofBigEndian bytes % 100000)).length ≤ 5 :=
    (Nat.length_toDigits_le_iff (by decide) (by decide)).mpr inRange
  have text : (toString (Bytes.ofBigEndian bytes % 100000)).toList =
      Nat.toDigits 10 (Bytes.ofBigEndian bytes % 100000) := Nat.toList_repr
  constructor
  · rw [digits, String.length_append, ← String.length_toList, String.toList_ofList,
      List.length_replicate, ← String.length_toList, text]
    omega
  · intro digit member
    rw [digits, String.toList_append, String.toList_ofList, text] at member
    rcases List.mem_append.mp member with padding | significant
    · rw [List.eq_of_mem_replicate padding]
      decide
    · exact Nat.isDigit_of_mem_toDigits (by decide) (by decide) significant

theorem isDigits_displaySide (digest : Block 32) : IsDigits 30 (displaySide digest) := by
  have front : (digest.bytes.take 30).length = 6 * 5 := by
    rw [List.length_take, digest.length_eq]
    rfl
  have pieces := isDigits_join (List.forall_mem_map.mpr fun piece
    (_ : piece ∈ Bytes.pieces 5 (digest.bytes.take 30)) => isDigits_digits piece)
  rw [List.length_map, Bytes.length_pieces (by decide) front] at pieces
  exact pieces

theorem isDigits_display (fingerprint : Fingerprint) : IsDigits 60 fingerprint.display := by
  have ours := isDigits_displaySide fingerprint.localDigest
  have theirs := isDigits_displaySide fingerprint.remoteDigest
  unfold display
  dsimp only
  split
  · exact theirs.append ours
  · exact ours.append theirs

/-! ## The other side's fingerprint -/

/-- Each is the other with the sides swapped. -/
def Mirrors (left right : Fingerprint) : Prop :=
  left.localDigest = right.remoteDigest ∧ left.remoteDigest = right.localDigest

instance (left right : Fingerprint) : Decidable (left.Mirrors right) :=
  inferInstanceAs (Decidable (_ ∧ _))

variable {left right : Fingerprint}

theorem Mirrors.symm (mirrors : left.Mirrors right) : right.Mirrors left :=
  ⟨mirrors.2.symm, mirrors.1.symm⟩

/-- The order of the sides in the text does not depend on whose they are. -/
theorem Mirrors.display_eq (mirrors : left.Mirrors right) : left.display = right.display := by
  unfold display
  rw [mirrors.1, mirrors.2]
  dsimp only
  generalize displaySide right.localDigest = ours, displaySide right.remoteDigest = theirs
  by_cases before : theirs < ours
  · rw [if_neg (String.lt_asymm before), if_pos before]
  · by_cases after : ours < theirs
    · rw [if_pos after, if_neg before]
    · rw [if_neg before, if_neg after, String.le_antisymm (String.not_lt.mp before)
        (String.not_lt.mp after)]

theorem mirrors_create (suite : Suite) (iterations version : UInt32) (ours theirs : AuthKey)
    (chainedHash : Bytes) (useLastEpoch : Bool) :
    (create suite iterations version ours theirs chainedHash useLastEpoch).Mirrors
      (create suite iterations version theirs ours chainedHash useLastEpoch) :=
  ⟨rfl, rfl⟩

/-! ## Scanning -/

theorem decode_scannable (fingerprint : Fingerprint) :
    Payload.Combined.decode fingerprint.scannable = .ok
      { version := some fingerprint.version
        localFingerprint := some { content := some fingerprint.localDigest.bytes }
        remoteFingerprint := some { content := some fingerprint.remoteDigest.bytes } } := by
  have short (digest : Block 32) :
      (Payload.Logical.encode { content := some digest.bytes }).length < 1 <<< 63 := by
    simp only [Payload.Logical.encode, Payload.bytesField, List.length_append, digest.length_eq]
    rw [Payload.varint_of_lt (by decide), Payload.varint_of_lt (by decide)]
    decide
  apply Payload.Combined.decode_encode
  · rintro side ⟨⟩
    exact short fingerprint.localDigest
  · rintro side ⟨⟩
    exact short fingerprint.remoteDigest

/-- A scan fails just for another version, and otherwise it tells whether the sides are swapped. -/
theorem compareTo_scannable (left right : Fingerprint) :
    left.compareTo right.scannable =
      if right.version = left.version then .ok (decide (left.Mirrors right))
      else .error (.fingerprintVersion right.version left.version) := by
  unfold compareTo
  rw [decode_scannable]
  by_cases same : right.version = left.version
  · have verdict : (left.localDigest.bytes == right.remoteDigest.bytes &&
        left.remoteDigest.bytes == right.localDigest.bytes) = decide (left.Mirrors right) := by
      rw [Bool.eq_iff_iff, Bool.and_eq_true, beq_iff_eq, beq_iff_eq, decide_eq_true_iff]
      exact and_congr Block.ext_iff.symm Block.ext_iff.symm
    rw [if_pos same, ← verdict]
    exact if_neg (not_not_intro same)
  · rw [if_neg same]
    exact if_pos same

theorem Mirrors.compareTo (mirrors : left.Mirrors right) (same : right.version = left.version) :
    left.compareTo right.scannable = .ok true := by
  rw [compareTo_scannable, if_pos same, decide_eq_true mirrors]

/-- The older payload has no other side, and our own digest is not nothing. -/
theorem compareTo_legacy (left right : Fingerprint) : left.compareTo right.legacy ≠ .ok true := by
  intro matched
  obtain ⟨combined, scanning, comparing⟩ := bind_eq_ok.mp matched
  have short : right.localDigest.bytes.length < 1 <<< 63 := by
    rw [right.localDigest.length_eq]
    decide
  cases scanned : Payload.Combined.decode right.legacy with
  | error failure =>
      rw [scanned] at scanning
      cases scanning
  | ok found =>
      rw [scanned] at scanning
      cases scanning
      have noRemote := Payload.Combined.remote_of_single short scanned
      have notNothing : (left.localDigest.bytes == []) = false := by
        rw [beq_eq_false_iff_ne]
        intro isEmpty
        have length_eq := left.localDigest.length_eq
        rw [isEmpty] at length_eq
        cases length_eq
      rw [noRemote] at comparing
      dsimp only at comparing
      split at comparing
      · split at comparing
        · cases comparing
        · have same := Except.ok.inj comparing
          rw [Option.bind_none, Option.getD_none, notNothing] at same
          cases same
      · cases comparing

/-- Two parties that fingerprint the same keys see the same sixty digits, and each passes the other's
scan. In general a scan is refused just for another version, it passes just for the swapped sides, and
both parties are told the same; an older payload never passes. -/
theorem fingerprints_agree_just_when_mirrored (suite : Suite) :
    (∀ (iterations version : UInt32) (ours theirs : AuthKey) (chainedHash : Bytes)
        (useLastEpoch : Bool),
      let mine := create suite iterations version ours theirs chainedHash useLastEpoch
      let yours := create suite iterations version theirs ours chainedHash useLastEpoch
      mine.display = yours.display ∧ IsDigits 60 mine.display ∧
        mine.compareTo yours.scannable = .ok true ∧ yours.compareTo mine.scannable = .ok true) ∧
      ∀ left right : Fingerprint,
        (left.version ≠ right.version ↔ left.compareTo right.scannable =
          .error (.fingerprintVersion right.version left.version)) ∧
        (left.version = right.version → ∃ passes,
          left.compareTo right.scannable = .ok passes ∧
          right.compareTo left.scannable = .ok passes ∧
          (passes = true ↔ left.Mirrors right)) ∧
        left.compareTo right.legacy ≠ .ok true := by
  constructor
  · intro iterations version ours theirs chainedHash useLastEpoch mine yours
    have mirrors : mine.Mirrors yours := mirrors_create suite iterations version ours theirs chainedHash
      useLastEpoch
    exact ⟨mirrors.display_eq, isDigits_display mine, mirrors.compareTo rfl,
      mirrors.symm.compareTo rfl⟩
  · intro left right
    refine ⟨?version, ?verdict, compareTo_legacy left right⟩
    case version =>
      rw [compareTo_scannable]
      by_cases same : right.version = left.version
      · rw [if_pos same]
        exact ⟨fun differ => absurd same.symm differ, nofun⟩
      · rw [if_neg same]
        exact ⟨fun _ => rfl, fun _ alike => same alike.symm⟩
    case verdict =>
      intro same
      have bothWays : decide (right.Mirrors left) = decide (left.Mirrors right) :=
        decide_eq_decide.mpr ⟨Mirrors.symm, Mirrors.symm⟩
      refine ⟨decide (left.Mirrors right), ?_, ?_, decide_eq_true_iff⟩
      · rw [compareTo_scannable, if_pos same.symm]
      · rw [compareTo_scannable, if_pos same, bothWays]

end Fingerprint
end DoubleRatchet
