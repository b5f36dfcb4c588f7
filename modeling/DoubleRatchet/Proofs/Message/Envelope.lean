import DoubleRatchet.Message.Envelope
import DoubleRatchet.Proofs.Codec

/-!
# What an envelope holds

A message holds a body if its version byte is of the current version and the body is written in front
of all that stands between this byte and the trailer. A reader finds the body that a message holds, and
has to refuse every other message: for its version, or as an invalid one.
-/

namespace DoubleRatchet
namespace Envelope

variable {α β : Type} {codec : Codec α} {fits : α → Prop} {body other : α} {trailerLength : Nat}
  {data : Bytes} {parts : Parts} {byte version : UInt8} {failure : Error}

/-! ## The version byte -/

theorem checkVersion_eq_ok :
    checkVersion byte = .ok version ↔ byte >>> 4 = currentVersion ∧ version = currentVersion := by
  unfold checkVersion
  constructor
  · intro checked
    dsimp only at checked
    split at checked
    · cases checked
    · rename_i notBelow
      split at checked
      · cases checked
      · rename_i notAbove
        cases checked
        have same := UInt8.le_antisymm (UInt8.not_lt.mp notAbove) (UInt8.not_lt.mp notBelow)
        exact ⟨same, same⟩
  · rintro ⟨current, rfl⟩
    simp only [current]
    rfl

theorem checkVersion_eq_error (refused : checkVersion byte = .error failure) :
    (byte >>> 4 < currentVersion ∧ failure = .legacyMessage (byte >>> 4)) ∨
      (currentVersion < byte >>> 4 ∧ failure = .invalidVersion (byte >>> 4)) := by
  unfold checkVersion at refused
  dsimp only at refused
  split at refused
  · rename_i below
    cases refused
    exact .inl ⟨below, rfl⟩
  · split at refused
    · rename_i above
      cases refused
      exact .inr ⟨above, rfl⟩
    · cases refused

/-! ## Version byte, body and trailer -/

/-- What follows the body in its part of the message is free. -/
def Holds (codec : Codec α) (trailerLength : Nat) (data : Bytes) (body : α) : Prop :=
  ∃ first rest trailer, data = first :: (codec.encode body ++ rest ++ trailer) ∧
    first >>> 4 = currentVersion ∧ trailer.length = trailerLength

/-- What is said to a message that cannot be read: its version, if it is long enough to have one and
that is not the current one, and otherwise that it is invalid. -/
inductive Rejects (trailerLength : Nat) : Bytes → Error → Prop where
  | legacy {first : UInt8} {rest : Bytes} (long : trailerLength < (first :: rest).length)
      (below : first >>> 4 < currentVersion) :
      Rejects trailerLength (first :: rest) (.legacyMessage (first >>> 4))
  | unknown {first : UInt8} {rest : Bytes} (long : trailerLength < (first :: rest).length)
      (above : currentVersion < first >>> 4) :
      Rejects trailerLength (first :: rest) (.invalidVersion (first >>> 4))
  | invalid {data : Bytes} (reason : MessageError)
      (current : ∀ first rest, data = first :: rest → trailerLength < data.length →
        first >>> 4 = currentVersion) :
      Rejects trailerLength data (.invalidMessage reason)

theorem Rejects.of_current {first : UInt8} (current : first >>> 4 = currentVersion) (rest : Bytes)
    (reason : MessageError) : Rejects trailerLength (first :: rest) (.invalidMessage reason) := by
  apply Rejects.invalid
  rintro other others same _
  rw [← (List.cons.inj same).1]
  exact current

theorem Holds.length_lt (holds : Holds codec trailerLength data body) :
    trailerLength < data.length := by
  obtain ⟨first, rest, trailer, rfl, _, rfl⟩ := holds
  rw [List.length_cons, List.length_append]
  omega

theorem Holds.rejects_invalid (holds : Holds codec trailerLength data body) (reason : MessageError) :
    Rejects trailerLength data (.invalidMessage reason) := by
  obtain ⟨first, rest, trailer, rfl, current, _⟩ := holds
  exact .of_current current _ reason

theorem split_eq_ok (isSplit : split data trailerLength = .ok parts) :
    parts.version = currentVersion ∧ parts.trailer.length = trailerLength ∧
      ∃ first, data = first :: (parts.body ++ parts.trailer) ∧ first >>> 4 = currentVersion := by
  unfold split at isSplit
  cases data with
  | nil => cases isSplit
  | cons first rest =>
      dsimp only at isSplit
      split at isSplit
      · cases isSplit
      · rename_i long
        obtain ⟨version, checked, settled⟩ := bind_eq_ok.mp isSplit
        cases settled
        obtain ⟨current, rfl⟩ := checkVersion_eq_ok.mp checked
        rw [List.length_cons] at long
        refine ⟨rfl, ?_, first, ?_, current⟩
        · rw [List.length_drop]
          omega
        · rw [List.take_append_drop]

theorem split_of_parts {first : UInt8} {front trailer : Bytes} (current : first >>> 4 = currentVersion) :
    split (first :: (front ++ trailer)) trailer.length =
      .ok { version := currentVersion, body := front, trailer := trailer } := by
  have long : ¬(first :: (front ++ trailer)).length ≤ trailer.length := by
    rw [List.length_cons, List.length_append]
    omega
  have checked : checkVersion first = .ok currentVersion := checkVersion_eq_ok.mpr ⟨current, rfl⟩
  simp only [split, if_neg long, checked, List.length_append, Nat.add_sub_cancel, List.take_left,
    List.drop_left]
  rfl

theorem split_eq_error (refused : split data trailerLength = .error failure) :
    Rejects trailerLength data failure := by
  unfold split at refused
  cases data with
  | nil =>
      cases refused
      exact .invalid _ nofun
  | cons first rest =>
      dsimp only at refused
      split at refused
      · rename_i short
        cases refused
        apply Rejects.invalid
        intro _ _ _ long
        exact absurd short (Nat.not_le_of_lt long)
      · rename_i long
        cases checked : checkVersion first with
        | ok version =>
            rw [checked] at refused
            cases refused
        | error reason =>
            rw [checked] at refused
            cases refused
            rcases checkVersion_eq_error checked with ⟨below, rfl⟩ | ⟨above, rfl⟩
            · exact .legacy (Nat.lt_of_not_le long) below
            · exact .unknown (Nat.lt_of_not_le long) above

/-! ## Reading the body -/

theorem readBody_eq_ok (exact : codec.Exact fits) {front : Bytes} :
    readBody codec front = .ok body ↔ fits body ∧ ∃ rest, front = codec.encode body ++ rest := by
  rw [← exact.decodeFront_eq_ok, readBody]
  cases codec.decodeFront front with
  | error reason => exact ⟨nofun, nofun⟩
  | ok value => exact ⟨fun same => congrArg _ (Except.ok.inj same), congrArg _⟩

theorem readBody_eq_error {front : Bytes} (refused : readBody codec front = .error failure) :
    ∃ reason, failure = .invalidMessage (.malformedBody reason) := by
  unfold readBody at refused
  cases found : codec.decodeFront front with
  | ok value =>
      rw [found] at refused
      cases refused
  | error reason =>
      rw [found] at refused
      cases refused
      exact ⟨reason, rfl⟩

/-- The body that a message holds. -/
def unpack (codec : Codec α) (trailerLength : Nat) (data : Bytes) : Except Error α := do
  let parts ← split data trailerLength
  readBody codec parts.body

/-- Nothing that comes after the body depends on anything but the body: the version is the current
one. -/
theorem unpack_bind (next : UInt8 → α → Except Error β) :
    (do let parts ← split data trailerLength
        let body ← readBody codec parts.body
        next parts.version body) = unpack codec trailerLength data >>= next currentVersion := by
  unfold unpack
  cases isSplit : split data trailerLength with
  | error reason => rfl
  | ok parts =>
      simp only [ok_bind, (split_eq_ok isSplit).1]

theorem unpack_eq_ok (exact : codec.Exact fits) :
    unpack codec trailerLength data = .ok body ↔
      fits body ∧ Holds codec trailerLength data body := by
  unfold unpack
  constructor
  · intro unpacked
    obtain ⟨parts, isSplit, isBody⟩ := bind_eq_ok.mp unpacked
    obtain ⟨_, length_eq, first, data_eq, current⟩ := split_eq_ok isSplit
    obtain ⟨isFit, rest, front_eq⟩ := (readBody_eq_ok exact).mp isBody
    rw [front_eq] at data_eq
    exact ⟨isFit, first, rest, parts.trailer, data_eq, current, length_eq⟩
  · rintro ⟨isFit, first, rest, trailer, rfl, current, rfl⟩
    rw [split_of_parts current]
    exact (readBody_eq_ok exact).mpr ⟨isFit, rest, rfl⟩

theorem Holds.unique (exact : codec.Exact fits) (isFit : fits body) (otherFits : fits other)
    (holds : Holds codec trailerLength data body) (holdsOther : Holds codec trailerLength data other) :
    body = other := by
  have found := (unpack_eq_ok exact).mpr ⟨isFit, holds⟩
  rw [(unpack_eq_ok exact).mpr ⟨otherFits, holdsOther⟩] at found
  exact (Except.ok.inj found).symm

theorem unpack_eq_error (refused : unpack codec trailerLength data = .error failure) :
    Rejects trailerLength data failure := by
  unfold unpack at refused
  cases isSplit : split data trailerLength with
  | error reason =>
      rw [isSplit] at refused
      cases refused
      exact split_eq_error isSplit
  | ok parts =>
      rw [isSplit] at refused
      obtain ⟨reason, rfl⟩ := readBody_eq_error refused
      obtain ⟨_, _, first, rfl, current⟩ := split_eq_ok isSplit
      exact .of_current current _ _

/-- A reader accepts the data if they hold a body that it accepts. -/
theorem unpack_bind_eq_ok (exact : codec.Exact fits) {next : α → Except Error β} {message : β} :
    (unpack codec trailerLength data >>= next) = .ok message ↔
      ∃ body, fits body ∧ Holds codec trailerLength data body ∧ next body = .ok message := by
  rw [bind_eq_ok]
  constructor
  · rintro ⟨body, unpacked, accepted⟩
    obtain ⟨isFit, holds⟩ := (unpack_eq_ok exact).mp unpacked
    exact ⟨body, isFit, holds, accepted⟩
  · rintro ⟨body, isFit, holds, accepted⟩
    exact ⟨body, (unpack_eq_ok exact).mpr ⟨isFit, holds⟩, accepted⟩

/-- A reader refuses the data because they hold no body, or because of the body that they hold. -/
theorem unpack_bind_eq_error (exact : codec.Exact fits) {next : α → Except Error β}
    (refused : (unpack codec trailerLength data >>= next) = .error failure) :
    (Rejects trailerLength data failure ∧ ∀ body, fits body → ¬Holds codec trailerLength data body) ∨
      ∃ body, fits body ∧ Holds codec trailerLength data body ∧ next body = .error failure := by
  cases unpacked : unpack codec trailerLength data with
  | error reason =>
      rw [unpacked] at refused
      cases refused
      refine .inl ⟨unpack_eq_error unpacked, ?_⟩
      intro body isFit holds
      rw [(unpack_eq_ok exact).mpr ⟨isFit, holds⟩] at unpacked
      cases unpacked
  | ok body =>
      rw [unpacked] at refused
      obtain ⟨isFit, holds⟩ := (unpack_eq_ok exact).mp unpacked
      exact .inr ⟨body, isFit, holds, refused⟩

/-- A message that was packed here holds its body. -/
theorem holds_pack (codec : Codec α) (body : α) (trailer : Bytes) :
    Holds codec trailer.length (pack codec currentVersion body ++ trailer) body :=
  ⟨versionByte currentVersion, [], trailer, by rw [List.append_nil]; rfl, rfl, rfl⟩

end Envelope
end DoubleRatchet
