import DoubleRatchet.Proofs.Message.Signal
import DoubleRatchet.Proofs.Suite

/-!
# The trailer of a session message

A message is made with a code behind it, it is read without its trailer, and what is checked is again
the trailer. All three go by the configured length, and they mean the same bytes while a code can be
that long.
-/

namespace DoubleRatchet

/-! ## The version that is written -/

namespace Envelope

variable {α : Type}

/-- Half a byte of the version is written. -/
theorem high_versionByte (version : UInt8) : versionByte version >>> 4 = version % 16 := by
  obtain ⟨⟨⟨value, bound⟩⟩⟩ := version
  unfold versionByte currentVersion
  revert value
  decide +kernel

/-- What is said to a version that a message was made with. -/
def admits (version : UInt8) : Except Error UInt8 :=
  if version % 16 < currentVersion then .error (.legacyMessage (version % 16))
  else if currentVersion < version % 16 then .error (.invalidVersion (version % 16))
  else .ok currentVersion

theorem checkVersion_versionByte (version : UInt8) :
    checkVersion (versionByte version) = admits version := by
  unfold checkVersion admits
  rw [high_versionByte]
  dsimp only
  split
  · rfl
  · rename_i notBelow
    split
    · rfl
    · rename_i notAbove
      exact congrArg Except.ok
        (UInt8.le_antisymm (UInt8.not_lt.mp notAbove) (UInt8.not_lt.mp notBelow))

/-- What is cut off behind a packed body is what was put there. -/
theorem split_pack (codec : Codec α) (version : UInt8) (body : α) (trailer : Bytes) :
    split (pack codec version body ++ trailer) trailer.length = (do
      let read ← admits version
      pure { version := read, body := codec.encode body, trailer := trailer }) := by
  have long : ¬(pack codec version body ++ trailer).length ≤ trailer.length := by
    rw [pack, List.length_append, List.length_cons]
    omega
  have cut : split (pack codec version body ++ trailer) trailer.length =
      checkVersion (versionByte version) >>= fun read => pure
        { version := read
          body := (codec.encode body ++ trailer).take
            ((codec.encode body ++ trailer).length - trailer.length)
          trailer := (codec.encode body ++ trailer).drop
            ((codec.encode body ++ trailer).length - trailer.length) } := if_neg long
  rw [cut, checkVersion_versionByte, List.length_append, Nat.add_sub_cancel, List.take_left,
    List.drop_left]

end Envelope

namespace SignalMessage

variable {suite : Suite} {config : Config} {version : UInt8} {macKey : Bytes} {body : Body}
  {sender receiver : PublicKey}

/-! ## Made, read and checked -/

/-- What the code of a message covers. -/
def covered (version : UInt8) (body : Body) : Bytes :=
  Envelope.pack Body.codec version body

/-- The code at the end of a message that was made. -/
def code (suite : Suite) (config : Config) (version : UInt8) (macKey : Bytes) (body : Body)
    (sender receiver : PublicKey) : Bytes :=
  mac suite config macKey sender receiver (covered version body)

theorem serialized_make : (make suite config version macKey body sender receiver).serialized =
    covered version body ++ code suite config version macKey body sender receiver := rfl

theorem length_code (short : config.macLength ≤ 32) :
    (code suite config version macKey body sender receiver).length = config.macLength :=
  length_mac short macKey sender receiver _

/-- The trailer begins where the covered part ends. -/
theorem length_covered (short : config.macLength ≤ 32) :
    (make suite config version macKey body sender receiver).serialized.length - config.macLength =
      (covered version body).length := by
  rw [serialized_make, List.length_append, length_code short, Nat.add_sub_cancel]

/-- Only the serialized form of a message is checked. -/
theorem verifyMac_congr {message other : SignalMessage}
    (same : message.serialized = other.serialized) :
    message.verifyMac suite config sender receiver macKey =
      other.verifyMac suite config sender receiver macKey := by
  unfold verifyMac
  rw [same]

theorem split_make (short : config.macLength ≤ 32) :
    Envelope.split (make suite config version macKey body sender receiver).serialized
        config.macLength = (do
      let read ← Envelope.admits version
      pure { version := read
             body := Body.codec.encode body
             trailer := code suite config version macKey body sender receiver }) := by
  have cut := Envelope.split_pack Body.codec version body
    (code suite config version macKey body sender receiver)
  rwa [length_code short] at cut

theorem parse_make (short : config.macLength ≤ 32) (isFit : body.Fits) :
    parse config (make suite config version macKey body sender receiver).serialized =
      (Envelope.admits version).map fun read =>
        { make suite config version macKey body sender receiver with version := read } := by
  have isBody : Envelope.readBody Body.codec (Body.codec.encode body) = .ok body :=
    (Envelope.readBody_eq_ok Body.exact_codec).mpr ⟨isFit, [], (List.append_nil _).symm⟩
  rw [parse, split_make short]
  cases Envelope.admits version with
  | error failure => rfl
  | ok read =>
      simp only [ok_bind, pure_bind, isBody]
      rfl

/-- A code that can be as long as configured is appended, cut off and compared at that length: a
message that was made is authentic, and it reads back, authentic as before, if its version is the
current one. Any other version is refused, or read as the half of it that was written. -/
theorem trailer_is_agreed (suite : Suite) (config : Config) (short : config.macLength ≤ 32)
    (version : UInt8) (macKey : Bytes) {body : Body} (isFit : body.Fits)
    (sender receiver : PublicKey) :
    let made := make suite config version macKey body sender receiver
    ∃ trailer, trailer.length = config.macLength ∧
      made.serialized = covered version body ++ trailer ∧
      (∀ parts, Envelope.split made.serialized config.macLength = .ok parts →
        parts.trailer = trailer) ∧
      made.serialized.drop (made.serialized.length - config.macLength) = trailer ∧
      made.verifyMac suite config sender receiver macKey = true ∧
      parse config made.serialized =
        (Envelope.admits version).map (fun read => { made with version := read }) ∧
      (version = Envelope.currentVersion → parse config made.serialized = .ok made) ∧
      ∀ read, parse config made.serialized = .ok read →
        read.verifyMac suite config sender receiver macKey = true := by
  intro made
  have parsed : parse config made.serialized =
      (Envelope.admits version).map (fun read => { made with version := read }) :=
    parse_make short isFit
  have authentic : made.verifyMac suite config sender receiver macKey = true :=
    verifyMac_make short version macKey body sender receiver
  refine ⟨code suite config version macKey body sender receiver, length_code short, rfl, ?cut,
    ?compared, authentic, parsed, ?current, ?read⟩
  case cut =>
    intro parts isSplit
    rw [split_make short] at isSplit
    obtain ⟨_, _, settled⟩ := bind_eq_ok.mp isSplit
    cases settled
    rfl
  case compared =>
    rw [length_covered short, serialized_make, List.drop_left]
  case current =>
    rintro rfl
    exact parsed
  case read =>
    intro read isRead
    rw [← authentic]
    exact verifyMac_congr (serialized_of_parse isRead)

end SignalMessage

/-! ## Two messages -/

def SignalMessage.Body.note : Body :=
  { ratchetKey := ⟨.fill 32 5⟩
    counter := 3
    previousCounter := 1
    ciphertext := [1, 2, 3, 4, 5, 6, 7, 8, 9, 10, 11, 12] }

/-- A note under a code of the given length. -/
def SignalMessage.note (macLength : Nat) (version : UInt8) : SignalMessage :=
  .make Suite.additive { macLength } version [8] .note ⟨.fill 32 4⟩ ⟨.fill 32 2⟩

/-- A note with a whole code reads back. -/
theorem note_reads_back :
    SignalMessage.parse { macLength := 32 } (SignalMessage.note 32 3).serialized =
        .ok (SignalMessage.note 32 3) ∧
      (SignalMessage.note 32 3).verifyMac Suite.additive { macLength := 32 } ⟨.fill 32 4⟩
        ⟨.fill 32 2⟩ [8] = true := by
  obtain ⟨_, _, _, _, _, authentic, _, current, _⟩ := SignalMessage.trailer_is_agreed Suite.additive
    { macLength := 32 } (by decide) 3 [8] (show SignalMessage.Body.note.Fits by
      unfold SignalMessage.Body.Fits
      decide) ⟨.fill 32 4⟩ ⟨.fill 32 2⟩
  exact ⟨current rfl, authentic⟩

/-- A note of a later version is not read; a note under a code that is meant to be longer than a whole
one is not read either, and it is not authentic. -/
theorem notes_are_not_read :
    (SignalMessage.parse {} (SignalMessage.note 8 4).serialized).toOption = none ∧
      (SignalMessage.parse { macLength := 40 } (SignalMessage.note 40 3).serialized).toOption =
        none ∧
      (SignalMessage.note 40 3).verifyMac Suite.additive { macLength := 40 } ⟨.fill 32 4⟩
        ⟨.fill 32 2⟩ [8] = false := by
  decide +kernel

end DoubleRatchet
