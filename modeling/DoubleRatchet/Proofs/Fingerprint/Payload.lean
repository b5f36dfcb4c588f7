import DoubleRatchet.Fingerprint.Payload
import DoubleRatchet.Proofs.Codec

/-!
# What the reader makes of written fields

A number is read back from its groups of seven bits, and a field from its key and its value. A payload
with all its fields is read back field by field; a nested message that is read leaves just what follows
its announced end.
-/

namespace DoubleRatchet
namespace Payload

/-! ## Numbers -/

/-- A group of seven bits more holds 128 times as many numbers. -/
theorem groups_succ (count : Nat) : 1 <<< (7 * (count + 1)) = 128 * (1 <<< (7 * count)) := by
  rw [Nat.mul_succ, Nat.shiftLeft_add, Nat.shiftLeft_eq (1 <<< (7 * count)), Nat.mul_comm]

theorem varint_of_lt {value : Nat} (small : value < 128) : varint value = [UInt8.ofNat value] := by
  rw [varint, dif_pos small]

/-- A byte that ends a number. -/
theorem readVarintFrom_last {place value : Nat} (early : place < 9) (small : value < 128)
    (rest : Bytes) : readVarintFrom place (UInt8.ofNat value :: rest) = .ok (value, rest) := by
  have byte : (UInt8.ofNat value).toNat = value := UInt8.toNat_ofNat_of_lt' (Nat.lt_trans small (by decide))
  have isLast : UInt8.ofNat value < 128 := by
    rw [UInt8.lt_iff_toNat_lt, byte]
    exact small
  have notFull : ¬(place = 9 ∧ 2 ≤ UInt8.ofNat value) := fun full => Nat.ne_of_lt early full.1
  simp only [readVarintFrom, if_neg notFull, if_pos isLast, byte]

/-- A byte that another one follows. -/
theorem readVarintFrom_next {place group high : Nat} (early : place < 9) (small : group < 128)
    {input rest : Bytes} (later : readVarintFrom (place + 1) input = .ok (high, rest)) :
    readVarintFrom place (UInt8.ofNat (group + 128) :: input) = .ok (group + 128 * high, rest) := by
  have byte : (UInt8.ofNat (group + 128)).toNat = group + 128 :=
    UInt8.toNat_ofNat_of_lt' (Nat.add_lt_add_right small 128)
  have isNotLast : ¬UInt8.ofNat (group + 128) < 128 := by
    rw [UInt8.lt_iff_toNat_lt, byte]
    exact Nat.not_lt.mpr (Nat.le_add_left 128 group)
  have notFull : ¬(place = 9 ∧ 2 ≤ UInt8.ofNat (group + 128)) := fun full => Nat.ne_of_lt early full.1
  simp only [readVarintFrom, if_neg notFull, if_neg isNotLast, later, ok_bind, byte,
    Nat.add_sub_cancel]
  rfl

theorem readVarintFrom_varint {count place value : Nat} (fits : value < 1 <<< (7 * (count + 1)))
    (room : place + count < 9) (rest : Bytes) :
    readVarintFrom place (varint value ++ rest) = .ok (value, rest) := by
  induction count generalizing place value with
  | zero =>
      rw [varint_of_lt fits]
      exact readVarintFrom_last room fits rest
  | succ count ih =>
      by_cases small : value < 128
      · rw [varint_of_lt small]
        exact readVarintFrom_last (by omega) small rest
      · rw [groups_succ] at fits
        have later := ih (Nat.div_lt_of_lt_mul fits) (by omega : place + 1 + count < 9)
        have split : value % 128 + 128 * (value / 128) = value := Nat.mod_add_div value 128
        rw [varint, dif_neg small]
        have read := readVarintFrom_next (by omega) (Nat.mod_lt value (by decide)) later
        rw [split] at read
        exact read

/-- A number is read back from up to nine groups. -/
theorem readVarint_varint {value : Nat} (fits : value < 1 <<< 63) (rest : Bytes) :
    readVarint (varint value ++ rest) = .ok (value, rest) := by
  have groups : value < 1 <<< (7 * (8 + 1)) := fits
  exact readVarintFrom_varint groups (by decide) rest

/-! ## Fields -/

variable {tag : Nat} {rest : Bytes}

theorem readKey_varint {code : Nat} {wireType : WireType} (isCode : WireType.ofNat? code = some wireType)
    (small : code < 8) (isTag : 0 < tag) (fits : tag < 1 <<< 29) (rest : Bytes) :
    readKey (varint (8 * tag + code) ++ rest) = .ok ({ tag := tag, wireType := wireType }, rest) := by
  have read : readVarint (varint (8 * tag + code) ++ rest) = .ok (8 * tag + code, rest) :=
    readVarint_varint (by omega) rest
  have inRange : ¬0x100000000 ≤ 8 * tag + code := by omega
  have codePart : (8 * tag + code) % 8 = code := by omega
  have tagPart : (8 * tag + code) / 8 = tag := by omega
  simp only [readKey, read, ok_bind, if_neg inRange, codePart, isCode, tagPart, if_neg (Nat.ne_of_gt isTag)]
  rfl

theorem length_varint_pos (value : Nat) : 0 < (varint value).length := by
  rw [varint]
  split
  · exact Nat.zero_lt_one
  · exact Nat.succ_pos _

theorem advance_append (front rest : Bytes) : advance front.length (front ++ rest) = .ok rest := by
  have enough : ¬(front ++ rest).length < front.length := by
    rw [List.length_append]
    omega
  simp only [advance, if_neg enough, List.drop_left]

theorem readBytes_append {value : Bytes} (fits : value.length < 1 <<< 63) (tag : Nat) (rest : Bytes) :
    readBytes { tag := tag, wireType := .lengthDelimited } (varint value.length ++ value ++ rest) =
      .ok (value, rest) := by
  have read := readVarint_varint fits (value ++ rest)
  simp only [readBytes, expect, if_true, ok_bind, List.append_assoc, read, advance_append,
    List.take_left]
  rfl

theorem outside_ok {α : Type} (value : α) : outside (.ok value) = .ok value := rfl

theorem within_ok {α : Type} (field : PayloadField) (value : α) :
    within field (.ok value) = .ok value := rfl

theorem within_eq_ok {α : Type} {field : PayloadField} {result : Except PayloadError α} {value : α} :
    within field result = .ok value ↔ result = .ok value := by
  cases result with
  | error failure => exact ⟨nofun, nofun⟩
  | ok found => exact Iff.rfl

/-! ## One side's digest -/

namespace Logical

/-- What is read of a nested message ends where the message does. -/
theorem length_of_readFields {steps limit : Nat} {logical result : Logical} {input rest : Bytes}
    (read : readFields steps limit logical input = .ok (result, rest)) : rest.length = limit := by
  induction steps generalizing logical input with
  | zero => cases read
  | succ steps ih =>
      unfold readFields at read
      split at read
      · rename_i atEnd
        cases read
        exact atEnd
      · split at read
        · cases read
        · obtain ⟨⟨key, left⟩, _, reading⟩ := bind_eq_ok.mp read
          dsimp only at reading
          split at reading
          · obtain ⟨⟨content, later⟩, _, going⟩ := bind_eq_ok.mp reading
            exact ih going
          · obtain ⟨later, _, going⟩ := bind_eq_ok.mp reading
            exact ih going

theorem length_of_merge {key : Key} {logical result : Logical} {input left rest : Bytes} {length : Nat}
    (announced : readVarint input = .ok (length, left))
    (merged : merge key logical input = .ok (result, rest)) : rest.length = left.length - length := by
  obtain ⟨_, _, reading⟩ := bind_eq_ok.mp merged
  rw [announced] at reading
  simp only [outside_ok, ok_bind] at reading
  split at reading
  · cases reading
  · exact length_of_readFields reading

theorem readFields_end (steps : Nat) (logical : Logical) (rest : Bytes) :
    readFields (steps + 1) rest.length logical rest = .ok (logical, rest) := by
  simp only [readFields, if_true]

theorem readFields_content {content : Bytes} (fits : content.length < 1 <<< 63) (steps : Nat)
    (logical : Logical) (rest : Bytes) :
    readFields (steps + 2) rest.length logical (bytesField 1 content ++ rest) =
      .ok ({ content := some content }, rest) := by
  have whole : bytesField 1 content ++ rest =
      varint (8 * 1 + 2) ++ (varint content.length ++ content ++ rest) := by
    simp only [bytesField, List.append_assoc]
  have notEnd : ¬(bytesField 1 content ++ rest).length = rest.length := by
    have positive := length_varint_pos (8 * 1 + 2)
    simp only [whole, List.length_append]
    omega
  have notPast : ¬(bytesField 1 content ++ rest).length < rest.length := by
    rw [List.length_append]
    omega
  have key : readKey (bytesField 1 content ++ rest) =
      .ok ({ tag := 1, wireType := .lengthDelimited }, varint content.length ++ content ++ rest) := by
    rw [whole]
    exact readKey_varint rfl (by decide) (by decide) (by decide) _
  rw [readFields, if_neg notEnd, if_neg notPast, key]
  simp only [outside_ok, ok_bind, if_true, readBytes_append fits, within_ok]
  exact readFields_end steps _ rest

/-- A message merged into one without fields is read back. -/
theorem merge_encode {logical : Logical} (fits : logical.encode.length < 1 <<< 63) (tag : Nat)
    (rest : Bytes) :
    merge { tag := tag, wireType := .lengthDelimited } {}
      (varint logical.encode.length ++ logical.encode ++ rest) = .ok (logical, rest) := by
  have read := readVarint_varint fits (logical.encode ++ rest)
  have limit : (logical.encode ++ rest).length - logical.encode.length = rest.length := by
    rw [List.length_append]
    omega
  have enough : ¬(logical.encode ++ rest).length < logical.encode.length := by
    rw [List.length_append]
    omega
  have fields : readFields ((logical.encode ++ rest).length + 1) rest.length {}
      (logical.encode ++ rest) = .ok (logical, rest) := by
    rcases logical with ⟨_ | content⟩
    · exact readFields_end _ _ rest
    · have whole : encode { content := some content } = bytesField 1 content := rfl
      have positive := length_varint_pos (8 * 1 + 2)
      have shorter : content.length < 1 <<< 63 := by
        simp only [whole, bytesField, List.length_append] at fits
        omega
      obtain ⟨steps, steps_eq⟩ : ∃ steps, (bytesField 1 content ++ rest).length = steps + 1 := by
        apply Nat.exists_eq_succ_of_ne_zero
        simp only [bytesField, List.length_append]
        omega
      rw [whole, steps_eq]
      exact readFields_content shorter steps {} rest
  simp only [merge, expect, if_true, outside_ok, List.append_assoc, read, ok_bind, if_neg enough, limit]
  exact fields

end Logical

/-! ## Both sides' digests -/

namespace Combined

variable {steps : Nat} {wireType : WireType} {combined next : Combined} {value : Bytes}

theorem readFields_nil (steps : Nat) (combined : Combined) :
    readFields steps combined [] = .ok combined := by
  cases steps with
  | zero => rfl
  | succ steps => rfl

/-- A field is read, and the steps are still enough for what follows it. -/
theorem readFields_field (tag code : Nat) (isCode : WireType.ofNat? code = some wireType) (small : code < 8)
    (isTag : 0 < tag) (tagFits : tag < 1 <<< 29)
    (read : readField { tag := tag, wireType := wireType } combined (value ++ rest) = .ok (next, rest))
    (enough : (varint (8 * tag + code) ++ value ++ rest).length ≤ steps) :
    ∃ fewer, rest.length ≤ fewer ∧
      readFields steps combined (varint (8 * tag + code) ++ value ++ rest) =
        readFields fewer next rest := by
  have key := readKey_varint isCode small isTag tagFits (value ++ rest)
  obtain ⟨first, others, front_eq⟩ := List.exists_cons_of_length_pos (length_varint_pos (8 * tag + code))
  rw [front_eq, List.append_assoc, List.cons_append] at enough
  rw [front_eq, List.cons_append] at key
  cases steps with
  | zero => exact absurd enough (Nat.not_succ_le_zero _)
  | succ fewer =>
      refine ⟨fewer, ?_, ?_⟩
      · simp only [List.length_cons, List.length_append] at enough
        omega
      · rw [front_eq, List.append_assoc, List.cons_append, readFields, key]
        simp only [outside_ok, ok_bind, read]

def versionField (version : Option UInt32) : Bytes :=
  version.elim [] fun version => varintField 1 version.toNat

def sideField (tag : Nat) (side : Option Logical) : Bytes :=
  side.elim [] fun side => bytesField tag side.encode

theorem encode_eq (combined : Combined) : combined.encode = versionField combined.version ++
    (sideField 2 combined.localFingerprint ++ sideField 3 combined.remoteFingerprint) := by
  rcases combined with ⟨_ | version, _ | ours, _ | theirs⟩
  all_goals simp [encode, versionField, sideField]

theorem readFields_version (version : Option UInt32)
    (enough : (versionField version ++ rest).length ≤ steps) :
    ∃ fewer, rest.length ≤ fewer ∧
      readFields steps {} (versionField version ++ rest) =
        readFields fewer { version := version } rest := by
  cases version with
  | none => exact ⟨steps, enough, rfl⟩
  | some version =>
      apply readFields_field 1 0 rfl (by decide) (by decide) (by decide) _ enough
      have small : version.toNat < 1 <<< 63 := Nat.lt_trans version.toNat_lt (by decide)
      have read : readVersion { tag := 1, wireType := .varint } (varint version.toNat ++ rest) =
          .ok (version, rest) := by
        simp only [readVersion, expect, if_true, ok_bind, readVarint_varint small, UInt32.ofNat_toNat]
        rfl
      simp only [readField, if_true, read, outside_ok, within_ok, ok_bind]
      rfl

/-- The field of one side is read into the place that `put` fills. -/
theorem readFields_side (tag : Nat) (put : Option Logical → Combined) (isTag : 0 < tag)
    (tagFits : tag < 1 <<< 29) {side : Option Logical}
    (reading : ∀ logical left, Logical.merge { tag := tag, wireType := .lengthDelimited } {}
        left = .ok (logical, rest) →
      readField { tag := tag, wireType := .lengthDelimited } (put none) left =
        .ok (put (some logical), rest))
    (fits : ∀ logical, side = some logical → logical.encode.length < 1 <<< 63)
    (enough : (sideField tag side ++ rest).length ≤ steps) :
    ∃ fewer, rest.length ≤ fewer ∧
      readFields steps (put none) (sideField tag side ++ rest) = readFields fewer (put side) rest := by
  cases side with
  | none => exact ⟨steps, enough, rfl⟩
  | some logical =>
      have merged := Logical.merge_encode (fits logical rfl) tag rest
      have written : sideField tag (some logical) =
          varint (8 * tag + 2) ++ (varint logical.encode.length ++ logical.encode) :=
        List.append_assoc _ _ _
      rw [written] at enough ⊢
      exact readFields_field tag 2 rfl (by decide) isTag tagFits (reading _ _ merged) enough

/-- A payload is read back, whichever of its fields it has. -/
theorem decode_encode {combined : Combined}
    (localFits : ∀ side, combined.localFingerprint = some side → side.encode.length < 1 <<< 63)
    (remoteFits : ∀ side, combined.remoteFingerprint = some side → side.encode.length < 1 <<< 63) :
    decode combined.encode = .ok combined := by
  rcases combined with ⟨version, ours, theirs⟩
  let withOurs (side : Option Logical) : Combined := { version, localFingerprint := side }
  let withTheirs (side : Option Logical) : Combined :=
    { version, localFingerprint := ours, remoteFingerprint := side }
  have written : encode { version, localFingerprint := ours, remoteFingerprint := theirs } =
      versionField version ++ (sideField 2 ours ++ (sideField 3 theirs ++ [])) := by
    rw [List.append_nil]
    exact encode_eq _
  rw [decode, written]
  obtain ⟨steps, enough, afterVersion⟩ := readFields_version version
    (Nat.le_refl (versionField version ++ (sideField 2 ours ++ (sideField 3 theirs ++ []))).length)
  obtain ⟨fewer, enough, afterOurs⟩ := readFields_side 2 withOurs (by decide) (by decide)
    (fun logical left merged => by
      rw [readField, if_neg (by decide), if_pos rfl]
      simp only [withOurs, Option.getD_none, merged, within_ok, ok_bind]
      rfl) localFits enough
  obtain ⟨last, _, afterTheirs⟩ := readFields_side 3 withTheirs (by decide) (by decide)
    (fun logical left merged => by
      rw [readField, if_neg (by decide), if_neg (by decide), if_pos rfl]
      simp only [withTheirs, Option.getD_none, merged, within_ok, ok_bind]
      rfl) remoteFits enough
  rw [afterVersion]
  exact afterOurs.trans (afterTheirs.trans (readFields_nil last _))

theorem readFields_eq_ok {key : Key} {input left : Bytes} {result : Combined} (some_left : input ≠ [])
    (isKey : readKey input = .ok (key, left)) (read : readFields steps combined input = .ok result) :
    ∃ next rest fewer, readField key combined left = .ok (next, rest) ∧
      readFields fewer next rest = .ok result := by
  obtain ⟨first, others, rfl⟩ := List.exists_cons_of_ne_nil some_left
  cases steps with
  | zero => cases read
  | succ fewer =>
      rw [readFields, isKey, outside_ok, ok_bind] at read
      obtain ⟨⟨next, rest⟩, field, later⟩ := bind_eq_ok.mp read
      exact ⟨next, rest, fewer, field, later⟩

/-- Whatever the bytes in the place of one side are read as, nothing is left of the input that could be
the other side. -/
theorem remote_of_single {version : UInt32} {content : Bytes} {combined : Combined}
    (fits : content.length < 1 <<< 63)
    (decoded : decode (varintField 1 version.toNat ++ bytesField 2 content) = .ok combined) :
    combined.remoteFingerprint = none := by
  obtain ⟨steps, _, afterVersion⟩ := readFields_version (some version)
    (Nat.le_refl (versionField (some version) ++ bytesField 2 content).length)
  have written : bytesField 2 content =
      varint (8 * 2 + 2) ++ (varint content.length ++ content) := List.append_assoc _ _ _
  have some_left : bytesField 2 content ≠ [] := by
    have positive := length_varint_pos (8 * 2 + 2)
    rw [written]
    exact List.append_ne_nil_of_left_ne_nil (List.ne_nil_of_length_pos positive) _
  have key : readKey (bytesField 2 content) =
      .ok ({ tag := 2, wireType := .lengthDelimited }, varint content.length ++ content) := by
    rw [written]
    exact readKey_varint rfl (by decide) (by decide) (by decide) _
  have side := afterVersion.symm.trans decoded
  obtain ⟨next, rest, fewer, field, later⟩ := readFields_eq_ok some_left key side
  rw [readField, if_neg (by decide), if_pos rfl] at field
  obtain ⟨⟨logical, left⟩, merging, settled⟩ := bind_eq_ok.mp field
  cases settled
  have merged := within_eq_ok.mp merging
  have nothing : rest.length = content.length - content.length :=
    Logical.length_of_merge (readVarint_varint fits content) merged
  rw [Nat.sub_self] at nothing
  rw [List.eq_nil_of_length_eq_zero nothing, readFields_nil] at later
  cases later
  rfl

end Combined

end Payload
end DoubleRatchet
