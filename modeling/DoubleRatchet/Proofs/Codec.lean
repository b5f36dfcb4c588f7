import DoubleRatchet.Key

/-!
# Reading what was written

The written form of a value is read back as the value, whatever follows it, and what follows is left.
A codec is exact if it reads nothing else: whatever it reads a value from begins with the written form
of the value. A codec made of others is exact where its parts are.
-/

namespace DoubleRatchet

namespace Bytes

/-- A byte more holds 256 times as many numbers. -/
theorem limit_succ (width : Nat) : 1 <<< (8 * (width + 1)) = 256 * (1 <<< (8 * width)) := by
  rw [Nat.mul_succ, Nat.shiftLeft_add, Nat.shiftLeft_eq (1 <<< (8 * width)), Nat.mul_comm]

theorem ofLittleEndian_littleEndian {width value : Nat} (fits : value < 1 <<< (8 * width)) :
    ofLittleEndian (littleEndian width value) = value := by
  induction width generalizing value with
  | zero => exact (Nat.lt_one_iff.mp fits).symm
  | succ width ih =>
      rw [limit_succ] at fits
      simp only [littleEndian, ofLittleEndian, ih (Nat.div_lt_of_lt_mul fits), UInt8.toNat_ofNat']
      exact Nat.mod_add_div value 256

theorem ofLittleEndian_lt (bytes : Bytes) : ofLittleEndian bytes < 1 <<< (8 * bytes.length) := by
  induction bytes with
  | nil => decide
  | cons byte rest ih =>
      have low := byte.toNat_lt
      rw [List.length_cons, limit_succ]
      simp only [ofLittleEndian]
      omega

theorem littleEndian_ofLittleEndian (bytes : Bytes) :
    littleEndian bytes.length (ofLittleEndian bytes) = bytes := by
  induction bytes with
  | nil => rfl
  | cons byte rest ih =>
      have low := byte.toNat_lt
      have high : (byte.toNat + 256 * ofLittleEndian rest) / 256 = ofLittleEndian rest := by omega
      simp only [ofLittleEndian, List.length_cons, littleEndian, high, ih]
      congr 1
      apply UInt8.toNat_inj.mp
      rw [UInt8.toNat_ofNat']
      omega

end Bytes

namespace Block

theorem ofBytes?_eq_some {size : Nat} {bytes : Bytes} {block : Block size} :
    ofBytes? size bytes = some block ↔ bytes = block.bytes := by
  unfold ofBytes?
  constructor
  · intro found
    split at found
    · cases found
      rfl
    · cases found
  · rintro rfl
    exact dif_pos block.length_eq

theorem toNat_lt {size : Nat} (block : Block size) : block.toNat < 1 <<< (8 * size) := by
  have bound := Bytes.ofLittleEndian_lt block.bytes
  rwa [block.length_eq] at bound

theorem toNat_littleEndian {size value : Nat} (fits : value < 1 <<< (8 * size)) :
    (littleEndian size value).toNat = value :=
  Bytes.ofLittleEndian_littleEndian fits

theorem littleEndian_toNat {size : Nat} (block : Block size) :
    littleEndian size block.toNat = block := by
  have written := Bytes.littleEndian_ofLittleEndian block.bytes
  rw [block.length_eq] at written
  exact Block.ext written

theorem halves_append (left right : Block 32) : (left.append right).halves = (left, right) := by
  have left_eq : ((left.bytes ++ right.bytes).drop 0).take 32 = left.bytes :=
    List.take_left' left.length_eq
  have right_eq : ((left.bytes ++ right.bytes).drop 32).take 32 = right.bytes := by
    rw [List.drop_left' left.length_eq, List.take_of_length_le (Nat.le_of_eq right.length_eq)]
  exact Prod.ext (Block.ext left_eq) (Block.ext right_eq)

end Block

/-- A reading that succeeded hands on what it read. -/
theorem ok_bind {ε α β : Type} (value : α) (next : α → Except ε β) :
    (Except.ok value >>= next) = next value := rfl

theorem bind_eq_ok {ε α β : Type} {first : Except ε α} {next : α → Except ε β} {value : β} :
    (first >>= next) = .ok value ↔ ∃ read, first = .ok read ∧ next read = .ok value := by
  cases first with
  | error failure =>
      constructor
      · exact nofun
      · rintro ⟨read, found, _⟩
        cases found
  | ok read =>
      constructor
      · exact fun found => ⟨read, rfl, found⟩
      · rintro ⟨other, found, rest⟩
        cases found
        exact rest

namespace Codec

variable {α β : Type} {codec : Codec α} {second : Codec β} {value : α}

/-- The codec reads the value where it wrote it, and leaves what follows. -/
def Reads (codec : Codec α) (value : α) : Prop :=
  ∀ rest, codec.decode (codec.encode value ++ rest) = .ok (value, rest)

theorem takeBytes_append {size : Nat} (shortage : DecodeError) (front : Block size) (rest : Bytes) :
    takeBytes shortage size (front.bytes ++ rest) = .ok (front, rest) := by
  have taken : (front.bytes ++ rest).take size = front.bytes := List.take_left' front.length_eq
  have left : (front.bytes ++ rest).drop size = rest := List.drop_left' front.length_eq
  simp only [takeBytes, taken, left, front.length_eq, dif_pos]

theorem reads_number {width value : Nat} (fits : value < 1 <<< (8 * width)) :
    (number width).Reads value := by
  intro rest
  have taken := takeBytes_append .endOfInput (Block.littleEndian width value) rest
  simp only [Block.littleEndian] at taken
  simp only [number, taken]
  exact congrArg (fun number => Except.ok (number, rest)) (Bytes.ofLittleEndian_littleEndian fits)

theorem Reads.map {toWritten : β → α} {ofWritten : α → β} {view : β}
    (reads : codec.Reads (toWritten view)) (inverse : ofWritten (toWritten view) = view) :
    (codec.map ofWritten toWritten).Reads view := by
  intro rest
  simp only [Codec.map, reads rest]
  exact congrArg (fun view => Except.ok (view, rest)) inverse

theorem Reads.filterMap {toWritten : β → α} {ofWritten : α → Except DecodeError β} {view : β}
    (reads : codec.Reads (toWritten view)) (inverse : ofWritten (toWritten view) = .ok view) :
    (codec.filterMap ofWritten toWritten).Reads view := by
  intro rest
  simp only [Codec.filterMap, reads rest, ok_bind, inverse]
  rfl

theorem Reads.pair {left : α} {right : β} (readsLeft : codec.Reads left)
    (readsRight : second.Reads right) : (codec.pair second).Reads (left, right) := by
  intro rest
  simp only [Codec.pair, List.append_assoc, readsLeft (second.encode right ++ rest), ok_bind,
    readsRight rest]
  rfl

/-- Eight bytes hold the length of every string that fits into a memory. -/
theorem reads_counted (shortage : DecodeError) {value : Bytes} (fits : value.length < 1 <<< 64) :
    (counted shortage).Reads value := by
  intro rest
  have length : (number 8).Reads value.length := reads_number fits
  have taken := takeBytes_append shortage (⟨value, rfl⟩ : Block value.length) rest
  simp only [counted, List.append_assoc, length (value ++ rest), ok_bind, taken]
  rfl

theorem reads_none (codec : Codec α) : codec.optional.Reads none := fun _ => rfl

theorem Reads.some (reads : codec.Reads value) : codec.optional.Reads (some value) := by
  intro rest
  simp only [optional, byte, List.cons_append, ok_bind, reads rest]
  rfl

/-! ## Reading nothing else -/

/-- The codec reads the values that fit where it wrote them, and reads nothing else. -/
structure Exact (codec : Codec α) (fits : α → Prop) : Prop where
  reads : ∀ value, fits value → codec.Reads value
  written : ∀ {input value rest}, codec.decode input = .ok (value, rest) →
    fits value ∧ input = codec.encode value ++ rest

theorem exact_byte : byte.Exact fun _ => True where
  reads _ _ _ := rfl
  written := by
    intro input value rest decoded
    cases input with
    | nil => cases decoded
    | cons first others =>
        cases decoded
        exact ⟨trivial, rfl⟩

namespace Exact

variable {fits allowed : α → Prop} {fitsRight : β → Prop}

theorem congr (exact : codec.Exact fits) (same : ∀ value, fits value ↔ allowed value) :
    codec.Exact allowed where
  reads value fits := exact.reads value ((same value).mpr fits)
  written decoded := (exact.written decoded).imp_left (same _).mp

theorem decodeFront_eq_ok (exact : codec.Exact fits) {input : Bytes} :
    codec.decodeFront input = .ok value ↔
      fits value ∧ ∃ rest, input = codec.encode value ++ rest := by
  unfold Codec.decodeFront
  constructor
  · intro found
    cases decoded : codec.decode input with
    | error failure =>
        rw [decoded] at found
        cases found
    | ok read =>
        rw [decoded] at found
        cases found
        obtain ⟨isFit, input_eq⟩ := exact.written decoded
        exact ⟨isFit, read.2, input_eq⟩
  · rintro ⟨isFit, rest, rfl⟩
    rw [exact.reads value isFit rest]
    rfl

/-- What is cut short is refused: a value read from it would be read from the whole, and would leave
what was cut. -/
theorem decode_of_cut (exact : codec.Exact fits) (isFit : fits value) {front cut : Bytes}
    (whole : codec.encode value = front ++ cut) (short : cut ≠ []) :
    ∃ failure, codec.decode front = .error failure := by
  cases decoded : codec.decode front with
  | error failure => exact ⟨failure, rfl⟩
  | ok read =>
      obtain ⟨other, left⟩ := read
      obtain ⟨otherFits, front_eq⟩ := exact.written decoded
      have readWhole := exact.reads value isFit []
      have readFront := exact.reads other otherFits (left ++ cut)
      rw [List.append_nil, whole, front_eq, List.append_assoc, readFront] at readWhole
      obtain ⟨_, nothing⟩ := Prod.mk.inj (Except.ok.inj readWhole)
      exact absurd (List.append_eq_nil_iff.mp nothing).2 short

theorem map {toWritten : β → α} {ofWritten : α → β} (exact : codec.Exact fits)
    (inverse : ∀ view, ofWritten (toWritten view) = view)
    (back : ∀ value, fits value → toWritten (ofWritten value) = value) :
    (codec.map ofWritten toWritten).Exact fun view => fits (toWritten view) where
  reads view isFit := (exact.reads _ isFit).map (inverse view)
  written := by
    intro input view rest decoded
    obtain ⟨⟨value, left⟩, found, viewed⟩ := bind_eq_ok.mp decoded
    cases viewed
    obtain ⟨isFit, input_eq⟩ := exact.written found
    simp only [Codec.map, back value isFit]
    exact ⟨isFit, input_eq⟩

theorem filterMap {toWritten : β → α} {ofWritten : α → Except DecodeError β}
    (exact : codec.Exact fits)
    (inverse : ∀ value view, ofWritten value = .ok view ↔ value = toWritten view) :
    (codec.filterMap ofWritten toWritten).Exact fun view => fits (toWritten view) where
  reads view isFit := (exact.reads _ isFit).filterMap ((inverse _ view).mpr rfl)
  written := by
    intro input view rest decoded
    obtain ⟨⟨value, left⟩, found, viewing⟩ := bind_eq_ok.mp decoded
    obtain ⟨viewed, isView, settled⟩ := bind_eq_ok.mp viewing
    cases settled
    obtain rfl := (inverse value view).mp isView
    exact exact.written found

theorem pair (exact : codec.Exact fits) (exactSecond : second.Exact fitsRight) :
    (codec.pair second).Exact fun value => fits value.1 ∧ fitsRight value.2 where
  reads value isFit := (exact.reads _ isFit.1).pair (exactSecond.reads _ isFit.2)
  written := by
    intro input value rest decoded
    obtain ⟨⟨left, middle⟩, foundLeft, reading⟩ := bind_eq_ok.mp decoded
    obtain ⟨⟨right, last⟩, foundRight, settled⟩ := bind_eq_ok.mp reading
    cases settled
    obtain ⟨fitsLeft, input_eq⟩ := exact.written foundLeft
    obtain ⟨fitsRight, middle_eq⟩ := exactSecond.written foundRight
    refine ⟨⟨fitsLeft, fitsRight⟩, ?_⟩
    rw [input_eq, middle_eq]
    exact (List.append_assoc _ _ _).symm

theorem optional (exact : codec.Exact fits) :
    codec.optional.Exact fun value => ∀ present, value = some present → fits present where
  reads value isFit := by
    cases value with
    | none => exact reads_none codec
    | some present => exact (exact.reads present (isFit present rfl)).some
  written := by
    intro input value rest decoded
    obtain ⟨⟨tag, left⟩, foundTag, reading⟩ := bind_eq_ok.mp decoded
    obtain ⟨_, input_eq⟩ := exact_byte.written foundTag
    dsimp only at reading
    split at reading
    · rename_i isNone
      cases reading
      exact ⟨nofun, by rw [input_eq, isNone]; rfl⟩
    · split at reading
      · rename_i isSome
        obtain ⟨⟨present, last⟩, found, settled⟩ := bind_eq_ok.mp reading
        cases settled
        obtain ⟨isFit, left_eq⟩ := exact.written found
        refine ⟨?_, by rw [input_eq, isSome, left_eq]; rfl⟩
        rintro other ⟨⟩
        exact isFit
      · cases reading

end Exact

theorem takeBytes_eq_ok {shortage : DecodeError} {size : Nat} {input rest : Bytes}
    {front : Block size} (taken : takeBytes shortage size input = .ok (front, rest)) :
    input = front.bytes ++ rest := by
  unfold takeBytes at taken
  dsimp only at taken
  split at taken
  · cases taken
    exact (List.take_append_drop size input).symm
  · cases taken

theorem exact_block (size : Nat) : (block size).Exact fun _ => True where
  reads value _ rest := takeBytes_append .endOfInput value rest
  written decoded := ⟨trivial, takeBytes_eq_ok decoded⟩

theorem exact_number (width : Nat) : (number width).Exact fun value => value < 1 <<< (8 * width) where
  reads _ isFit := reads_number isFit
  written := by
    intro input value rest decoded
    obtain ⟨⟨bytes, left⟩, taken, settled⟩ := bind_eq_ok.mp decoded
    cases settled
    have length_eq := bytes.length_eq
    have below := Bytes.ofLittleEndian_lt bytes.bytes
    have same := Bytes.littleEndian_ofLittleEndian bytes.bytes
    rw [length_eq] at below same
    refine ⟨below, ?_⟩
    simp only [number, Block.toNat, same]
    exact takeBytes_eq_ok taken

theorem exact_word32 : word32.Exact fun _ => True := by
  have exact : word32.Exact fun value => value.toNat < 1 <<< (8 * 4) :=
    (exact_number 4).map (fun _ => UInt32.ofNat_toNat) fun _ isFit => UInt32.toNat_ofNat_of_lt' isFit
  exact exact.congr fun value => iff_true_intro value.toNat_lt

theorem exact_word64 : word64.Exact fun _ => True := by
  have exact : word64.Exact fun value => value.toNat < 1 <<< (8 * 8) :=
    (exact_number 8).map (fun _ => UInt64.ofNat_toNat) fun _ isFit => UInt64.toNat_ofNat_of_lt' isFit
  exact exact.congr fun value => iff_true_intro value.toNat_lt

theorem exact_counted (shortage : DecodeError) :
    (counted shortage).Exact fun value => value.length < 1 <<< 64 where
  reads _ isFit := reads_counted shortage isFit
  written := by
    intro input value rest decoded
    obtain ⟨⟨length, left⟩, foundLength, reading⟩ := bind_eq_ok.mp decoded
    obtain ⟨⟨bytes, last⟩, taken, settled⟩ := bind_eq_ok.mp reading
    cases settled
    obtain ⟨isFit, input_eq⟩ := (exact_number 8).written foundLength
    have left_eq := takeBytes_eq_ok taken
    have length_eq := bytes.length_eq
    refine ⟨by rw [length_eq]; exact isFit, ?_⟩
    simp only [counted, length_eq, List.append_assoc, ← left_eq]
    exact input_eq

/-! ### Lists -/

theorem decodeMany_append {values : List α} (reads : ∀ value ∈ values, codec.Reads value)
    (rest : Bytes) :
    codec.decodeMany values.length (values.flatMap codec.encode ++ rest) = .ok (values, rest) := by
  induction values with
  | nil => rfl
  | cons value values ih =>
      have readsFirst := reads value List.mem_cons_self (values.flatMap codec.encode ++ rest)
      have readsLater := ih fun other member => reads other (List.mem_cons_of_mem _ member)
      simp only [List.length_cons, List.flatMap_cons, List.append_assoc, decodeMany, readsFirst,
        ok_bind, readsLater]
      rfl

theorem Exact.decodeMany_eq_ok {fits : α → Prop} (exact : codec.Exact fits) {count : Nat}
    {input rest : Bytes} {values : List α}
    (decoded : codec.decodeMany count input = .ok (values, rest)) :
    values.length = count ∧ (∀ value ∈ values, fits value) ∧
      input = values.flatMap codec.encode ++ rest := by
  induction count generalizing input values with
  | zero =>
      cases decoded
      exact ⟨rfl, nofun, rfl⟩
  | succ count ih =>
      obtain ⟨⟨value, left⟩, found, reading⟩ := bind_eq_ok.mp decoded
      obtain ⟨⟨others, last⟩, foundOthers, settled⟩ := bind_eq_ok.mp reading
      cases settled
      obtain ⟨isFit, input_eq⟩ := exact.written found
      obtain ⟨length_eq, othersFit, left_eq⟩ := ih foundOthers
      refine ⟨congrArg Nat.succ length_eq, List.forall_mem_cons.mpr ⟨isFit, othersFit⟩, ?_⟩
      rw [input_eq, left_eq, List.flatMap_cons, List.append_assoc]

/-- Eight bytes hold the length of every list that fits into a memory. -/
theorem Exact.list {fits : α → Prop} (exact : codec.Exact fits) :
    codec.list.Exact fun values => values.length < 1 <<< 64 ∧ ∀ value ∈ values, fits value where
  reads values isFit := by
    intro rest
    have length : (number 8).Reads values.length := reads_number isFit.1
    have many := decodeMany_append (fun value member => exact.reads value (isFit.2 value member)) rest
    simp only [Codec.list, List.append_assoc, length (values.flatMap codec.encode ++ rest), ok_bind, many]
  written := by
    intro input values rest decoded
    obtain ⟨⟨length, left⟩, foundLength, reading⟩ := bind_eq_ok.mp decoded
    obtain ⟨isFit, input_eq⟩ := (exact_number 8).written foundLength
    obtain ⟨length_eq, allFit, left_eq⟩ := exact.decodeMany_eq_ok reading
    refine ⟨⟨by rw [length_eq]; exact isFit, allFit⟩, ?_⟩
    rw [input_eq, left_eq, ← length_eq]
    exact (List.append_assoc _ _ _).symm

end Codec

namespace PublicKey

theorem decode_encode (key : PublicKey) : decode key.encode = .ok key := by
  have block : Block.ofBytes? 32 key.point.bytes = some key.point := Block.ofBytes?_eq_some.mpr rfl
  simp only [encode, decode, block, if_true]

theorem length_encode (key : PublicKey) : key.encode.length = 33 :=
  congrArg Nat.succ key.point.length_eq

theorem decode_eq_ok {bytes : Bytes} {key : PublicKey} :
    decode bytes = .ok key ↔ bytes = key.encode := by
  constructor
  · intro decoded
    cases bytes with
    | nil => cases decoded
    | cons type rest =>
        simp only [decode] at decoded
        cases isBlock : Block.ofBytes? 32 rest with
        | none =>
            rw [isBlock] at decoded
            cases decoded
        | some point =>
            rw [isBlock] at decoded
            by_cases isType : type = keyType
            · simp only [isType, if_true, Except.ok.injEq] at decoded
              rw [← decoded, isType, Block.ofBytes?_eq_some.mp isBlock]
              rfl
            · simp only [isType, if_false] at decoded
              cases decoded
  · rintro rfl
    exact decode_encode key

theorem exact_codec : codec.Exact fun _ => True := by
  have exact : codec.Exact fun key => key.encode.length < 1 <<< 64 := by
    apply (Codec.exact_counted .endOfInput).filterMap
    intro bytes key
    rw [← decode_eq_ok]
    cases decode bytes with
    | error failure => exact ⟨nofun, nofun⟩
    | ok found => exact ⟨fun same => congrArg _ (Except.ok.inj same), congrArg _⟩
  refine exact.congr fun key => iff_true_intro ?_
  rw [length_encode]
  decide

end PublicKey

namespace PrivateKey

theorem decode_eq_ok {bytes : Bytes} {key : PrivateKey} : decode bytes = .ok key ↔ bytes = key.encode := by
  unfold decode encode
  rw [← Block.ofBytes?_eq_some]
  cases Block.ofBytes? 32 bytes with
  | none => exact ⟨nofun, nofun⟩
  | some scalar =>
      constructor
      · intro same
        cases same
        rfl
      · intro same
        cases same
        rfl

theorem exact_codec : codec.Exact fun _ => True := by
  have exact : codec.Exact fun key => key.encode.length < 1 <<< 64 := by
    apply (Codec.exact_counted .endOfInput).filterMap
    intro bytes key
    rw [← decode_eq_ok]
    cases decode bytes with
    | error failure => exact ⟨nofun, nofun⟩
    | ok found => exact ⟨fun same => congrArg _ (Except.ok.inj same), congrArg _⟩
  refine exact.congr fun key => iff_true_intro ?_
  rw [encode, key.scalar.length_eq]
  decide

end PrivateKey

theorem KeyPair.exact_codec : codec.Exact fun _ => True := by
  have parts := PublicKey.exact_codec.pair PrivateKey.exact_codec
  refine (parts.map ?_ ?_).congr ?_
  · exact fun _ => rfl
  · exact fun _ _ => rfl
  · exact fun _ => by simp only [true_and]

end DoubleRatchet
