import DoubleRatchet.Proofs.Handshake
import DoubleRatchet.Proofs.Store.Lookup
import DoubleRatchet.Proofs.Store.Records
import DoubleRatchet.Store.Written

/-!
# Stored records are restored

A store that keeps its records as they are written hands out the records that were put in, and it does
so for as long as nothing else is put in their place: such a store is the written form of one that
keeps the records themselves, before and after each change.
-/

namespace DoubleRatchet

/-- What is kept is read back, and nothing is read from a written form that was cut short. -/
structure Restores {α : Type} (encode : α → Bytes) (decode : Bytes → Except Error α)
    (Kept : α → Prop) : Prop where
  read : ∀ value, Kept value → decode (encode value) = .ok value
  cut : ∀ value, Kept value → ∀ front, front <+: encode value → front ≠ encode value →
    ∃ failure, decode front = .error (.serialization failure)

namespace Codec

variable {κ α : Type} {codec : Codec α} {value : α}

theorem Exact.restores {allowed : α → Prop} (exact : codec.Exact allowed) :
    Restores codec.encode codec.decodeRecord allowed where
  read value isAllowed := by
    have whole : codec.encode value = codec.encode value ++ [] := (List.append_nil _).symm
    have decoded := exact.decodeFront_eq_ok.mpr ⟨isAllowed, [], whole⟩
    exact congrArg (Except.mapError Error.serialization) decoded
  cut value isAllowed front isFront short := by
    obtain ⟨missing, whole⟩ := isFront
    have isCut : missing ≠ [] := by
      rintro rfl
      rw [List.append_nil] at whole
      exact short whole
    obtain ⟨failure, refused⟩ := exact.decode_of_cut isAllowed whole.symm isCut
    exact ⟨failure, congrArg (Except.mapError Error.serialization)
      (congrArg (Except.map Prod.fst) refused)⟩

theorem Faithful.restores (faithful : codec.Faithful) :
    Restores codec.encode codec.decodeRecord codec.Fits := by
  obtain ⟨allowed, exact, enough⟩ := faithful
  constructor
  · exact fun value isFit => exact.restores.read value (enough value isFit)
  · exact fun value isFit => exact.restores.cut value (enough value isFit)

variable [Ord κ] [DecidableEq κ] {Kept : α → Prop}

theorem load_of_find? (restores : Restores codec.encode codec.decodeRecord Kept) (kept : Kept value)
    {key : κ} {table : Table κ Bytes} (found : table.find? key = some (codec.encode value)) :
    codec.load key table = .ok (some value) := by
  unfold load
  rw [found]
  exact congrArg (Except.map some) (restores.read value kept)

theorem load_save [Std.TransOrd κ] [Std.LawfulEqOrd κ]
    (restores : Restores codec.encode codec.decodeRecord Kept) (kept : Kept value) (key : κ)
    (table : Table κ Bytes) : codec.load key (codec.save key value table) = .ok (some value) :=
  load_of_find? restores kept (Table.find?_insert_self key _ table)

end Codec

/-- A pair is read back if its halves belong together. -/
theorem KeyPair.restores (suite : Suite) :
    Restores KeyPair.codec.encode (KeyPair.decodeMatching suite) (KeyPair.Matches suite) where
  read pair isMatch := by
    unfold KeyPair.decodeMatching
    rw [KeyPair.exact_codec.restores.read pair trivial]
    exact if_pos isMatch.symm
  cut pair _ front isFront short := by
    obtain ⟨failure, refused⟩ := KeyPair.exact_codec.restores.cut pair trivial front isFront short
    refine ⟨failure, ?_⟩
    unfold KeyPair.decodeMatching
    rw [refused]
    rfl

namespace Table

variable {κ α β : Type} [Ord κ] [DecidableEq κ]

theorem find?_map (change : α → β) (key : κ) (table : Table κ α) :
    (table.map change).find? key = (table.find? key).map change := by
  unfold find? map
  rw [List.find?_map, Option.map_map, Option.map_map]
  rfl

theorem map_place (change : α → β) (key : κ) (value : α) (entries : List (κ × α)) :
    (place key value entries).map (fun entry => (entry.1, change entry.2)) =
      place key (change value) (entries.map fun entry => (entry.1, change entry.2)) := by
  induction entries with
  | nil => rfl
  | cons first rest ih =>
      simp only [place, List.map_cons]
      split
      · rfl
      · split
        · rfl
        · rw [List.map_cons, ih]

theorem map_insert [Std.TransOrd κ] [Std.LawfulEqOrd κ] (change : α → β) (key : κ) (value : α)
    (table : Table κ α) :
    (table.insert key value).map change = (table.map change).insert key (change value) := by
  simp only [map, insert, map_place]

end Table

/-- A table of written values answers as the table of the values. -/
theorem Codec.load_map {κ α : Type} [Ord κ] [DecidableEq κ] {codec : Codec α} {Kept : α → Prop}
    (restores : Restores codec.encode codec.decodeRecord Kept) {key : κ} {table : Table κ α}
    (allKept : ∀ value, table.find? key = some value → Kept value) :
    codec.load key (table.map codec.encode) = .ok (table.find? key) := by
  have looked := Table.find?_map codec.encode key table
  cases found : table.find? key with
  | none =>
      rw [found] at looked
      unfold load
      rw [looked]
      rfl
  | some value =>
      rw [found] at looked
      exact load_of_find? restores (allKept value found) looked

/-! ## Whole stores -/

namespace Store

/-- The records of the store fit into a memory when they are written. -/
structure Fits (store : Store) : Prop where
  signedPreKeys : ∀ id record, store.signedPreKeys.find? id = some record →
    SignedPreKeyRecord.codec.Fits record
  sessions : ∀ address record, store.sessions.find? address = some record →
    SessionRecord.codec.Fits record
  senderKeys : ∀ name record, store.senderKeys.find? name = some record →
    SenderKeyRecord.codec.Fits record

variable {store : Store}

theorem preKey_written (store : Store) (id : UInt32) :
    store.written.preKey id = .ok (store.preKeys.find? id) :=
  Codec.load_map PreKeyRecord.exact_codec.restores fun _ _ => trivial

theorem signedPreKey_written (fits : store.Fits) (id : UInt32) :
    store.written.signedPreKey id = .ok (store.signedPreKeys.find? id) :=
  Codec.load_map SignedPreKeyRecord.faithful_codec.restores (fits.signedPreKeys id)

theorem session_written (fits : store.Fits) (address : Address) :
    store.written.session address = .ok (store.session address) := by
  have loaded := Codec.load_map SessionRecord.faithful_codec.restores (fits.sessions address)
  exact congrArg (Except.map (·.getD {})) loaded

theorem senderKey_written (fits : store.Fits) (name : SenderKeyName) :
    store.written.senderKey name = .ok (store.senderKey name) := by
  have loaded := Codec.load_map SenderKeyRecord.faithful_codec.restores (fits.senderKeys name)
  exact congrArg (Except.map (·.getD {})) loaded

theorem written_putSession (address : Address) (record : SessionRecord) :
    (store.putSession address record).written = store.written.putSession address record := by
  simp only [written, putSession, WrittenStore.putSession, Codec.save, Table.map_insert]

theorem written_putSenderKey (name : SenderKeyName) (record : SenderKeyRecord) :
    (store.putSenderKey name record).written = store.written.putSenderKey name record := by
  simp only [written, putSenderKey, WrittenStore.putSenderKey, Codec.save, Table.map_insert]

theorem written_putPreKey (id : UInt32) (record : PreKeyRecord) :
    (store.putPreKey id record).written = store.written.putPreKey id record := by
  simp only [written, putPreKey, WrittenStore.putPreKey, Codec.save, Table.map_insert]

theorem written_putSignedPreKey (id : UInt32) (record : SignedPreKeyRecord) :
    (store.putSignedPreKey id record).written = store.written.putSignedPreKey id record := by
  simp only [written, putSignedPreKey, WrittenStore.putSignedPreKey, Codec.save, Table.map_insert]

end Store

/-- Every kind of record is read back from its written form, and a written form that was cut short is
refused; so a store of written records hands out what was put in. -/
theorem records_are_restored (suite : Suite) :
    Restores SessionRecord.codec.encode SessionRecord.codec.decodeRecord SessionRecord.codec.Fits ∧
      Restores SenderKeyRecord.codec.encode SenderKeyRecord.codec.decodeRecord
        SenderKeyRecord.codec.Fits ∧
      Restores PreKeyRecord.codec.encode PreKeyRecord.codec.decodeRecord (fun _ => True) ∧
      Restores SignedPreKeyRecord.codec.encode SignedPreKeyRecord.codec.decodeRecord
        SignedPreKeyRecord.codec.Fits ∧
      Restores KeyPair.codec.encode (KeyPair.decodeMatching suite) (KeyPair.Matches suite) ∧
      ∀ store : WrittenStore,
        (∀ address record, SessionRecord.codec.Fits record →
          (store.putSession address record).session address = .ok record) ∧
        (∀ name record, SenderKeyRecord.codec.Fits record →
          (store.putSenderKey name record).senderKey name = .ok record) ∧
        (∀ id record, (store.putPreKey id record).preKey id = .ok (some record)) ∧
        ∀ id record, SignedPreKeyRecord.codec.Fits record →
          (store.putSignedPreKey id record).signedPreKey id = .ok (some record) := by
  have sessions := SessionRecord.faithful_codec.restores
  have senderKeys := SenderKeyRecord.faithful_codec.restores
  have preKeys := PreKeyRecord.exact_codec.restores
  have signedPreKeys := SignedPreKeyRecord.faithful_codec.restores
  refine ⟨sessions, senderKeys, preKeys, signedPreKeys, KeyPair.restores suite, fun store => ?_⟩
  refine ⟨?session, ?senderKey, ?preKey, ?signedPreKey⟩
  case session =>
    intro address record isFit
    have loaded := Codec.load_save sessions isFit address store.sessions
    exact congrArg (Except.map (·.getD {})) loaded
  case senderKey =>
    intro name record isFit
    have loaded := Codec.load_save senderKeys isFit name store.senderKeys
    exact congrArg (Except.map (·.getD {})) loaded
  case preKey =>
    exact fun id record => Codec.load_save preKeys trivial id store.preKeys
  case signedPreKey =>
    exact fun id record isFit => Codec.load_save signedPreKeys isFit id store.signedPreKeys

/-- The record of a session that has begun and has read a message, in the store that keeps it. -/
theorem called_record_is_restored :
    let record := Store.called.session .caller
    SessionRecord.codec.Fits record ∧
      SessionRecord.codec.decodeRecord (SessionRecord.codec.encode record) = .ok record ∧
      (Store.newcomer.written.putSession .caller record).session .caller = .ok record := by
  have isFit : SessionRecord.codec.Fits (Store.called.session .caller) := by
    unfold Codec.Fits
    decide +kernel
  obtain ⟨sessions, _, _, _, _, loads⟩ := records_are_restored Suite.additive
  obtain ⟨session, _⟩ := loads Store.newcomer.written
  exact ⟨isFit, sessions.read _ isFit, session .caller _ isFit⟩

end DoubleRatchet
