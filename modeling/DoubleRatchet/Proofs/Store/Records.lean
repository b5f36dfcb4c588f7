import DoubleRatchet.Proofs.Codec
import DoubleRatchet.Store

/-!
# The written forms of records

A codec is faithful if it is exact on every value whose written form fits into a memory. Nothing is
asked of the value itself: a length that is part of a written form is no larger than the whole. The
codecs of records are made of faithful ones.
-/

namespace DoubleRatchet
namespace Codec

variable {α β : Type} {codec : Codec α} {second : Codec β}

/-- The written form fits into a memory. -/
def Fits (codec : Codec α) (value : α) : Prop :=
  (codec.encode value).length < 1 <<< 64

def Faithful (codec : Codec α) : Prop :=
  ∃ allowed, codec.Exact allowed ∧ ∀ value, codec.Fits value → allowed value

/-- No value is written as nothing. -/
def Solid (codec : Codec α) : Prop :=
  ∀ value, 0 < (codec.encode value).length

theorem solid_block (size : Nat) : (block (size + 1)).Solid := by
  intro value
  change 0 < value.bytes.length
  rw [value.length_eq]
  exact size.succ_pos

theorem solid_byte : byte.Solid := fun _ => Nat.succ_pos _

theorem solid_word32 : word32.Solid := fun _ => Nat.succ_pos _

theorem Solid.pair (solid : codec.Solid) (second : Codec β) : (codec.pair second).Solid := by
  intro value
  have front := solid value.1
  simp only [Codec.pair, List.length_append]
  omega

theorem Solid.map (solid : codec.Solid) (ofWritten : α → β) (toWritten : β → α) :
    (codec.map ofWritten toWritten).Solid :=
  fun value => solid (toWritten value)

theorem solid_counted (shortage : DecodeError) : (counted shortage).Solid := fun _ => Nat.succ_pos _

theorem Exact.faithful (exact : codec.Exact fun _ => True) : codec.Faithful :=
  ⟨_, exact, fun _ _ => trivial⟩

theorem faithful_string : string.Faithful := by
  refine ⟨_, exact_counted .longString, ?_⟩
  intro value short
  have whole : string.encode value = (number 8).encode value.length ++ value := rfl
  rw [Fits, whole, List.length_append] at short
  omega

/-- A list of solid parts is, when it is written, no shorter than it has parts. -/
theorem Solid.length_le (solid : codec.Solid) (values : List α) :
    values.length ≤ (values.flatMap codec.encode).length := by
  induction values with
  | nil => simp
  | cons value values ih =>
      have front := solid value
      simp only [List.length_cons, List.flatMap_cons, List.length_append]
      omega

theorem sublist_written (codec : Codec α) {value : α} {values : List α} (member : value ∈ values) :
    (codec.encode value).Sublist (values.flatMap codec.encode) := by
  rw [List.flatMap_def]
  exact List.sublist_flatten_of_mem (List.mem_map_of_mem member)

namespace Faithful

theorem pair (first : codec.Faithful) (later : second.Faithful) : (codec.pair second).Faithful := by
  obtain ⟨_, exact, enough⟩ := first
  obtain ⟨_, exactLater, enoughLater⟩ := later
  refine ⟨_, exact.pair exactLater, ?_⟩
  intro value short
  simp only [Fits, Codec.pair, List.length_append] at short
  constructor
  · apply enough
    unfold Fits
    omega
  · apply enoughLater
    unfold Fits
    omega

theorem map {toWritten : β → α} {ofWritten : α → β} (faithful : codec.Faithful)
    (inverse : ∀ view, ofWritten (toWritten view) = view)
    (back : ∀ value, toWritten (ofWritten value) = value) :
    (codec.map ofWritten toWritten).Faithful := by
  obtain ⟨_, exact, enough⟩ := faithful
  exact ⟨_, exact.map inverse fun value _ => back value, fun view short => enough _ short⟩

theorem optional (faithful : codec.Faithful) : codec.optional.Faithful := by
  obtain ⟨_, exact, enough⟩ := faithful
  refine ⟨_, exact.optional, ?_⟩
  rintro value short present rfl
  apply enough
  simp only [Fits, Codec.optional, List.length_cons] at short
  unfold Fits
  omega

theorem list (faithful : codec.Faithful) (solid : codec.Solid) : codec.list.Faithful := by
  obtain ⟨_, exact, enough⟩ := faithful
  refine ⟨_, exact.list, ?_⟩
  intro values short
  have whole : codec.list.encode values =
      (number 8).encode values.length ++ values.flatMap codec.encode := rfl
  rw [Fits, whole, List.length_append] at short
  constructor
  · have count := solid.length_le values
    omega
  · intro value member
    have part := (sublist_written codec member).length_le
    apply enough
    unfold Fits
    omega

end Faithful
end Codec

/-! ## The parts of a session -/

theorem MessageKeys.faithful_codec : codec.Faithful :=
  ((Codec.exact_block 32).faithful.pair <| (Codec.exact_block 32).faithful.pair <|
    (Codec.exact_block 16).faithful.pair Codec.exact_word32.faithful).map
    (fun _ => rfl) fun _ => rfl

theorem MessageKeys.solid_codec : codec.Solid :=
  ((Codec.solid_block 31).pair _).map _ _

theorem ChainKey.faithful_codec : codec.Faithful :=
  ((Codec.exact_block 32).faithful.pair Codec.exact_word32.faithful).map (fun _ => rfl) fun _ => rfl

theorem AuthKey.faithful_codec : codec.Faithful :=
  (Codec.faithful_string.pair <| Codec.faithful_string.pair Codec.exact_word32.faithful).map
    (fun _ => rfl) fun _ => rfl

theorem RootKey.faithful_codec : codec.Faithful :=
  (Codec.exact_block 32).faithful.map (fun _ => rfl) fun _ => rfl

theorem SenderChain.faithful_codec : codec.Faithful :=
  (KeyPair.exact_codec.faithful.pair ChainKey.faithful_codec).map (fun _ => rfl) fun _ => rfl

theorem PublicKey.solid_codec : codec.Solid :=
  fun key => Codec.solid_counted .endOfInput key.encode

theorem ReceiverChain.faithful_codec : codec.Faithful :=
  (PublicKey.exact_codec.faithful.pair <| ChainKey.faithful_codec.pair <|
    MessageKeys.faithful_codec.list MessageKeys.solid_codec).map (fun _ => rfl) fun _ => rfl

theorem ReceiverChain.solid_codec : codec.Solid :=
  (PublicKey.solid_codec.pair _).map _ _

theorem PendingPreKey.faithful_codec : codec.Faithful :=
  (Codec.exact_word32.faithful.optional.pair <|
    Codec.exact_word32.faithful.pair PublicKey.exact_codec.faithful).map (fun _ => rfl) fun _ => rfl

theorem SessionState.faithful_codec : codec.Faithful :=
  (Codec.exact_byte.faithful.pair <| PublicKey.exact_codec.faithful.optional.pair <|
    PublicKey.exact_codec.faithful.optional.pair <| RootKey.faithful_codec.optional.pair <|
    Codec.exact_word32.faithful.pair <| SenderChain.faithful_codec.optional.pair <|
    (ReceiverChain.faithful_codec.list ReceiverChain.solid_codec).pair <|
    PendingPreKey.faithful_codec.optional.pair <| Codec.exact_word32.faithful.pair <|
    Codec.exact_word32.faithful.pair <| PublicKey.exact_codec.faithful.optional.pair <|
    AuthKey.faithful_codec.pair <| Codec.faithful_string.pair Codec.faithful_string).map
    (fun _ => rfl) fun _ => rfl

theorem SessionState.solid_codec : codec.Solid :=
  (Codec.solid_byte.pair _).map _ _

theorem SenderMessageKey.faithful_codec : codec.Faithful :=
  (Codec.exact_word32.faithful.pair <| (Codec.exact_block 16).faithful.pair <|
    (Codec.exact_block 32).faithful.pair (Codec.exact_block 32).faithful).map
    (fun _ => rfl) fun _ => rfl

theorem SenderMessageKey.solid_codec : codec.Solid :=
  (Codec.solid_word32.pair _).map _ _

theorem SenderChainKey.faithful_codec : codec.Faithful :=
  (Codec.exact_word32.faithful.pair (Codec.exact_block 32).faithful).map (fun _ => rfl) fun _ => rfl

theorem SenderKeyState.faithful_codec : codec.Faithful :=
  (Codec.exact_word32.faithful.pair <| SenderChainKey.faithful_codec.pair <|
    PublicKey.exact_codec.faithful.pair <| PrivateKey.exact_codec.faithful.optional.pair <|
    SenderMessageKey.faithful_codec.list SenderMessageKey.solid_codec).map (fun _ => rfl) fun _ => rfl

theorem SenderKeyState.solid_codec : codec.Solid :=
  (Codec.solid_word32.pair _).map _ _

/-! ## Records -/

theorem SessionRecord.faithful_codec : codec.Faithful :=
  (SessionState.faithful_codec.pair <|
    SessionState.faithful_codec.list SessionState.solid_codec).map (fun _ => rfl) fun _ => rfl

theorem SenderKeyRecord.faithful_codec : codec.Faithful :=
  (SenderKeyState.faithful_codec.list SenderKeyState.solid_codec).map (fun _ => rfl) fun _ => rfl

theorem PreKeyRecord.exact_codec : codec.Exact fun _ => True := by
  have parts := Codec.exact_word32.pair KeyPair.exact_codec
  refine (parts.map ?_ ?_).congr ?_
  · exact fun _ => rfl
  · exact fun _ _ => rfl
  · exact fun _ => by simp only [true_and]

theorem SignedPreKeyRecord.faithful_codec : codec.Faithful :=
  (Codec.exact_word32.faithful.pair <| Codec.exact_word64.faithful.pair <|
    KeyPair.exact_codec.faithful.pair Codec.faithful_string).map (fun _ => rfl) fun _ => rfl

end DoubleRatchet
