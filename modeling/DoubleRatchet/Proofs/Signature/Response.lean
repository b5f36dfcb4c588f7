import DoubleRatchet.Message.SenderKey
import DoubleRatchet.Proofs.Session.Begin
import DoubleRatchet.Proofs.Signature.Standard

/-!
# The response of a signature

The second half of a signature is a number, and only its residue by the order of the base point enters the
equation. The equation settles that residue: key, message and commitment leave room for one. So a
signature cannot be altered in its response alone as long as responses are reduced. The verifier does not
ask for that. It takes every number below a power of two that is nearly twice the order, so an accepted
response can mostly be replaced by its sum with the order.
-/

namespace DoubleRatchet
namespace Xeddsa

/-- Compressed forms tell points apart, and nothing but points is reconstructed. -/
structure Group.Faithful (group : Group) {Element : Type*} (point : Element → group.Point) : Prop where
  compress_injective : Function.Injective fun element => group.compress (point element)
  exists_of_ofMontgomery : ∀ coordinate found, group.ofMontgomery coordinate = some found →
    ∃ element, found = point element

/-- The bound below which a response is taken. -/
def InRange (response : Block 32) : Prop :=
  response.toNat < 1 <<< 253

/-- The number is a residue by the order. -/
def Reduced (group : Group) (response : Block 32) : Prop :=
  response.toNat < group.order

instance (response : Block 32) : Decidable (InRange response) :=
  inferInstanceAs (Decidable (_ < _))

instance (group : Group) (response : Block 32) : Decidable (Reduced group response) :=
  inferInstanceAs (Decidable (_ < _))

variable {group : Group} {hash : Bytes → Block 64} {key : Block 32} {message : Bytes}
  {commitment response : Block 32}

theorem InRange.positive (inRange : InRange response) : Positive response :=
  Nat.lt_trans inRange (by decide)

theorem inRange_iff_shiftRight : InRange response ↔ response.toNat >>> 253 = 0 := by
  unfold InRange
  rw [Nat.shiftRight_eq_div_pow, Nat.shiftLeft_eq, one_mul, Nat.div_eq_zero_iff_lt (by decide)]

theorem verify_of_unknown (unknown : group.ofMontgomery (clearTopBit key) = none)
    (signature : Bytes) : verify group hash key message signature = false := by
  unfold verify
  split
  · rfl
  · dsimp only
    split
    · rfl
    · rw [unknown]

/-- Only a signature of two blocks is verified. -/
theorem length_of_verify {signature : Bytes}
    (verified : verify group hash key message signature = true) : signature.length = 64 := by
  unfold verify at verified
  split at verified
  · cases verified
  · rename_i block found
    rw [Block.ofBytes?_eq_some.mp found, block.length_eq]

namespace Group.Lawful

variable {Element : Type*} [AddCommGroup Element] {point : Element → group.Point}
  {generator element : Element}

/-- What is taken of a signature. -/
theorem verify_eq_true_iff (lawful : group.Lawful point generator)
    (known : group.ofMontgomery (clearTopBit key) = some (point element))
    (positive : Positive response) :
    verify group hash key message (commitment.bytes ++ response.bytes) = true ↔
      InRange response ∧ group.compress (point (response.toNat • generator +
        hashToScalar group hash
          (commitment.bytes ++ (group.compress (point element)).bytes ++ message) • -element)) =
        commitment := by
  have parted : Block.ofBytes? 64 (commitment.bytes ++ response.bytes) =
      some (commitment.append response) := Block.ofBytes?_eq_some.mpr rfl
  unfold verify
  rw [parted]
  dsimp only
  rw [Block.halves_append, inRange_iff_shiftRight, known]
  dsimp only
  rw [Nat.mod_eq_of_lt positive, lawful.neg_eq, lawful.multiple_eq, lawful.multiple_base,
    lawful.add_eq, lawful.mod_order_nsmul]
  by_cases high : response.toNat >>> 253 = 0
  · rw [if_neg (not_not.mpr high), beq_iff_eq]
    exact (and_iff_right high).symm
  · rw [if_pos high]
    exact ⟨nofun, fun both => absurd both.1 high⟩

theorem nsmul_eq_iff (lawful : group.Lawful point generator) (left right : Nat) :
    left • generator = right • generator ↔ left % group.order = right % group.order := by
  rw [lawful.order_eq]
  exact nsmul_inj_mod

/-- Key, message and commitment settle the residue of the response, if they leave room for any. -/
theorem responses_settled (lawful : group.Lawful point generator) (faithful : group.Faithful point)
    (hash : Bytes → Block 64) (key : Block 32) (message : Bytes) (commitment : Block 32) :
    (∀ response, Positive response →
        verify group hash key message (commitment.bytes ++ response.bytes) = false) ∨
      ∃ settled < group.order, ∀ response, Positive response →
        (verify group hash key message (commitment.bytes ++ response.bytes) = true ↔
          InRange response ∧ response.toNat % group.order = settled) := by
  cases known : group.ofMontgomery (clearTopBit key) with
  | none => exact .inl fun response _ => verify_of_unknown known _
  | some found =>
      obtain ⟨element, rfl⟩ := faithful.exists_of_ofMontgomery _ _ known
      by_cases taken : ∃ response, Positive response ∧
          verify group hash key message (commitment.bytes ++ response.bytes) = true
      · obtain ⟨first, firstPositive, verified⟩ := taken
        -- One response that is taken fixes the right side of the equation for all others.
        have equation := ((lawful.verify_eq_true_iff known firstPositive).mp verified).2
        refine .inr ⟨first.toNat % group.order, Nat.mod_lt _ lawful.order_prime.pos, ?_⟩
        intro response positive
        rw [lawful.verify_eq_true_iff known positive, ← lawful.nsmul_eq_iff]
        refine and_congr_right fun _ => ?_
        constructor
        · intro same
          exact add_right_cancel (faithful.compress_injective (same.trans equation.symm))
        · intro same
          rw [same]
          exact equation
      · refine .inl fun response positive => Bool.eq_false_iff.mpr fun verified => taken ?_
        exact ⟨response, positive, verified⟩

theorem inRange_of_reduced (lawful : group.Lawful point generator) (reduced : Reduced group response) :
    InRange response :=
  Nat.lt_of_lt_of_le reduced lawful.order_small

/-- Another residue is another response, and no two are taken with the same front. -/
theorem verify_altered (lawful : group.Lawful point generator) (faithful : group.Faithful point)
    {front : Bytes} {left right : Block 32} (leftReduced : Reduced group left)
    (rightReduced : Reduced group right) (altered : left ≠ right)
    (verified : verify group hash key message (front ++ left.bytes) = true) :
    verify group hash key message (front ++ right.bytes) = false := by
  have front_length : front.length = 32 := by
    have whole := length_of_verify verified
    rw [List.length_append, left.length_eq] at whole
    omega
  let commitment : Block 32 := ⟨front, front_length⟩
  have leftRange := lawful.inRange_of_reduced leftReduced
  have rightRange := lawful.inRange_of_reduced rightReduced
  rcases lawful.responses_settled faithful hash key message commitment with none | ⟨_, _, settles⟩
  · exact none right rightRange.positive
  · refine Bool.eq_false_iff.mpr fun rightVerified => altered ?_
    have left_eq := ((settles left leftRange.positive).mp verified).2
    have right_eq := ((settles right rightRange.positive).mp rightVerified).2
    rw [Nat.mod_eq_of_lt leftReduced] at left_eq
    rw [Nat.mod_eq_of_lt rightReduced] at right_eq
    rw [← Block.littleEndian_toNat left, ← Block.littleEndian_toNat right, left_eq, right_eq]

/-- The sum with the order stands for the same residue. -/
theorem verify_add_order (lawful : group.Lawful point generator) (faithful : group.Faithful point)
    {value : Nat} (inRange : value + group.order < 1 <<< 253)
    (verified : verify group hash key message
      (commitment.bytes ++ (Block.littleEndian 32 value).bytes) = true) :
    verify group hash key message
      (commitment.bytes ++ (Block.littleEndian 32 (value + group.order)).bytes) = true := by
  have fits : value + group.order < 1 <<< (8 * 32) := Nat.lt_trans inRange (by decide)
  have number : (Block.littleEndian 32 value).toNat = value :=
    Block.toNat_littleEndian (Nat.lt_of_le_of_lt (Nat.le_add_right _ _) fits)
  have sum : (Block.littleEndian 32 (value + group.order)).toNat = value + group.order :=
    Block.toNat_littleEndian fits
  have valueRange : InRange (Block.littleEndian 32 value) := by
    unfold InRange
    rw [number]
    exact Nat.lt_of_le_of_lt (Nat.le_add_right _ _) inRange
  have sumRange : InRange (Block.littleEndian 32 (value + group.order)) := by
    unfold InRange
    rw [sum]
    exact inRange
  rcases lawful.responses_settled faithful hash key message commitment with none | ⟨_, _, settles⟩
  · rw [none _ valueRange.positive] at verified
    cases verified
  · have residue := ((settles _ valueRange.positive).mp verified).2
    refine (settles _ sumRange.positive).mpr ⟨sumRange, ?_⟩
    rw [sum, Nat.add_mod_right, ← residue, number]

end Group.Lawful

/-! ## Byte strings that end with a response -/

/-- The byte strings differ in nothing but a reduced response at their end. -/
def Alters (group : Group) (original altered : Bytes) : Prop :=
  ∃ (front : Bytes) (left right : Block 32), original = front ++ left.bytes ∧
    altered = front ++ right.bytes ∧ left ≠ right ∧ Reduced group left ∧ Reduced group right

theorem Alters.drop {original altered : Bytes} (alters : Alters group original altered) (count : Nat)
    (short : count + 32 ≤ original.length) :
    altered.take count = original.take count ∧
      Alters group (original.drop count) (altered.drop count) := by
  obtain ⟨front, left, right, rfl, rfl, different, leftReduced, rightReduced⟩ := alters
  have within : count ≤ front.length := by
    rw [List.length_append, left.length_eq] at short
    exact Nat.le_of_add_le_add_right short
  constructor
  · rw [List.take_append_of_le_length within, List.take_append_of_le_length within]
  · exact ⟨front.drop count, left, right, List.drop_append_of_le_length within,
      List.drop_append_of_le_length within, different, leftReduced, rightReduced⟩

theorem Alters.length_eq {original altered : Bytes} (alters : Alters group original altered) :
    altered.length = original.length := by
  obtain ⟨front, left, right, rfl, rfl, _⟩ := alters
  rw [List.length_append, List.length_append, left.length_eq, right.length_eq]

theorem Alters.refused {Element : Type*} [AddCommGroup Element] {point : Element → group.Point}
    {generator : Element} (lawful : group.Lawful point generator) (faithful : group.Faithful point)
    {original altered : Bytes} (alters : Alters group original altered)
    (verified : verify group hash key message original = true) :
    verify group hash key message altered = false := by
  obtain ⟨front, left, right, rfl, rfl, different, leftReduced, rightReduced⟩ := alters
  exact lawful.verify_altered faithful leftReduced rightReduced different verified

end Xeddsa

/-! ## The curve in use -/

theorem Curve25519.signingGroup_faithful : signingGroup.Faithful affine where
  compress_injective := compress_injective
  exists_of_ofMontgomery _ _ found := exists_of_ofMontgomery found

open Xeddsa Curve25519

theorem Suite.verify_standard (key : PublicKey) (message signature : Bytes) :
    Suite.standard.verify key message signature =
      Xeddsa.verify signingGroup Sha512.digest key.point message signature := rfl

theorem Suite.standard_refuses_altered {key : PublicKey} {message original altered : Bytes}
    (alters : Alters signingGroup original altered)
    (verified : Suite.standard.verify key message original = true) :
    Suite.standard.verify key message altered = false := by
  rw [verify_standard] at verified ⊢
  exact alters.refused signingGroup_lawful signingGroup_faithful verified

theorem SenderKeyMessage.verifySignature_altered {key : PublicKey} {original altered : SenderKeyMessage}
    (alters : Alters signingGroup original.serialized altered.serialized)
    (verified : original.verifySignature Suite.standard key = true) :
    altered.verifySignature Suite.standard key = false := by
  unfold verifySignature at verified ⊢
  have signature_length : (original.serialized.drop
      (original.serialized.length - signatureLength)).length = 64 := by
    rw [Suite.verify_standard] at verified
    exact length_of_verify verified
  rw [List.length_drop] at signature_length
  obtain ⟨covered_eq, signatureAlters⟩ :=
    alters.drop (original.serialized.length - signatureLength) (by omega)
  dsimp only
  rw [alters.length_eq, covered_eq]
  exact Suite.standard_refuses_altered signatureAlters verified

theorem Session.processBundle_of_unverified {suite : Suite} {address : Address} {bundle : PreKeyBundle}
    {store : Store} {random : Randomness} {signedPreKey : PublicKey} (config : Config)
    (trusted : store.trusts address bundle.identityKey = true)
    (offered : bundle.signedPreKey = some signedPreKey)
    (unverified : suite.verify bundle.identityKey signedPreKey.encode
      bundle.signedPreKeySignature = false) :
    processBundle suite config address bundle store random =
      ⟨.error (.refused (.invalidKey .signedPreKeySignature)), store, random⟩ := by
  have refused : acceptBundle suite address bundle store random =
      ⟨.error (.refused (.invalidKey .signedPreKeySignature)), store, random⟩ := by
    unfold acceptBundle
    rw [Step.get_bind, trusted, offered]
    dsimp only
    rw [unverified]
    rfl
  exact Step.bind_of_error refused

/-- Key, message and commitment settle the residue of the response. So among the reduced responses at most
one is accepted: a signature, a group message or a bundle that was accepted is refused once nothing but
its response is another reduced one. -/
theorem Suite.accepted_response_is_settled :
    (∀ (key : PublicKey) (message : Bytes) (commitment : Block 32),
      (∀ response, Positive response →
        Suite.standard.verify key message (commitment.bytes ++ response.bytes) = false) ∨
      ∃ settled < order, ∀ response, Positive response →
        (Suite.standard.verify key message (commitment.bytes ++ response.bytes) = true ↔
          InRange response ∧ response.toNat % order = settled)) ∧
    (∀ (key : PublicKey) (message original altered : Bytes), Alters signingGroup original altered →
      Suite.standard.verify key message original = true →
      Suite.standard.verify key message altered = false) ∧
    (∀ (key : PublicKey) (original altered : SenderKeyMessage),
      Alters signingGroup original.serialized altered.serialized →
      original.verifySignature Suite.standard key = true →
      altered.verifySignature Suite.standard key = false) ∧
    ∀ (config : Config) (address : Address) (bundle : PreKeyBundle) (altered : Bytes)
      (store : Store) (random : Randomness) (signedPreKey : PublicKey),
      Alters signingGroup bundle.signedPreKeySignature altered →
      Session.acceptBundle Suite.standard address bundle store random =
        ⟨.ok signedPreKey, store, random⟩ →
      Session.processBundle Suite.standard config address
          { bundle with signedPreKeySignature := altered } store random =
        ⟨.error (.refused (.invalidKey .signedPreKeySignature)), store, random⟩ := by
  refine ⟨?settled, ?signatures, ?messages, ?bundles⟩
  case settled =>
    intro key message commitment
    simp only [verify_standard]
    exact signingGroup_lawful.responses_settled signingGroup_faithful Sha512.digest key.point message
      commitment
  case signatures =>
    exact fun key message original altered alters verified =>
      standard_refuses_altered alters verified
  case messages =>
    exact fun key original altered alters verified =>
      SenderKeyMessage.verifySignature_altered alters verified
  case bundles =>
    intro config address bundle altered store random signedPreKey alters accepted
    obtain ⟨trusted, offered, verified, _⟩ := Session.acceptBundle_eq_ok.mp accepted
    exact Session.processBundle_of_unverified config trusted offered
      (standard_refuses_altered alters verified)

/-! ## A signed prekey -/

namespace Suite

def signer : PublicKey :=
  ⟨Block.littleEndian 32 0x4f51856f53eb90abfe0af8bf4069479db4df27523c4fb1ef8942c006fe21e6fd⟩

def signersPreKey : PublicKey :=
  ⟨Block.littleEndian 32 0x06ae4d0472798e543c36ceffb9e9f1b653a928a5423f8ee484190383c81e2ef8⟩

def signersCommitment : Block 32 :=
  Block.littleEndian 32 0xd0910ec1d5b3f07c061f9c267f811538f5de327bcc072c5ce9d3bd47662fb39d

def signersResponse : Nat :=
  0x09e30a801437e665bb295bcf71d8347560a4e220b8d4da3ff2addcfb3add5732

def signersSignature : Bytes :=
  signersCommitment.bytes ++ (Block.littleEndian 32 signersResponse).bytes

def signersBundle : PreKeyBundle :=
  { registrationId := 1
    device := 1
    preKeyId := none
    preKey := none
    signedPreKeyId := 1
    signedPreKey := some signersPreKey
    signedPreKeySignature := signersSignature
    identityKey := signer }

theorem signersSignature_verifies :
    standard.verify signer signersPreKey.encode signersSignature = true := by
  decide +kernel

theorem signersSignature_alters :
    Alters signingGroup signersSignature (signersCommitment.bytes ++ (Block.fill 32 0).bytes) :=
  ⟨_, _, _, rfl, rfl, by decide, by decide, by decide⟩

/-- The signature is accepted, as that of a message, of a group message and of a bundle, and none of them
with the response zero. -/
theorem signersSignature_is_fixed :
    let altered := signersCommitment.bytes ++ (Block.fill 32 0).bytes
    let sent (signature : Bytes) : SenderKeyMessage :=
      { version := 3, keyId := 1, iteration := 0, ciphertext := []
        serialized := signersPreKey.encode ++ signature }
    (∃ settled < order, ∀ response, Positive response →
      (standard.verify signer signersPreKey.encode (signersCommitment.bytes ++ response.bytes) = true ↔
        InRange response ∧ response.toNat % order = settled)) ∧
    standard.verify signer signersPreKey.encode signersSignature = true ∧
    standard.verify signer signersPreKey.encode altered = false ∧
    (sent signersSignature).verifySignature standard signer = true ∧
    (sent altered).verifySignature standard signer = false ∧
    Session.processBundle standard {} .caller { signersBundle with signedPreKeySignature := altered }
        .newcomer (.repeated 0) =
      ⟨.error (.refused (.invalidKey .signedPreKeySignature)), .newcomer, .repeated 0⟩ := by
  intro altered sent
  obtain ⟨settled, signatures, messages, bundles⟩ := accepted_response_is_settled
  have verified := signersSignature_verifies
  have sentVerified : (sent signersSignature).verifySignature standard signer = true := by
    have covered_length : (signersPreKey.encode ++ signersSignature).length -
        SenderKeyMessage.signatureLength = signersPreKey.encode.length := by decide
    dsimp only [SenderKeyMessage.verifySignature, sent]
    rw [covered_length, List.take_left, List.drop_left]
    exact verified
  refine ⟨?_, verified, signatures _ _ _ _ signersSignature_alters verified, sentVerified,
    messages _ (sent signersSignature) (sent altered) ?_ sentVerified, ?_⟩
  · refine (settled signer signersPreKey.encode signersCommitment).resolve_left fun none => ?_
    have refused := none (Block.littleEndian 32 signersResponse) (by decide)
    exact Bool.false_ne_true (refused.symm.trans verified)
  · exact ⟨signersPreKey.encode ++ signersCommitment.bytes, Block.littleEndian 32 signersResponse,
      Block.fill 32 0, (List.append_assoc _ _ _).symm, (List.append_assoc _ _ _).symm,
      by decide, by decide, by decide⟩
  · exact bundles {} .caller signersBundle altered .newcomer (.repeated 0) signersPreKey
      signersSignature_alters (Session.acceptBundle_eq_ok.mpr ⟨rfl, rfl, verified, rfl, rfl⟩)

/-- A response that is not reduced: the signature is accepted with it as well. -/
theorem sum_with_order_is_accepted :
    let sum := Block.littleEndian 32 (signersResponse + order)
    sum ≠ Block.littleEndian 32 signersResponse ∧
      standard.verify signer signersPreKey.encode signersSignature = true ∧
      standard.verify signer signersPreKey.encode (signersCommitment.bytes ++ sum.bytes) = true := by
  intro sum
  have verified := signersSignature_verifies
  refine ⟨by decide, verified, ?_⟩
  rw [verify_standard] at verified ⊢
  exact signingGroup_lawful.verify_add_order signingGroup_faithful (by decide) verified

end Suite
end DoubleRatchet
