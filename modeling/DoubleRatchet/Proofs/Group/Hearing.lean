import DoubleRatchet.Proofs.Group.Exchange
import DoubleRatchet.Proofs.Group.Voice
import DoubleRatchet.Proofs.Handshake
import DoubleRatchet.Proofs.Message.SenderKey
import DoubleRatchet.Proofs.Suite

/-!
# Words of a voice

A word is what a sender made of a text at one place of its chain. A member whose log grants the place
reads the text that was spoken; at a place that is done the word is a duplicate, and one too far ahead
is refused.
-/

namespace DoubleRatchet

/-- A message on its way to the group, with its text and its place among all messages. -/
structure Word where
  data : Bytes
  plaintext : Bytes
  place : Nat
  deriving DecidableEq

namespace Voice

variable {suite : Suite} {config : Config} {voice : Voice} {word : Word}
  {message : SenderKeyMessage} {log : ChainLog} {secret : Option PrivateKey} {name : SenderKeyName}
  {store : Store} {random rest : Randomness}

/-- The word reads as a message that names its place, is signed by the voice and opens with the key
of the place. -/
structure Utters (suite : Suite) (config : Config) (voice : Voice) (word : Word)
    (message : SenderKeyMessage) : Prop where
  parsed : SenderKeyMessage.parse word.data = .ok message
  keyId_eq : message.keyId = voice.keyId
  iteration_eq : message.iteration.toNat = word.place
  notLast : word.place < 0xffffffff
  verified : message.verifySignature suite voice.signingKey = true
  opened : suite.openText config (voice.keyAt suite word.place).cipherKey
    (voice.keyAt suite word.place).vector.bytes message.ciphertext
    (Group.associatedData message.keyId message.iteration) = .ok word.plaintext

/-- Speaking takes the next place. Eight bytes hold the length of what fits into a memory. -/
theorem utters_of_encryptWith (opens : suite.OpensSealed) (accepts : suite.AcceptsSigned)
    {key : PrivateKey} (signs : voice.signingKey = suite.publicKey key) {place : Nat}
    (since : voice.first ≤ place) (fits : place < 0x100000000) {plaintext data : Bytes}
    {final : SenderKeyState} (short : data.length < 1 <<< 64)
    (encrypted : Group.encryptWith suite config plaintext (voice.speaking suite place key) random =
      ⟨.ok data, final, rest⟩) :
    final = voice.speaking suite (place + 1) key ∧
      ∃ message, voice.Utters suite config { data, plaintext, place } message := by
  obtain ⟨ciphertext, body, _, noise, next, sealed, rfl, isKey, rfl, moved, rfl⟩ :=
    Group.encryptWith_eq_ok encrypted
  cases isKey
  obtain ⟨notLast, rfl⟩ := of_next_chainAt since fits moved
  have reached : (voice.chainAt suite place).iteration.toNat = place := toNat_iteration_chainAt fits
  constructor
  · rfl
  · have readable := Nat.lt_of_le_of_lt (SenderKeyMessage.length_ciphertext_le _ _) short
    refine ⟨_, SenderKeyMessage.parse_signed readable _, rfl, reached, notLast, ?_,
      Suite.openText_sealText opens sealed⟩
    rw [SenderKeyMessage.verifySignature_signed, signs]
    exact accepts _ _ _

/-! ## A state that hears -/

section State

variable (tracks : voice.Tracks config log) (utters : voice.Utters suite config word message)

include tracks utters

theorem decryptWith_of_grants (grants : log.Grants config word.place) (random : Randomness) :
    Group.decryptWith suite config message (voice.hearing suite log secret) random =
      ⟨.ok word.plaintext, voice.hearing suite (log.read config word.place) secret, random⟩ := by
  have notLast : message.iteration ≠ 0xffffffff := by
    intro last
    have place_eq : 0xffffffff = word.place :=
      (congrArg UInt32.toNat last).symm.trans utters.iteration_eq
    have bound := utters.notLast
    omega
  have given : SenderKeyState.messageKey suite config message.iteration
      (voice.hearing suite log secret) random = _ :=
    messageKey_hearing tracks notLast (utters.iteration_eq ▸ grants) random
  have verified : message.verifySignature suite (voice.hearing suite log secret).signingKey = true :=
    utters.verified
  rw [utters.iteration_eq] at given
  rw [Group.decryptWith_of_verified verified, Step.bind_of_ok given, Step.lift_run, utters.opened]

theorem decryptWith_of_far (far : log.next + config.maxForwardJumps.toNat < word.place)
    (random : Randomness) :
    Group.decryptWith suite config message (voice.hearing suite log secret) random =
      ⟨.error (.invalidMessage (.tooFarAhead config.maxForwardJumps)),
        voice.hearing suite log secret, random⟩ := by
  have next_eq : (voice.hearing suite log secret).chainKey.iteration.toNat = log.next :=
    toNat_iteration_chainAt tracks.valid.fits
  have iteration_eq := utters.iteration_eq
  have verified : message.verifySignature suite (voice.hearing suite log secret).signingKey = true :=
    utters.verified
  rw [Group.decryptWith_of_verified verified]
  exact Step.bind_of_error (SenderKeyState.messageKey_of_far (by omega) (by omega) random)

theorem decryptWith_of_done (done : log.Done word.place) (random : Randomness) :
    Group.decryptWith suite config message (voice.hearing suite log secret) random =
      ⟨.error (.refused (.duplicateMessage (voice.hearing suite log secret).chainKey.iteration
        message.iteration)), voice.hearing suite log secret, random⟩ := by
  have spent : (voice.hearing suite log secret).Spent message.iteration :=
    spent_hearing tracks.valid (utters.iteration_eq ▸ done)
  have verified : message.verifySignature suite (voice.hearing suite log secret).signingKey = true :=
    utters.verified
  rw [Group.decryptWith_of_spent spent, if_pos verified]

end State

/-! ## A store that answers with the voice -/

section Store

variable
  (found : (store.senderKey name).withId voice.keyId = .ok (voice.hearing suite log secret))
  (tracks : voice.Tracks config log) (utters : voice.Utters suite config word message)

include found tracks utters

theorem decrypt_of_grants (grants : log.Grants config word.place) (random : Randomness) :
    Group.decrypt suite config name word.data Receiver.accept store random =
      ⟨.ok word.plaintext,
        store.putSenderKey name ((store.senderKey name).update
          (voice.hearing suite (log.read config word.place) secret)), random⟩ :=
  Group.decrypt_eq_ok.mpr ⟨message, _, _, utters.parsed, utters.keyId_eq ▸ found,
    decryptWith_of_grants tracks utters grants random, rfl, rfl⟩

theorem decrypt_of_far (far : log.next + config.maxForwardJumps.toNat < word.place)
    (random : Randomness) :
    Group.decrypt suite config name word.data Receiver.accept store random =
      ⟨.error (.invalidMessage (.tooFarAhead config.maxForwardJumps)), store, random⟩ :=
  Group.decrypt_of_failed utters.parsed (utters.keyId_eq ▸ found)
    (decryptWith_of_far tracks utters far random) _

theorem decrypt_of_done (done : log.Done word.place) (random : Randomness) :
    Group.decrypt suite config name word.data Receiver.accept store random =
      ⟨.error (.refused (.duplicateMessage (voice.hearing suite log secret).chainKey.iteration
        message.iteration)), store, random⟩ :=
  Group.decrypt_of_failed utters.parsed (utters.keyId_eq ▸ found)
    (decryptWith_of_done tracks utters done random) _

/-- A word is read exactly if its place is granted. -/
theorem result_decrypt_eq_ok_iff (random : Randomness) :
    (Group.decrypt suite config name word.data Receiver.accept store random).result =
        .ok word.plaintext ↔ log.Grants config word.place := by
  constructor
  · intro read
    apply Classical.byContradiction
    intro notGrants
    by_cases done : log.Done word.place
    · rw [decrypt_of_done found tracks utters done] at read
      cases read
    · rw [decrypt_of_far found tracks utters (ChainLog.far_of_not_grants notGrants done)] at read
      cases read
  · intro grants
    rw [decrypt_of_grants found tracks utters grants]

end Store

end Voice
end DoubleRatchet
