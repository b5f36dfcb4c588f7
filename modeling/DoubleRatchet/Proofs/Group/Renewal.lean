import DoubleRatchet.Proofs.Group.Hearing
import DoubleRatchet.Proofs.Group.Replay

/-!
# A sender key that is handed out again

A distribution message puts a new state before all others, also when its key id has one already. From
then on the new state answers for the key id. It has the keys from its own place on and none of those
that the older state had skipped and kept, and it cannot sign. The room that it takes is taken from the
oldest key.
-/

namespace DoubleRatchet

namespace SenderKeyState

variable {suite : Suite} {config : Config} {state final : SenderKeyState} {next : SenderChainKey}
  {iteration : UInt32} {key : SenderMessageKey}

/-- The state follows some voice: its keys are those of a log. -/
def Voiced (suite : Suite) (config : Config) (state : SenderKeyState) : Prop :=
  ∃ (voice : Voice) (log : ChainLog) (secret : Option PrivateKey),
    state = voice.hearing suite log secret ∧ voice.Tracks config log

theorem voiced_of_skipped (empty : state.skipped = []) : state.Voiced suite config := by
  obtain ⟨keyId, start, signingKey, secret, skipped⟩ := state
  subst empty
  let voice : Voice := { keyId, start, signingKey }
  refine ⟨voice, { key := signingKey, next := voice.first }, secret, ?_,
    Voice.tracks_from config signingKey (Nat.le_refl _) start.iteration.toNat_lt⟩
  rw [Voice.hearing, Voice.chainAt_first]
  rfl

theorem Voiced.spoken (voiced : state.Voiced suite config)
    (moved : state.chainKey.next suite = .ok next) :
    { state with chainKey := next }.Voiced suite config := by
  obtain ⟨voice, log, secret, rfl, tracks⟩ := voiced
  obtain ⟨fits, after_eq⟩ := Voice.hearing_spoken tracks moved
  exact ⟨voice, _, secret, after_eq, tracks.spoken fits⟩

theorem Voiced.gave (voiced : state.Voiced suite config)
    (gives : Gives suite config iteration state key final) : final.Voiced suite config := by
  obtain ⟨voice, log, secret, rfl, tracks⟩ := voiced
  obtain ⟨fits, after_eq⟩ := Voice.hearing_of_gives tracks gives
  exact ⟨voice, _, secret, after_eq, tracks.read fits⟩

end SenderKeyState

namespace Group

variable {suite : Suite} {config : Config} {name : SenderKeyName} {store : Store}
  {state : SenderKeyState} {distribution : DistributionMessage} {message : SenderKeyMessage}
  {data plaintext : Bytes} {random drawn : Randomness}

/-- Whatever a member has done, each of its states follows a voice. -/
theorem Reachable.voiced (reachable : Reachable suite config store) (name : SenderKeyName) :
    ∀ state ∈ (store.senderKey name).states, state.Voiced suite config :=
  reachable.keeps name (SenderKeyState.Voiced suite config)
    (fun _ => SenderKeyState.voiced_of_skipped) (fun _ _ moved voiced => voiced.spoken moved)
    (fun _ _ _ _ gives voiced => voiced.gave gives)

/-- A member whose newest state has no private key sends nothing. -/
theorem encrypt_of_mute {older : List SenderKeyState}
    (states : (store.senderKey name).states = state :: older)
    (mute : state.privateSigningKey = none) (plaintext : Bytes) (random : Randomness) :
    ∃ failure rest, encrypt suite config name plaintext store random =
      ⟨.error failure, store, rest⟩ := by
  rcases sent : encryptWith suite config plaintext state random with ⟨failure | message, final, rest⟩
  · exact ⟨failure, rest, by rw [encrypt_of_newest states, sent]⟩
  · obtain ⟨_, _, key, _, _, _, _, signs, _⟩ := encryptWith_eq_ok sent
    rw [SenderKeyState.requirePrivateKey, mute] at signs
    cases signs

/-! ## What becomes of a key that is held -/

section Held

variable {held : SenderKeyState} (positive : 0 < config.maxSenderKeyStates)

include positive

theorem states_process (name : SenderKeyName) (distribution : DistributionMessage) (store : Store)
    (drawn : Randomness) :
    ((process config name distribution store drawn).state.senderKey name).states =
      .received distribution.id distribution.iteration distribution.chainKey
          distribution.signingKey ::
        (store.senderKey name).states.take (config.maxSenderKeyStates - 1) := by
  obtain ⟨room, room_eq⟩ := Nat.exists_eq_succ_of_ne_zero (Nat.ne_of_gt positive)
  rw [senderKey_process, SenderKeyRecord.add, room_eq]
  rfl

theorem withId_process (name : SenderKeyName) (distribution : DistributionMessage) (store : Store)
    (drawn : Randomness) :
    ((process config name distribution store drawn).state.senderKey name).withId distribution.id =
      .ok (.received distribution.id distribution.iteration distribution.chainKey
        distribution.signingKey) := by
  apply SenderKeyRecord.withId_eq_ok.mpr
  rw [states_process positive]
  exact List.find?_cons_of_pos (decide_eq_true rfl)

/-- Other keys are read with as before, but for those that had to go. -/
theorem result_decrypt_process_of_ne (found : (store.senderKey name).withId distribution.id = .ok held)
    (parsed : SenderKeyMessage.parse data = .ok message) (different : message.keyId ≠ distribution.id)
    (drawn : Randomness) (receiver : Receiver) (random : Randomness) :
    (decrypt suite config name data receiver
        (process config name distribution store drawn).state random).result =
      if message.keyId ∈ (store.senderKey name).keyIds.take (config.maxSenderKeyStates - 1) then
        (decrypt suite config name data receiver store random).result
      else .error (.noSession (.senderKeyState message.keyId)) := by
  have answer : ((process config name distribution store drawn).state.senderKey name).withId
      message.keyId = _ :=
    (congrArg (SenderKeyRecord.withId · message.keyId)
      (senderKey_process distribution store drawn)).trans
      (SenderKeyRecord.withId_add_of_ne different)
  have hasKeys := SenderKeyRecord.not_isEmpty_of_withId (withId_process positive name
    distribution store drawn)
  split
  · rename_i isKept
    rw [if_pos isKept] at answer
    cases there : (store.senderKey name).withId message.keyId with
    | error failure =>
        rw [decrypt_of_missing parsed hasKeys (answer.trans there),
          decrypt_of_missing parsed (SenderKeyRecord.not_isEmpty_of_withId found) there]
    | ok state => exact result_decrypt_of_found parsed (answer.trans there) there receiver random
  · rename_i isGone
    rw [if_neg isGone] at answer
    rw [decrypt_of_missing parsed hasKeys answer]

/-- Taking over a key that is held forgets what the older state could still give: of the words of the
voice the member reads those from the place of the distribution message on, no matter which it could
read before. It sends nothing any more, its key ids are no longer distinct, and another key may be
gone. -/
theorem held_key_starts_over (reachable : Reachable suite config store)
    (found : (store.senderKey name).withId distribution.id = .ok held) (drawn : Randomness) :
    let renewed := (process config name distribution store drawn).state
    (renewed.senderKey name).keyIds =
        distribution.id :: (store.senderKey name).keyIds.take (config.maxSenderKeyStates - 1) ∧
      (∀ plaintext random, ∃ failure rest, encrypt suite config name plaintext renewed random =
        ⟨.error failure, renewed, rest⟩) ∧
      (∀ data message, SenderKeyMessage.parse data = .ok message → message.keyId ≠ distribution.id →
        ∀ receiver random, (decrypt suite config name data receiver renewed random).result =
          if message.keyId ∈ (store.senderKey name).keyIds.take (config.maxSenderKeyStates - 1) then
            (decrypt suite config name data receiver store random).result
          else .error (.noSession (.senderKeyState message.keyId))) ∧
      (∃ (voice : Voice) (log : ChainLog) (secret : Option PrivateKey),
        held = voice.hearing suite log secret ∧ voice.Tracks config log) ∧
      ∀ (voice : Voice) log secret place, held = voice.hearing suite log secret →
        voice.Tracks config log → voice.first ≤ place → place < 0x100000000 →
        distribution = voice.invitation suite place →
        ∀ word message, voice.Utters suite config word message → ∀ random,
          ((decrypt suite config name word.data Receiver.accept store random).result =
              .ok word.plaintext ↔ log.Grants config word.place) ∧
            ((decrypt suite config name word.data Receiver.accept renewed random).result =
              .ok word.plaintext ↔
                place ≤ word.place ∧ word.place ≤ place + config.maxForwardJumps.toNat) := by
  intro renewed
  have states := states_process positive name distribution store drawn
  refine ⟨?_, ?_, ?_, ?_, ?_⟩
  · rw [SenderKeyRecord.keyIds, states, List.map_cons, List.map_take]
    rfl
  · exact encrypt_of_mute states rfl
  · intro data message parsed different
    exact result_decrypt_process_of_ne positive found parsed different drawn
  · exact reachable.voiced name held (SenderKeyRecord.mem_of_withId found)
  · rintro voice log secret place rfl tracks since fits rfl word message utters random
    have tracksPlace := Voice.tracks_from config voice.signingKey since fits
    have foundAgain : (renewed.senderKey name).withId voice.keyId =
        .ok (voice.hearing suite { key := voice.signingKey, next := place } none) :=
      withId_process positive name (voice.invitation suite place) store drawn
    exact ⟨Voice.result_decrypt_eq_ok_iff found tracks utters random,
      (Voice.result_decrypt_eq_ok_iff foundAgain tracksPlace utters random).trans
        ChainLog.grants_from⟩

end Held

/-! ## A word that was overtaken -/

/-- The speaker after its first word. -/
def outspoken : Store :=
  (encrypt Suite.additive {} talk [1, 2, 3] speaker (.repeated 0)).state

def secondWord : Bytes :=
  (encrypt Suite.additive {} talk [4, 5] outspoken (.repeated 0)).result.toOption.get
    (by decide +kernel)

/-- What the speaker hands out after two words. -/
def laterInvitation : DistributionMessage :=
  (create Suite.additive talk
    (encrypt Suite.additive {} talk [4, 5] outspoken (.repeated 0)).state
    (.repeated 8)).result.toOption.get (by decide +kernel)

/-- The listener hears the second word first. -/
def hasty : Store :=
  (decrypt Suite.additive {} talk secondWord Receiver.accept listener (.repeated 0)).state

/-- The key of the speaker. -/
def speakersVoice : Voice where
  keyId := 5
  start := { iteration := 0, seed := Suite.summed 32 [6] }
  signingKey := (KeyPair.additive 8).publicKey

theorem utters_word : ∃ message, speakersVoice.Utters Suite.additive {}
    { data := word, plaintext := [1, 2, 3], place := 0 } message := by
  obtain ⟨message, parsed⟩ : ∃ message, (SenderKeyMessage.parse word).toOption = some message :=
    Option.isSome_iff_exists.mp (by decide +kernel)
  have reads : ((SenderKeyMessage.parse word).toOption.map fun message =>
      (message.keyId, message.iteration.toNat,
        message.verifySignature Suite.additive speakersVoice.signingKey,
        (Suite.additive.openText {} (speakersVoice.keyAt Suite.additive 0).cipherKey
          (speakersVoice.keyAt Suite.additive 0).vector.bytes message.ciphertext
          (associatedData message.keyId message.iteration)).toOption)) =
      some (5, 0, true, some [1, 2, 3]) := by decide +kernel
  rw [parsed, Option.map_some, Option.some.injEq, Prod.mk.injEq, Prod.mk.injEq, Prod.mk.injEq]
    at reads
  obtain ⟨keyId_eq, iteration_eq, verified, opened⟩ := reads
  exact ⟨message,
    { parsed := eq_ok_of_toOption parsed
      keyId_eq := keyId_eq
      iteration_eq := iteration_eq
      notLast := by decide
      verified := verified
      opened := eq_ok_of_toOption opened }⟩

/-- The listener waits for the first word, and loses it with the later invitation. -/
theorem overtaken_word_is_lost :
    (decrypt Suite.additive {} talk word Receiver.accept hasty (.repeated 0)).result =
        .ok [1, 2, 3] ∧
      (decrypt Suite.additive {} talk word Receiver.accept
        (process {} talk laterInvitation hasty (.repeated 0)).state (.repeated 0)).result ≠
          .ok [1, 2, 3] := by
  let log : ChainLog := ({ key := speakersVoice.signingKey } : ChainLog).read {} 1
  have reachable : Reachable Suite.additive {} hasty :=
    reachable_listener.step (.decrypt talk secondWord Receiver.accept) (.repeated 0)
  have found : ((hasty.senderKey talk).withId laterInvitation.id).toOption =
      some (speakersVoice.hearing Suite.additive log none) := by decide +kernel
  have tracks : speakersVoice.Tracks {} log :=
    { valid := (ChainLog.valid_new _ _).read (by decide)
      since := Nat.zero_le _ }
  have later : laterInvitation = speakersVoice.invitation Suite.additive 2 := by decide +kernel
  have waits : log.Grants {} 0 := .inl (by decide)
  obtain ⟨message, utters⟩ := utters_word
  obtain ⟨_, _, _, _, loses⟩ := held_key_starts_over (by decide) reachable
    (eq_ok_of_toOption found) (.repeated 0)
  obtain ⟨before, after⟩ := loses speakersVoice log none 2 rfl tracks (Nat.zero_le _) (by decide)
    later _ message utters (.repeated 0)
  refine ⟨before.mpr waits, fun read => ?_⟩
  exact absurd (after.mp read).1 (by decide)

end Group
end DoubleRatchet
