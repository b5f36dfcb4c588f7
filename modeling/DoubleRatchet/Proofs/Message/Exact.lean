import DoubleRatchet.Proofs.Message.SenderKey
import DoubleRatchet.Proofs.Message.Signal
import DoubleRatchet.Proofs.Suite

/-!
# The written forms are exact

All four kinds of messages are read from just the data that hold one: whatever was made is read back,
whatever is read is what the data hold, and data that hold none are told why.
-/

namespace DoubleRatchet

variable {suite : Suite} {config : Config}

/-- A reader that reads back what was made, reads what the data hold and nothing else, and says of all
other data what is wrong with them. -/
structure ReadsExactly {μ : Type} (parse : Bytes → Except Error μ) (serialized : μ → Bytes)
    (Made : μ → Prop) (Held : Bytes → μ → Prop) (Rejects : Bytes → Error → Prop) : Prop where
  made : ∀ message, Made message → parse (serialized message) = .ok message
  held : ∀ data message, parse data = .ok message ↔ Held data message
  unique : ∀ data message other, Held data message → Held data other → message = other
  rejected : ∀ data failure, parse data = .error failure → Rejects data failure

/-- What data hold is read, so they cannot hold two messages. -/
theorem ReadsExactly.of_held {μ : Type} {parse : Bytes → Except Error μ} {serialized : μ → Bytes}
    {Made : μ → Prop} {Held : Bytes → μ → Prop} {Rejects : Bytes → Error → Prop}
    (held_made : ∀ message, Made message → Held (serialized message) message)
    (parse_eq_ok : ∀ data message, parse data = .ok message ↔ Held data message)
    (parse_eq_error : ∀ data failure, parse data = .error failure → Rejects data failure) :
    ReadsExactly parse serialized Made Held Rejects where
  made message isMade := (parse_eq_ok _ message).mpr (held_made message isMade)
  held := parse_eq_ok
  unique data message other isHeld otherHeld := by
    have found := (parse_eq_ok data message).mpr isHeld
    rw [(parse_eq_ok data other).mpr otherHeld] at found
    exact (Except.ok.inj found).symm
  rejected := parse_eq_error

/-- The message was made with the current version. -/
def SignalMessage.Made (suite : Suite) (config : Config) (message : SignalMessage) : Prop :=
  ∃ (macKey : Bytes) (body : Body) (sender receiver : PublicKey), body.Fits ∧
    message = make suite config Envelope.currentVersion macKey body sender receiver

/-- The message was made with the current version around a session message that was made or read. -/
def PreKeyMessage.Made (suite : Suite) (config : Config) (message : PreKeyMessage) : Prop :=
  ∃ (registrationId : UInt32) (preKeyId : Option UInt32) (signedPreKeyId : UInt32)
    (baseKey identityKey : PublicKey) (inner : SignalMessage),
    inner.serialized.length < 1 <<< 64 ∧
    (inner.Made suite config ∨ ∃ data, SignalMessage.parse config data = .ok inner) ∧
    message = make Envelope.currentVersion registrationId preKeyId signedPreKeyId baseKey
      identityKey inner

def SenderKeyMessage.Made (suite : Suite) (message : SenderKeyMessage) : Prop :=
  ∃ (body : Body) (key : PrivateKey) (random : Randomness), body.Fits ∧
    message = (make suite Envelope.currentVersion body key random).1

def DistributionMessage.Made (message : DistributionMessage) : Prop :=
  ∃ body : Body, make Envelope.currentVersion body = .ok message

theorem SignalMessage.Made.held (short : config.macLength ≤ 32) {message : SignalMessage}
    (isMade : message.Made suite config) : message.Held config message.serialized := by
  obtain ⟨macKey, body, sender, receiver, isFit, rfl⟩ := isMade
  exact held_make short macKey isFit sender receiver

theorem PreKeyMessage.Made.held (short : config.macLength ≤ 32) {message : PreKeyMessage}
    (isMade : message.Made suite config) : message.Held config message.serialized := by
  obtain ⟨registrationId, preKeyId, signedPreKeyId, baseKey, identityKey, inner, isFit, formed, rfl⟩ :=
    isMade
  apply held_make registrationId preKeyId signedPreKeyId baseKey identityKey isFit
  rcases formed with innerMade | ⟨data, parsed⟩
  · exact innerMade.held short
  · rw [SignalMessage.serialized_of_parse parsed]
    exact SignalMessage.parse_eq_ok.mp parsed

theorem SenderKeyMessage.Made.held {message : SenderKeyMessage} (isMade : message.Made suite) :
    Held message.serialized message := by
  obtain ⟨body, key, random, isFit, rfl⟩ := isMade
  rw [make_run]
  exact held_signed isFit _

theorem DistributionMessage.Made.held {message : DistributionMessage} (isMade : message.Made) :
    Held message.serialized message := by
  obtain ⟨body, made⟩ := isMade
  obtain ⟨chainKey, checked, _⟩ := bind_eq_ok.mp made
  obtain ⟨other, otherMade, held⟩ := make_of_chainKey (checkChainKey_eq_ok.mp checked)
  rw [made] at otherMade
  cases otherMade
  exact held

theorem messages_are_read_exactly (suite : Suite) (config : Config) (short : config.macLength ≤ 32) :
    ReadsExactly (SignalMessage.parse config) SignalMessage.serialized
        (SignalMessage.Made suite config) (SignalMessage.Held config)
        (Envelope.Rejects config.macLength) ∧
      ReadsExactly (PreKeyMessage.parse config) PreKeyMessage.serialized
        (PreKeyMessage.Made suite config) (PreKeyMessage.Held config)
        (PreKeyMessage.Rejects config) ∧
      ReadsExactly SenderKeyMessage.parse SenderKeyMessage.serialized
        (SenderKeyMessage.Made suite) SenderKeyMessage.Held
        (Envelope.Rejects SenderKeyMessage.signatureLength) ∧
      ReadsExactly DistributionMessage.parse DistributionMessage.serialized
        DistributionMessage.Made DistributionMessage.Held (Envelope.Rejects 0) ∧
      ∀ body : DistributionMessage.Body, body.chainKey.length = 32 →
        ∃ message, DistributionMessage.make Envelope.currentVersion body = .ok message := by
  refine ⟨?signal, ?preKey, ?senderKey, ?distribution, ?chainKey⟩
  case signal =>
    exact .of_held (fun _ isMade => isMade.held short) (fun _ _ => SignalMessage.parse_eq_ok)
      fun _ _ => SignalMessage.parse_eq_error
  case preKey =>
    exact .of_held (fun _ isMade => isMade.held short) (fun _ _ => PreKeyMessage.parse_eq_ok)
      fun _ _ => PreKeyMessage.parse_eq_error
  case senderKey =>
    exact .of_held (fun _ isMade => isMade.held) (fun _ _ => SenderKeyMessage.parse_eq_ok)
      fun _ _ => SenderKeyMessage.parse_eq_error
  case distribution =>
    exact .of_held (fun _ isMade => isMade.held) (fun _ _ => DistributionMessage.parse_eq_ok)
      fun _ _ => DistributionMessage.parse_eq_error
  case chainKey =>
    intro body length_eq
    let chainKey : Block 32 := ⟨body.chainKey, length_eq⟩
    have isKey : body.chainKey = chainKey.bytes := rfl
    obtain ⟨made, isMade, _⟩ := DistributionMessage.make_of_chainKey isKey
    exact ⟨made, isMade⟩

/-- A first message around a short text. -/
def shortCall : PreKeyMessage :=
  .make Envelope.currentVersion 2 (some 6) 7 ⟨.fill 32 1⟩ ⟨.fill 32 4⟩
    (.make Suite.additive {} Envelope.currentVersion [8]
      { ratchetKey := ⟨.fill 32 5⟩, counter := 3, previousCounter := 1, ciphertext := [1, 2, 3] }
      ⟨.fill 32 4⟩ ⟨.fill 32 2⟩)

theorem shortCall_reads_back : PreKeyMessage.parse {} shortCall.serialized = .ok shortCall := by
  have exact := messages_are_read_exactly Suite.additive {} (by decide)
  refine exact.2.1.made _ ⟨2, some 6, 7, _, _, _, ?_, .inl ⟨[8], _, _, _, ?_, rfl⟩, rfl⟩
  · decide
  · change ([1, 2, 3] : Bytes).length < 1 <<< 64
    decide

end DoubleRatchet
