import DoubleRatchet.Message.PreKey
import DoubleRatchet.Proofs.Message.Envelope

/-!
# Session messages that are read

A session message is read where the data hold its body, and a first message where the data hold its
body and this body a session message.
-/

namespace DoubleRatchet

variable {suite : Suite} {config : Config} {data : Bytes} {failure : Error}

namespace SignalMessage

variable {message other : SignalMessage}

/-- Eight bytes hold the length of every ciphertext that fits into a memory. -/
def Body.Fits (body : Body) : Prop :=
  body.ciphertext.length < 1 <<< 64

theorem Body.exact_codec : Body.codec.Exact Body.Fits := by
  have parts := PublicKey.exact_codec.pair (Codec.exact_word32.pair
    (Codec.exact_word32.pair (Codec.exact_counted .longString)))
  refine (parts.map ?_ ?_).congr ?_
  · exact fun _ => rfl
  · exact fun _ _ => rfl
  · exact fun body => by simp only [true_and, Fits]

/-- The message with this body, read from these data. -/
def received (data : Bytes) (body : Body) : SignalMessage :=
  { version := Envelope.currentVersion
    ratchetKey := body.ratchetKey
    counter := body.counter
    previousCounter := body.previousCounter
    ciphertext := body.ciphertext
    serialized := data }

/-- The data hold the message. -/
def Held (config : Config) (data : Bytes) (message : SignalMessage) : Prop :=
  ∃ body : Body, body.Fits ∧ Envelope.Holds Body.codec config.macLength data body ∧
    received data body = message

theorem parse_eq : parse config data =
    Envelope.unpack Body.codec config.macLength data >>= fun body => .ok (received data body) :=
  Envelope.unpack_bind fun version (body : Body) =>
    (.ok { received data body with version } : Except Error SignalMessage)

theorem parse_eq_ok : parse config data = .ok message ↔ Held config data message := by
  simp only [parse_eq, Envelope.unpack_bind_eq_ok Body.exact_codec, Except.ok.injEq, Held]

theorem parse_eq_error (refused : parse config data = .error failure) :
    Envelope.Rejects config.macLength data failure := by
  rw [parse_eq] at refused
  rcases Envelope.unpack_bind_eq_error Body.exact_codec refused with ⟨rejects, _⟩ | ⟨_, _, _, taken⟩
  · exact rejects
  · cases taken

theorem version_of_parse (parsed : parse config data = .ok message) :
    message.version = Envelope.currentVersion := by
  obtain ⟨body, _, _, rfl⟩ := parse_eq_ok.mp parsed
  rfl

theorem serialized_of_parse (parsed : parse config data = .ok message) :
    message.serialized = data := by
  obtain ⟨body, _, _, rfl⟩ := parse_eq_ok.mp parsed
  rfl

/-- A message that was read is longer than its code, so the code is cut off its end. -/
theorem macLength_lt_of_parse (parsed : parse config data = .ok message) :
    config.macLength < message.serialized.length := by
  rw [serialized_of_parse parsed]
  obtain ⟨body, _, holds, _⟩ := parse_eq_ok.mp parsed
  exact holds.length_lt

theorem length_mac (short : config.macLength ≤ 32) (macKey : Bytes) (sender receiver : PublicKey)
    (covered : Bytes) : (mac suite config macKey sender receiver covered).length = config.macLength := by
  simp only [mac, List.length_take, Block.length_eq]
  omega

/-- A code that is cut to at most its own length verifies under the key that it was made with. -/
theorem verifyMac_make (short : config.macLength ≤ 32) (version : UInt8) (macKey : Bytes)
    (body : Body) (sender receiver : PublicKey) :
    (make suite config version macKey body sender receiver).verifyMac suite config sender receiver
      macKey = true := by
  simp only [verifyMac, make, List.length_append, length_mac short, Nat.add_sub_cancel,
    List.take_left, List.drop_left, beq_self_eq_true]

/-- A message that was made is held by what it was written as. -/
theorem held_make (short : config.macLength ≤ 32) (macKey : Bytes) {body : Body} (isFit : body.Fits)
    (sender receiver : PublicKey) :
    Held config (make suite config Envelope.currentVersion macKey body sender receiver).serialized
      (make suite config Envelope.currentVersion macKey body sender receiver) := by
  refine ⟨body, isFit, ?_, rfl⟩
  have holds := Envelope.holds_pack Body.codec body (mac suite config macKey sender receiver
    (Envelope.pack Body.codec Envelope.currentVersion body))
  rw [length_mac short] at holds
  exact holds

end SignalMessage

namespace PreKeyMessage

variable {message other : PreKeyMessage} {inner : SignalMessage}

def Body.Fits (body : Body) : Prop :=
  body.message.length < 1 <<< 64

theorem Body.exact_codec : Body.codec.Exact Body.Fits := by
  have parts := Codec.exact_word32.pair (Codec.exact_word32.optional.pair
    (Codec.exact_word32.pair (PublicKey.exact_codec.pair (PublicKey.exact_codec.pair
      (Codec.exact_counted .longString)))))
  refine (parts.map ?_ ?_).congr ?_
  · exact fun _ => rfl
  · exact fun _ _ => rfl
  · exact fun body => by simp only [true_and, implies_true, Fits]

def received (data : Bytes) (body : Body) (inner : SignalMessage) : PreKeyMessage :=
  { version := Envelope.currentVersion
    registrationId := body.registrationId
    preKeyId := body.preKeyId
    signedPreKeyId := body.signedPreKeyId
    baseKey := body.baseKey
    identityKey := body.identityKey
    message := inner
    serialized := data }

/-- The data hold the message, and its body the session message in it. -/
def Held (config : Config) (data : Bytes) (message : PreKeyMessage) : Prop :=
  ∃ body : Body, body.Fits ∧ Envelope.Holds Body.codec 0 data body ∧
    ∃ inner : SignalMessage, inner.Held config body.message ∧ received data body inner = message

/-- What is said to data that cannot be read: what the session message in it is answered, and before
that body is read, what the data are answered themselves. -/
structure Rejects (config : Config) (data : Bytes) (failure : Error) : Prop where
  inner : ∀ body : Body, body.Fits → Envelope.Holds Body.codec 0 data body →
    Envelope.Rejects config.macLength body.message failure
  outer : (∀ body : Body, body.Fits → ¬Envelope.Holds Body.codec 0 data body) →
    Envelope.Rejects 0 data failure

theorem parse_eq : parse config data = Envelope.unpack Body.codec 0 data >>= fun body =>
    SignalMessage.parse config body.message >>= fun inner => .ok (received data body inner) :=
  Envelope.unpack_bind fun version (body : Body) =>
    SignalMessage.parse config body.message >>= fun inner =>
      (.ok { received data body inner with version } : Except Error PreKeyMessage)

theorem parse_eq_ok : parse config data = .ok message ↔ Held config data message := by
  simp only [parse_eq, Envelope.unpack_bind_eq_ok Body.exact_codec, bind_eq_ok,
    SignalMessage.parse_eq_ok, Except.ok.injEq, Held]

theorem parse_eq_error (refused : parse config data = .error failure) :
    Rejects config data failure := by
  rw [parse_eq] at refused
  rcases Envelope.unpack_bind_eq_error Body.exact_codec refused with ⟨rejects, absent⟩ |
    ⟨body, isFit, holds, innerRefused⟩
  · exact ⟨fun body isFit holds => absurd holds (absent body isFit), fun _ => rejects⟩
  · refine ⟨?_, fun absent => absurd holds (absent body isFit)⟩
    intro other otherFits holdsOther
    rw [holdsOther.unique Body.exact_codec otherFits isFit holds]
    cases parsed : SignalMessage.parse config body.message with
    | error reason =>
        rw [parsed] at innerRefused
        cases innerRefused
        exact SignalMessage.parse_eq_error parsed
    | ok inner =>
        rw [parsed] at innerRefused
        cases innerRefused

theorem version_of_parse (parsed : parse config data = .ok message) :
    message.version = Envelope.currentVersion := by
  obtain ⟨_, _, _, _, _, rfl⟩ := parse_eq_ok.mp parsed
  rfl

/-- A message that was made around a session message that reads back is held by what it was written
as. -/
theorem held_make (registrationId : UInt32) (preKeyId : Option UInt32) (signedPreKeyId : UInt32)
    (baseKey identityKey : PublicKey) (isFit : inner.serialized.length < 1 <<< 64)
    (held : inner.Held config inner.serialized) :
    Held config (make Envelope.currentVersion registrationId preKeyId signedPreKeyId baseKey
        identityKey inner).serialized
      (make Envelope.currentVersion registrationId preKeyId signedPreKeyId baseKey identityKey
        inner) := by
  let body : Body :=
    { registrationId, preKeyId, signedPreKeyId, baseKey, identityKey, message := inner.serialized }
  refine ⟨body, isFit, ?_, inner, held, rfl⟩
  have holds := Envelope.holds_pack Body.codec body []
  rw [List.append_nil] at holds
  exact holds

end PreKeyMessage
end DoubleRatchet
