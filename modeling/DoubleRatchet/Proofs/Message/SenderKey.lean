import DoubleRatchet.Group.Chain
import DoubleRatchet.Message.SenderKey
import DoubleRatchet.Proofs.Message.Envelope

/-!
# Group messages that are read

A group message is read where the data hold its body, and a distribution message where the chain key
in the body is one. A message that was made and sent as bytes is read as the message that was made, and
its signature is checked over the bytes that were signed.
-/

namespace DoubleRatchet

variable {data : Bytes} {failure : Error}

namespace SenderKeyMessage

variable {suite : Suite} {body : Body} {message : SenderKeyMessage}

/-- Eight bytes hold the length of every ciphertext that fits into a memory. -/
def Body.Fits (body : Body) : Prop :=
  body.ciphertext.length < 1 <<< 64

theorem Body.exact_codec : Body.codec.Exact Body.Fits := by
  have parts := Codec.exact_word32.pair (Codec.exact_word32.pair (Codec.exact_counted .longString))
  refine (parts.map ?_ ?_).congr ?_
  · exact fun _ => rfl
  · exact fun _ _ => rfl
  · exact fun body => by simp only [true_and, Fits]

def received (data : Bytes) (body : Body) : SenderKeyMessage :=
  { version := Envelope.currentVersion
    keyId := body.keyId
    iteration := body.iteration
    ciphertext := body.ciphertext
    serialized := data }

/-- The data hold the message. -/
def Held (data : Bytes) (message : SenderKeyMessage) : Prop :=
  ∃ body : Body, body.Fits ∧ Envelope.Holds Body.codec signatureLength data body ∧
    received data body = message

theorem parse_eq : parse data =
    Envelope.unpack Body.codec signatureLength data >>= fun body => .ok (received data body) :=
  Envelope.unpack_bind fun version (body : Body) =>
    (.ok { received data body with version } : Except Error SenderKeyMessage)

theorem parse_eq_ok : parse data = .ok message ↔ Held data message := by
  simp only [parse_eq, Envelope.unpack_bind_eq_ok Body.exact_codec, Except.ok.injEq, Held]

theorem parse_eq_error (refused : parse data = .error failure) :
    Envelope.Rejects signatureLength data failure := by
  rw [parse_eq] at refused
  rcases Envelope.unpack_bind_eq_error Body.exact_codec refused with ⟨rejects, _⟩ | ⟨_, _, _, taken⟩
  · exact rejects
  · cases taken

/-- What the signature of a message covers. -/
def covered (body : Body) : Bytes :=
  Envelope.pack Body.codec Envelope.currentVersion body

/-- The message of a body with its signature. -/
def signed (body : Body) (signature : Block 64) : SenderKeyMessage :=
  { version := Envelope.currentVersion
    keyId := body.keyId
    iteration := body.iteration
    ciphertext := body.ciphertext
    serialized := covered body ++ signature.bytes }

theorem make_run (suite : Suite) (body : Body) (key : PrivateKey) (random : Randomness) :
    make suite Envelope.currentVersion body key random =
      (signed body (suite.sign key (covered body) (Randomness.draw 64 random).1),
        (Randomness.draw 64 random).2) := rfl

theorem length_ciphertext_le (body : Body) (signature : Block 64) :
    body.ciphertext.length ≤ (signed body signature).serialized.length := by
  have whole : Body.codec.encode body = Codec.word32.encode body.keyId ++
      (Codec.word32.encode body.iteration ++
        ((Codec.number 8).encode body.ciphertext.length ++ body.ciphertext)) := rfl
  simp only [signed, covered, Envelope.pack, whole, List.length_append, List.length_cons]
  omega

theorem held_signed (isFit : body.Fits) (signature : Block 64) :
    Held (signed body signature).serialized (signed body signature) := by
  refine ⟨body, isFit, ?_, rfl⟩
  have holds := Envelope.holds_pack Body.codec body signature.bytes
  rw [signature.length_eq] at holds
  exact holds

theorem parse_signed (fits : body.ciphertext.length < 1 <<< 64) (signature : Block 64) :
    parse (signed body signature).serialized = .ok (signed body signature) :=
  parse_eq_ok.mpr (held_signed fits signature)

theorem verifySignature_signed (suite : Suite) (signature : Block 64)
    (key : PublicKey) :
    (signed body signature).verifySignature suite key =
      suite.verify key (covered body) signature.bytes := by
  have front : (covered body ++ signature.bytes).length - signatureLength =
      (covered body).length := by
    rw [List.length_append, signature.length_eq]
    exact Nat.add_sub_cancel _ _
  simp only [verifySignature, signed, front, List.take_left, List.drop_left]

end SenderKeyMessage

namespace DistributionMessage

variable {message : DistributionMessage}

def Body.Fits (body : Body) : Prop :=
  body.chainKey.length < 1 <<< 64

theorem Body.exact_codec : Body.codec.Exact Body.Fits := by
  have parts := Codec.exact_word32.pair (Codec.exact_word32.pair
    ((Codec.exact_counted .longString).pair PublicKey.exact_codec))
  refine (parts.map ?_ ?_).congr ?_
  · exact fun _ => rfl
  · exact fun _ _ => rfl
  · exact fun body => by simp only [true_and, and_true, Fits]

theorem checkChainKey_eq_ok {bytes : Bytes} {chainKey : Block 32} :
    checkChainKey bytes = .ok chainKey ↔ bytes = chainKey.bytes := by
  rw [← Block.ofBytes?_eq_some, checkChainKey]
  cases Block.ofBytes? 32 bytes with
  | none => exact ⟨nofun, nofun⟩
  | some found =>
      exact ⟨fun same => congrArg _ (Except.ok.inj same),
        fun same => congrArg _ (Option.some.inj same)⟩

theorem checkChainKey_eq_error {bytes : Bytes} (refused : checkChainKey bytes = .error failure) :
    failure = .invalidMessage (.chainKeyLength bytes.length) := by
  unfold checkChainKey at refused
  split at refused
  · cases refused
    rfl
  · cases refused

/-- The bytes of a chain key fit. -/
theorem Body.fits_of_chainKey {body : Body} {chainKey : Block 32}
    (isKey : body.chainKey = chainKey.bytes) : body.Fits := by
  rw [Fits, isKey, chainKey.length_eq]
  decide

def received (data : Bytes) (body : Body) (chainKey : Block 32) : DistributionMessage :=
  { version := Envelope.currentVersion
    id := body.id
    iteration := body.iteration
    chainKey := chainKey
    signingKey := body.signingKey
    serialized := data }

/-- The data hold the message, and its body the chain key. -/
def Held (data : Bytes) (message : DistributionMessage) : Prop :=
  ∃ body : Body, body.Fits ∧ Envelope.Holds Body.codec 0 data body ∧
    ∃ chainKey : Block 32, body.chainKey = chainKey.bytes ∧ received data body chainKey = message

theorem parse_eq : parse data = Envelope.unpack Body.codec 0 data >>= fun body =>
    checkChainKey body.chainKey >>= fun chainKey => .ok (received data body chainKey) :=
  Envelope.unpack_bind fun version (body : Body) =>
    checkChainKey body.chainKey >>= fun chainKey =>
      (.ok { received data body chainKey with version } : Except Error DistributionMessage)

theorem parse_eq_ok : parse data = .ok message ↔ Held data message := by
  simp only [parse_eq, Envelope.unpack_bind_eq_ok Body.exact_codec, bind_eq_ok, checkChainKey_eq_ok,
    Except.ok.injEq, Held]

theorem parse_eq_error (refused : parse data = .error failure) :
    Envelope.Rejects 0 data failure := by
  rw [parse_eq] at refused
  rcases Envelope.unpack_bind_eq_error Body.exact_codec refused with ⟨rejects, _⟩ |
    ⟨body, _, holds, keyRefused⟩
  · exact rejects
  · cases checked : checkChainKey body.chainKey with
    | error reason =>
        rw [checked] at keyRefused
        cases keyRefused
        rw [checkChainKey_eq_error checked]
        exact holds.rejects_invalid _
    | ok chainKey =>
        rw [checked] at keyRefused
        cases keyRefused

/-- A body with a chain key makes a message, and what it is written as holds the message. -/
theorem make_of_chainKey {body : Body} {chainKey : Block 32} (isKey : body.chainKey = chainKey.bytes) :
    ∃ made, make Envelope.currentVersion body = .ok made ∧ Held made.serialized made := by
  refine ⟨received (Envelope.pack Body.codec Envelope.currentVersion body) body chainKey, ?_, body,
    Body.fits_of_chainKey isKey, ?_, chainKey, isKey, rfl⟩
  · rw [make, checkChainKey_eq_ok.mpr isKey]
    rfl
  · have holds := Envelope.holds_pack Body.codec body []
    rw [List.append_nil] at holds
    exact holds

def Body.handing (id : UInt32) (chain : SenderChainKey) (signingKey : PublicKey) : Body :=
  { id := id, iteration := chain.iteration, chainKey := chain.seed.bytes, signingKey := signingKey }

/-- The message that hands out a chain from where it is. -/
def handing (id : UInt32) (chain : SenderChainKey) (signingKey : PublicKey) :
    DistributionMessage :=
  { version := Envelope.currentVersion
    id := id
    iteration := chain.iteration
    chainKey := chain.seed
    signingKey := signingKey
    serialized := Envelope.pack Body.codec Envelope.currentVersion
      (Body.handing id chain signingKey) }

variable (id : UInt32) (chain : SenderChainKey) (signingKey : PublicKey)

theorem make_handing :
    make Envelope.currentVersion (Body.handing id chain signingKey) =
      .ok (handing id chain signingKey) := by
  have isKey : checkChainKey (Body.handing id chain signingKey).chainKey = .ok chain.seed :=
    checkChainKey_eq_ok.mpr rfl
  rw [make, isKey]
  rfl

theorem parse_handing :
    parse (handing id chain signingKey).serialized = .ok (handing id chain signingKey) := by
  obtain ⟨made, isMade, held⟩ :=
    make_of_chainKey (rfl : (Body.handing id chain signingKey).chainKey = chain.seed.bytes)
  rw [make_handing] at isMade
  cases isMade
  exact parse_eq_ok.mpr held

end DistributionMessage
end DoubleRatchet
