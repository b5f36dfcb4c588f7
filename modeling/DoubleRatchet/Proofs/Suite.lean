import DoubleRatchet.Session.Exchange

/-!
# What the protocol expects of a suite

Agreement is symmetric and never lands in the small subgroup when the other key is somebody's
public key, and opening undoes sealing. The additive suite has these properties and hides nothing:
each of its outputs carries the sum of its input's bytes. Two parties with keys of this suite serve as
examples.
-/

namespace DoubleRatchet
namespace Suite

/-- Both sides of an agreement find the same. -/
def AgreesBothWays (suite : Suite) : Prop :=
  ∀ left right, suite.agree left (suite.publicKey right) = suite.agree right (suite.publicKey left)

/-- Opening undoes sealing. -/
def OpensSealed (suite : Suite) : Prop :=
  ∀ key nonce plaintext associated,
    suite.decrypt key nonce (suite.encrypt key nonce plaintext associated) associated =
      some plaintext

/-- A signature is accepted under the public half of the key that made it. -/
def AcceptsSigned (suite : Suite) : Prop :=
  ∀ key message noise,
    suite.verify (suite.publicKey key) message (suite.sign key message noise).bytes = true

structure Lawful (suite : Suite) : Prop where
  agree_comm : ∀ left right,
    suite.agree left (suite.publicKey right) = suite.agree right (suite.publicKey left)
  agree_isSome : ∀ ours theirs, (suite.agree ours (suite.publicKey theirs)).isSome = true
  decrypt_encrypt : ∀ key nonce plaintext associated,
    suite.decrypt key nonce (suite.encrypt key nonce plaintext associated) associated =
      some plaintext

/-- What is made with the keys of a message is opened with the same keys. -/
theorem openText_sealText {suite : Suite} (opens : suite.OpensSealed) {config : Config} {key : Block 32}
    {vector plaintext ciphertext associated : Bytes}
    (made : suite.sealText config key vector plaintext associated = .ok ciphertext) :
    suite.openText config key vector ciphertext associated = .ok plaintext := by
  unfold sealText at made
  unfold openText
  cases found : nonce config vector with
  | error failure =>
      rw [found] at made
      cases made
  | ok nonce =>
      rw [found] at made
      cases made
      simp only [bind, Except.bind, opens key nonce plaintext associated]
      rfl

/-- Only the key material can be wrong when a text is sealed. -/
theorem sealText_eq_error {suite : Suite} {config : Config} {key : Block 32}
    {vector plaintext associated : Bytes} {failure : Failure}
    (failed : suite.sealText config key vector plaintext associated = .error failure) :
    ∃ reason, failure = .invalidKey reason := by
  unfold sealText nonce at failed
  split at failed
  · cases failed
    exact ⟨_, rfl⟩
  · split at failed
    · cases failed
      exact ⟨_, rfl⟩
    · cases failed

/-- A text is not opened with the wrong key material, or if it was not sealed with it. -/
theorem openText_eq_error {suite : Suite} {config : Config} {key : Block 32}
    {vector ciphertext associated : Bytes} {failure : Failure}
    (failed : suite.openText config key vector ciphertext associated = .error failure) :
    (∃ reason, failure = .invalidKey reason) ∨ failure = .invalidMessage .encryption := by
  unfold openText nonce at failed
  split at failed
  · cases failed
    exact .inl ⟨_, rfl⟩
  · split at failed
    · cases failed
      exact .inl ⟨_, rfl⟩
    · dsimp only [bind, Except.bind] at failed
      split at failed
      · cases failed
        exact .inr rfl
      · cases failed

def total : Bytes → UInt8
  | [] => 0
  | byte :: rest => byte + total rest

theorem total_append (left right : Bytes) : total (left ++ right) = total left + total right := by
  induction left with
  | nil => exact (UInt8.zero_add _).symm
  | cons byte rest ih => simp only [List.cons_append, total, ih, UInt8.add_assoc]

/-- The sum of some bytes, at the front of each piece of 32. -/
def summed (size : Nat) (bytes : Bytes) : Block size :=
  ⟨(List.range size).map fun index => if index % 32 = 0 then total bytes else 0, by simp⟩

def additive : Suite where
  publicKey key := ⟨key.scalar⟩
  agree ours theirs := some (summed 32 (ours.scalar.bytes ++ theirs.point.bytes))
  sign key message noise := summed 64 (key.scalar.bytes ++ message ++ noise.bytes)
  verify _ _ _ := true
  hash := summed 64
  tag key message := summed 32 (key ++ message)
  derive secret salt _ size := summed size (secret ++ salt.getD [])
  encrypt _ _ plaintext _ := plaintext
  decrypt _ _ ciphertext _ := some ciphertext

theorem additive_lawful : additive.Lawful where
  agree_comm left right := by
    simp only [additive, summed, total_append, UInt8.add_comm]
  agree_isSome _ _ := rfl
  decrypt_encrypt _ _ _ _ := rfl

theorem additive_acceptsSigned : additive.AcceptsSigned := fun _ _ _ => rfl

end Suite

/-- A stream of one byte again and again. -/
def Randomness.repeated (byte : UInt8) : Randomness :=
  { ready := [], block := fun _ => Block.fill 32 byte, next := 0 }

/-- A stream that repeats one byte through a block, and the next byte through the next. -/
def Randomness.counting (start : UInt8) : Randomness :=
  { ready := [], block := fun index => Block.fill 32 (start + .ofNat index), next := 0 }

/-- A pair of the additive suite whose private half carries one byte. -/
def KeyPair.additive (byte : UInt8) : KeyPair :=
  .ofPrivate Suite.additive ⟨Suite.summed 32 [byte]⟩

/-! ## Two parties -/

/-- A party that has met nobody and keeps one prekey of each kind. -/
def Store.newcomer : Store :=
  { identity := KeyPair.additive 1
    registrationId := 1
    preKeys := Table.insert 6 { id := 6, keyPair := KeyPair.additive 3 } .empty
    signedPreKeys := Table.insert 7
      { id := 7, timestamp := 0, keyPair := KeyPair.additive 2, signature := [] } .empty }

def Address.newcomer : Address := ⟨"newcomer", 1⟩

/-- What the newcomer offers, without its one-time prekey. -/
def PreKeyBundle.newcomer : PreKeyBundle :=
  { registrationId := 1
    device := 1
    preKeyId := none
    preKey := none
    signedPreKeyId := 7
    signedPreKey := some (KeyPair.additive 2).publicKey
    signedPreKeySignature := []
    identityKey := (KeyPair.additive 1).publicKey }

def Address.caller : Address := ⟨"caller", 1⟩

/-- A party that has begun a session with the newcomer. -/
def Store.caller : Store :=
  (Session.processBundle Suite.additive {} .newcomer .newcomer
    { identity := KeyPair.additive 4, registrationId := 2 } (.repeated 8)).state

/-- The caller's messages to the newcomer. -/
def CiphertextMessage.firstCall : CiphertextMessage :=
  (Session.encrypt Suite.additive {} .newcomer [1, 2, 3] .caller (.repeated 0)).result.toOption.get
    (by decide +kernel)

def CiphertextMessage.secondCall : CiphertextMessage :=
  let sent := Session.encrypt Suite.additive {} .newcomer [1, 2, 3] .caller (.repeated 0)
  (Session.encrypt Suite.additive {} .newcomer [4, 5] sent.state (.repeated 0)).result.toOption.get
    (by decide +kernel)

/-- The newcomer after it has read the first call. -/
def Store.called : Store :=
  (Session.decrypt Suite.additive {} .caller .firstCall Receiver.accept .newcomer
    (.repeated 16)).state

end DoubleRatchet
