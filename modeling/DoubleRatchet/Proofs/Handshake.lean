import DoubleRatchet.Handshake
import DoubleRatchet.Proofs.Step
import DoubleRatchet.Proofs.Suite

/-!
# What a handshake leaves

The state of each side after a handshake, and the secret that both sides find when they look at the
same keys.
-/

namespace DoubleRatchet

/-! ## Agreement -/

namespace KeyPair

variable {suite : Suite} {ours theirs : KeyPair}

/-- The halves of the pair belong together. -/
def Matches (suite : Suite) (pair : KeyPair) : Prop :=
  pair.publicKey = suite.publicKey pair.privateKey

theorem matches_generate (suite : Suite) (random : Randomness) :
    (generate suite random).1.Matches suite := rfl

theorem agreement_comm (bothWays : suite.AgreesBothWays) (oursMatch : ours.Matches suite)
    (theirsMatch : theirs.Matches suite) :
    ours.agreement suite theirs.publicKey = theirs.agreement suite ours.publicKey := by
  unfold agreement PrivateKey.agreement
  rw [oursMatch, theirsMatch, bothWays]

theorem agreement_isOk (ours : KeyPair) (lawful : suite.Lawful) (theirsMatch : theirs.Matches suite) :
    ∃ shared, ours.agreement suite theirs.publicKey = .ok shared := by
  have agrees := lawful.agree_isSome ours.privateKey theirs.privateKey
  rw [← theirsMatch] at agrees
  obtain ⟨shared, found⟩ := Option.isSome_iff_exists.mp agrees
  refine ⟨shared, ?_⟩
  unfold agreement PrivateKey.agreement
  rw [found]

end KeyPair

namespace RootKey

variable {suite : Suite} {ours theirs : KeyPair}

/-- Either side of an agreement takes the same step. -/
theorem step_comm (bothWays : suite.AgreesBothWays) (root : RootKey) (oursMatch : ours.Matches suite)
    (theirsMatch : theirs.Matches suite) :
    root.step suite theirs.publicKey ours = root.step suite ours.publicKey theirs := by
  unfold step
  rw [KeyPair.agreement_comm bothWays oursMatch theirsMatch]

theorem step_isOk (ours : KeyPair) (lawful : suite.Lawful) (root : RootKey)
    (theirsMatch : theirs.Matches suite) :
    ∃ next, root.step suite theirs.publicKey ours = .ok next ∧ next.chain.index = 0 := by
  obtain ⟨shared, agreed⟩ := KeyPair.agreement_isOk ours lawful theirsMatch
  unfold step
  rw [agreed]
  exact ⟨_, rfl, rfl⟩

/-- A step finds an agreement and stretches it. -/
theorem step_eq_ok {root : RootKey} {key : PublicKey} {next : RootStep}
    (stepped : root.step suite key ours = .ok next) :
    ∃ shared : Block 32, ours.agreement suite key = .ok shared ∧
      let secrets := RootSecrets.split (suite.derive shared.bytes (some root.key.bytes) info 96)
      next =
        { root := ⟨secrets.root⟩
          chain := { key := secrets.chain, index := 0 }
          auth := { key := secrets.auth.bytes, lastKey := secrets.auth.bytes, epoch := 0 } } := by
  unfold step at stepped
  cases agreed : ours.agreement suite key with
  | error failure =>
      rw [agreed] at stepped
      cases stepped
  | ok shared =>
      rw [agreed] at stepped
      cases stepped
      exact ⟨shared, rfl, rfl⟩

theorem index_of_step {root : RootKey} {key : PublicKey} {next : RootStep}
    (stepped : root.step suite key ours = .ok next) : next.chain.index = 0 := by
  obtain ⟨_, _, rfl⟩ := step_eq_ok stepped
  rfl

theorem length_auth_of_step {root : RootKey} {key : PublicKey} {next : RootStep}
    (stepped : root.step suite key ours = .ok next) : next.auth.key.length = 32 := by
  obtain ⟨_, _, rfl⟩ := step_eq_ok stepped
  exact Block.length_eq _

end RootKey

theorem AuthKey.advance_eq_ok {auth next : AuthKey} {key : Bytes} :
    auth.advance key = .ok next ↔
      auth.epoch ≠ 0xffffffff ∧
        next = { key := key, lastKey := auth.key, epoch := auth.epoch + 1 } :=
  successor_bind_eq_ok

namespace Handshake

variable {suite : Suite} {config : Config} {state after : SessionState} {random rest : Randomness}

/-- The two sides look at the same keys, and every pair is a pair. -/
structure Mirrored (suite : Suite) (initiator : Initiator) (responder : Responder) : Prop where
  initiatorIdentity : responder.theirIdentity = initiator.ourIdentity.publicKey
  initiatorBase : responder.theirBase = initiator.ourBase.publicKey
  responderIdentity : initiator.theirIdentity = responder.ourIdentity.publicKey
  signedPreKey : initiator.theirSignedPreKey = responder.ourSignedPreKey.publicKey
  oneTimePreKey : initiator.theirOneTimePreKey = responder.ourOneTimePreKey.map KeyPair.publicKey
  ratchet : initiator.theirRatchet = responder.ourRatchet.publicKey
  identityMatches : initiator.ourIdentity.Matches suite
  baseMatches : initiator.ourBase.Matches suite
  theirIdentityMatches : responder.ourIdentity.Matches suite
  signedPreKeyMatches : responder.ourSignedPreKey.Matches suite
  oneTimePreKeyMatches : ∀ pair, responder.ourOneTimePreKey = some pair → pair.Matches suite
  ratchetMatches : responder.ourRatchet.Matches suite

variable {initiator : Initiator} {responder : Responder}

theorem Mirrored.secret_eq (bothWays : suite.AgreesBothWays)
    (mirrored : Mirrored suite initiator responder) :
    initiator.secret suite = responder.secret suite := by
  have first := KeyPair.agreement_comm bothWays mirrored.identityMatches mirrored.signedPreKeyMatches
  have second := KeyPair.agreement_comm bothWays mirrored.baseMatches mirrored.theirIdentityMatches
  have third := KeyPair.agreement_comm bothWays mirrored.baseMatches mirrored.signedPreKeyMatches
  unfold Initiator.secret Responder.secret
  rw [mirrored.signedPreKey, mirrored.responderIdentity, mirrored.initiatorIdentity,
    mirrored.initiatorBase, mirrored.oneTimePreKey, first, second, third]
  cases used : responder.ourOneTimePreKey with
  | none => rfl
  | some pair =>
      have fourth := KeyPair.agreement_comm bothWays mirrored.baseMatches
        (mirrored.oneTimePreKeyMatches pair used)
      simp only [Option.map_some, fourth]

theorem Mirrored.secret_isOk (lawful : suite.Lawful)
    (mirrored : Mirrored suite initiator responder) :
    ∃ secret, initiator.secret suite = .ok secret := by
  obtain ⟨first, firstOk⟩ := KeyPair.agreement_isOk initiator.ourIdentity lawful
    mirrored.signedPreKeyMatches
  obtain ⟨second, secondOk⟩ := KeyPair.agreement_isOk initiator.ourBase lawful
    mirrored.theirIdentityMatches
  obtain ⟨third, thirdOk⟩ := KeyPair.agreement_isOk initiator.ourBase lawful
    mirrored.signedPreKeyMatches
  unfold Initiator.secret
  rw [mirrored.signedPreKey, mirrored.responderIdentity, mirrored.oneTimePreKey, firstOk, secondOk,
    thirdOk]
  cases used : responder.ourOneTimePreKey with
  | none => exact ⟨_, rfl⟩
  | some pair =>
      obtain ⟨fourth, fourthOk⟩ := KeyPair.agreement_isOk initiator.ourBase lawful
        (mirrored.oneTimePreKeyMatches pair used)
      simp only [Option.map_some, fourthOk]
      exact ⟨_, rfl⟩

/-! ## The state of each side -/

/-- The state of an initiator that found `secret`, drew `ratchet` and took the step `sending`. -/
def Initiator.begun (suite : Suite) (config : Config) (keys : Initiator) (secret : Bytes)
    (ratchet : KeyPair) (sending : RootStep) (state : SessionState) : SessionState :=
  let first := firstStep suite secret state.authKey.key
  let initial := initialHash suite keys.theirSignedPreKey keys.theirOneTimePreKey
    keys.ourIdentity.publicKey keys.theirIdentity
  let last := linkHash suite initial keys.theirRatchet
  { state.addReceiverChain config keys.theirRatchet first.chain with
    version := Envelope.currentVersion
    remoteIdentity := some keys.theirIdentity
    localIdentity := some keys.ourIdentity.publicKey
    senderChain := some { ratchetKey := ratchet, chainKey := sending.chain }
    rootKey := some sending.root
    authKey := first.auth
    lastFingerprintHash := last
    fingerprintHash := linkHash suite last ratchet.publicKey }

theorem Initiator.establish_eq_ok :
    initiator.establish suite config state random = ⟨.ok (), after, rest⟩ ↔
      ∃ secret sending, initiator.secret suite = .ok secret ∧
        (firstStep suite secret state.authKey.key).root.step suite initiator.theirRatchet
          (KeyPair.generate suite random).1 = .ok sending ∧
        after = initiator.begun suite config secret (KeyPair.generate suite random).1 sending
          state ∧
        rest = (KeyPair.generate suite random).2 := by
  unfold Initiator.establish
  constructor
  · intro succeeded
    obtain ⟨secret, found, stepping⟩ := Step.lift_bind_eq_ok.mp succeeded
    rw [Step.get_bind, Step.draw_bind] at stepping
    obtain ⟨sending, stepped, settled⟩ := Step.lift_bind_eq_ok.mp stepping
    cases settled
    exact ⟨secret, sending, found, stepped, rfl, rfl⟩
  · rintro ⟨secret, sending, found, stepped, rfl, rfl⟩
    refine Step.lift_bind_eq_ok.mpr ⟨secret, found, ?_⟩
    rw [Step.get_bind, Step.draw_bind]
    exact Step.lift_bind_eq_ok.mpr ⟨sending, stepped, rfl⟩

/-- The state of a responder that found `secret`. -/
def Responder.begun (suite : Suite) (keys : Responder) (secret : Bytes) (state : SessionState) :
    SessionState :=
  let first := firstStep suite secret state.authKey.key
  let initial := initialHash suite keys.ourSignedPreKey.publicKey
    (keys.ourOneTimePreKey.map KeyPair.publicKey) keys.theirIdentity keys.ourIdentity.publicKey
  { state with
    version := Envelope.currentVersion
    remoteIdentity := some keys.theirIdentity
    localIdentity := some keys.ourIdentity.publicKey
    senderChain := some { ratchetKey := keys.ourRatchet, chainKey := first.chain }
    rootKey := some first.root
    authKey := first.auth
    lastFingerprintHash := initial
    fingerprintHash := linkHash suite initial keys.ourRatchet.publicKey }

theorem Responder.establish_eq_ok :
    responder.establish suite state random = ⟨.ok (), after, rest⟩ ↔
      ∃ secret, responder.secret suite = .ok secret ∧
        after = responder.begun suite secret state ∧ rest = random := by
  unfold Responder.establish
  constructor
  · intro succeeded
    obtain ⟨secret, found, settled⟩ := Step.lift_bind_eq_ok.mp succeeded
    rw [Step.get_bind] at settled
    cases settled
    exact ⟨secret, found, rfl, rfl⟩
  · rintro ⟨secret, found, rfl, rfl⟩
    refine Step.lift_bind_eq_ok.mpr ⟨secret, found, ?_⟩
    rw [Step.get_bind]
    rfl

end Handshake
end DoubleRatchet
