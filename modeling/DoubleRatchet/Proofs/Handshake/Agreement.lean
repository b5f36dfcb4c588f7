import DoubleRatchet.Proofs.Handshake

/-!
# The two sides of a handshake meet

Two sides that look at the same keys, and start from fresh states, end in states that fit together:
the same secret, the same authentication key, the chain that one side sends on is the one that the
other side receives on, and the responder's root key takes the initiator's first step. Which side is
the initiator may be known beforehand or settled by the order of the base keys.
-/

namespace DoubleRatchet

/-! ## The order of public keys -/

namespace PublicKey

variable {left right : PublicKey}

theorem encode_injective (same : left.encode = right.encode) : left = right := by
  obtain ⟨leftPoint⟩ := left
  obtain ⟨rightPoint⟩ := right
  have points : leftPoint.bytes = rightPoint.bytes := (List.cons.inj same).2
  rw [Block.ext points]

theorem lt_asymm (below : left < right) : ¬right < left :=
  List.lt_asymm (α := UInt8) below

/-- Of two different keys, one is the smaller. -/
theorem lt_of_not_lt (distinct : left ≠ right) (notBelow : ¬left < right) : right < left := by
  have encodings : right.encode ≠ left.encode :=
    fun same => distinct (encode_injective same.symm)
  exact Std.lt_of_le_of_ne (α := List UInt8) (List.not_lt.mp notBelow) encodings

end PublicKey

namespace Handshake

variable {suite : Suite} {config : Config} {initiator : Initiator} {responder : Responder}
  {begun joined : SessionState} {random rest other otherRest : Randomness}

/-- Where the states of the two sides fit together. The initiator keeps the responder's chain only
under a limit that lets it keep one. -/
structure Meets (suite : Suite) (config : Config) (initiator : Initiator) (responder : Responder)
    (begun joined : SessionState) : Prop where
  secret : ∃ secret, initiator.secret suite = .ok secret ∧ responder.secret suite = .ok secret
  auth : begun.authKey = joined.authKey
  chain : 1 ≤ config.maxReceiverChains →
    ∃ receiving sending, begun.receiverChain? responder.ourRatchet.publicKey = some receiving ∧
      joined.senderChain = some sending ∧ sending.ratchetKey = responder.ourRatchet ∧
      receiving.chainKey = sending.chainKey
  step : ∃ root sending next, joined.rootKey = some root ∧ begun.senderChain = some sending ∧
    root.step suite sending.ratchetKey.publicKey responder.ourRatchet = .ok next ∧
    sending.chainKey = next.chain ∧ begun.rootKey = some next.root
  identities : begun.identities =
      .ok (initiator.ourIdentity.publicKey, responder.ourIdentity.publicKey) ∧
    joined.identities = .ok (responder.ourIdentity.publicKey, initiator.ourIdentity.publicKey)
  hash : begun.lastFingerprintHash = joined.fingerprintHash

/-- The only chain of a state that had none. -/
theorem receiverChain?_addReceiverChain_empty (keeps : 1 ≤ config.maxReceiverChains)
    (key : PublicKey) (chain : ChainKey) (state : SessionState) (none : state.receiverChains = []) :
    (state.addReceiverChain config key chain).receiverChain? key =
      some { ratchetKey := key, chainKey := chain } := by
  unfold SessionState.receiverChain? SessionState.addReceiverChain
  rw [none]
  simp [Nat.sub_eq_zero_of_le keeps]

/-- The hash chains of the two sides are one link apart. -/
theorem Mirrored.initialHash_eq (mirrored : Mirrored suite initiator responder) :
    initialHash suite initiator.theirSignedPreKey initiator.theirOneTimePreKey
        initiator.ourIdentity.publicKey initiator.theirIdentity =
      initialHash suite responder.ourSignedPreKey.publicKey
        (responder.ourOneTimePreKey.map KeyPair.publicKey) responder.theirIdentity
        responder.ourIdentity.publicKey := by
  rw [mirrored.signedPreKey, mirrored.oneTimePreKey, mirrored.initiatorIdentity,
    mirrored.responderIdentity]

theorem Mirrored.meets (bothWays : suite.AgreesBothWays)
    (mirrored : Mirrored suite initiator responder)
    (begins : initiator.establish suite config {} random = ⟨.ok (), begun, rest⟩)
    (joins : responder.establish suite {} other = ⟨.ok (), joined, otherRest⟩) :
    Meets suite config initiator responder begun joined := by
  obtain ⟨secret, sending, found, stepped, rfl, _⟩ := Initiator.establish_eq_ok.mp begins
  obtain ⟨secret', found', rfl, _⟩ := Responder.establish_eq_ok.mp joins
  have same : secret = secret' := by
    rw [mirrored.secret_eq bothWays, found'] at found
    exact (Except.ok.inj found).symm
  subst same
  rw [mirrored.ratchet, RootKey.step_comm bothWays _
    (KeyPair.matches_generate suite random) mirrored.ratchetMatches] at stepped
  exact {
    secret := ⟨secret, found, found'⟩
    auth := rfl
    chain := fun keeps => by
      rw [← mirrored.ratchet]
      exact ⟨_, _, receiverChain?_addReceiverChain_empty keeps initiator.theirRatchet
        (firstStep suite secret []).chain {} rfl, rfl, rfl, rfl⟩
    step := ⟨_, _, sending, rfl, rfl, stepped, rfl, rfl⟩
    identities := by
      constructor
      · rw [← mirrored.responderIdentity]
        rfl
      · rw [← mirrored.initiatorIdentity]
        rfl
    hash := by
      simp only [Initiator.begun, Responder.begun]
      rw [mirrored.initialHash_eq, mirrored.ratchet] }

/-! ## Roles from the order of the base keys -/

/-- The two sides have exchanged their keys, and every pair is a pair. -/
structure Symmetric.Mirrored (suite : Suite) (ours theirs : Symmetric) : Prop where
  theirIdentity : ours.theirIdentity = theirs.ourIdentity.publicKey
  theirBase : ours.theirBase = theirs.ourBase.publicKey
  theirRatchet : ours.theirRatchet = theirs.ourRatchet.publicKey
  ourIdentity : theirs.theirIdentity = ours.ourIdentity.publicKey
  ourBase : theirs.theirBase = ours.ourBase.publicKey
  ourRatchet : theirs.theirRatchet = ours.ourRatchet.publicKey
  identityMatches : ours.ourIdentity.Matches suite
  baseMatches : ours.ourBase.Matches suite
  ratchetMatches : ours.ourRatchet.Matches suite
  theirIdentityMatches : theirs.ourIdentity.Matches suite
  theirBaseMatches : theirs.ourBase.Matches suite
  theirRatchetMatches : theirs.ourRatchet.Matches suite

namespace Symmetric

variable {ours theirs : Symmetric} {left right : SessionState}

theorem Mirrored.symm (mirrored : Mirrored suite ours theirs) : Mirrored suite theirs ours where
  theirIdentity := mirrored.ourIdentity
  theirBase := mirrored.ourBase
  theirRatchet := mirrored.ourRatchet
  ourIdentity := mirrored.theirIdentity
  ourBase := mirrored.theirBase
  ourRatchet := mirrored.theirRatchet
  identityMatches := mirrored.theirIdentityMatches
  baseMatches := mirrored.theirBaseMatches
  ratchetMatches := mirrored.theirRatchetMatches
  theirIdentityMatches := mirrored.identityMatches
  theirBaseMatches := mirrored.baseMatches
  theirRatchetMatches := mirrored.ratchetMatches

/-- Exactly one side takes the part of the initiator. -/
theorem Mirrored.isInitiator_eq_not (mirrored : Mirrored suite ours theirs)
    (distinct : ours.ourBase.publicKey ≠ theirs.ourBase.publicKey) :
    theirs.isInitiator = !ours.isInitiator := by
  unfold isInitiator
  rw [mirrored.theirBase, mirrored.ourBase]
  by_cases below : ours.ourBase.publicKey < theirs.ourBase.publicKey
  · simp [below, PublicKey.lt_asymm below]
  · simp [below, PublicKey.lt_of_not_lt distinct below]

theorem Mirrored.roles (mirrored : Mirrored suite ours theirs) :
    Handshake.Mirrored suite ours.asInitiator theirs.asResponder where
  initiatorIdentity := mirrored.ourIdentity
  initiatorBase := mirrored.ourBase
  responderIdentity := mirrored.theirIdentity
  signedPreKey := mirrored.theirBase
  oneTimePreKey := rfl
  ratchet := mirrored.theirRatchet
  identityMatches := mirrored.identityMatches
  baseMatches := mirrored.baseMatches
  theirIdentityMatches := mirrored.theirIdentityMatches
  signedPreKeyMatches := mirrored.theirBaseMatches
  oneTimePreKeyMatches := by
    rintro pair ⟨⟩
  ratchetMatches := mirrored.theirRatchetMatches

theorem establish_of_isInitiator (first : ours.isInitiator = true) :
    ours.establish suite config = ours.asInitiator.establish suite config := by
  rw [establish, first, if_pos rfl]

theorem establish_of_not_isInitiator (second : ours.isInitiator = false) :
    ours.establish suite config = ours.asResponder.establish suite := by
  rw [establish, second, if_neg Bool.false_ne_true]

theorem Mirrored.meets_of_isInitiator (bothWays : suite.AgreesBothWays)
    (mirrored : Mirrored suite ours theirs)
    (distinct : ours.ourBase.publicKey ≠ theirs.ourBase.publicKey)
    (first : ours.isInitiator = true)
    (begins : ours.establish suite config {} random = ⟨.ok (), left, rest⟩)
    (joins : theirs.establish suite config {} other = ⟨.ok (), right, otherRest⟩) :
    Meets suite config ours.asInitiator theirs.asResponder left right := by
  have second : theirs.isInitiator = false := by
    rw [mirrored.isInitiator_eq_not distinct, first]
    rfl
  rw [establish_of_isInitiator first] at begins
  rw [establish_of_not_isInitiator second] at joins
  exact mirrored.roles.meets bothWays begins joins

end Symmetric

/-! ## The main statement -/

/-- Mirrored keys lead to states that meet, whether the roles are given or found by comparing the
base keys. -/
theorem sides_meet (config : Config) (bothWays : suite.AgreesBothWays)
    (random other : Randomness) :
    (∀ initiator responder, Mirrored suite initiator responder →
      let begun := initiator.establish suite config {} random
      let joined := responder.establish suite {} other
      begun.result = .ok () → joined.result = .ok () →
        Meets suite config initiator responder begun.state joined.state) ∧
    ∀ ours theirs, Symmetric.Mirrored suite ours theirs →
      ours.ourBase.publicKey ≠ theirs.ourBase.publicKey →
      let left := ours.establish suite config {} random
      let right := theirs.establish suite config {} other
      theirs.isInitiator = (!ours.isInitiator) ∧
        (left.result = .ok () → right.result = .ok () →
          if ours.isInitiator then
            Meets suite config ours.asInitiator theirs.asResponder left.state right.state
          else Meets suite config theirs.asInitiator ours.asResponder right.state left.state) := by
  constructor
  · intro initiator responder mirrored begun joined begins joins
    exact mirrored.meets bothWays (Outcome.eq_of_result begins) (Outcome.eq_of_result joins)
  · intro ours theirs mirrored distinct left right
    have opposite := mirrored.isInitiator_eq_not distinct
    refine ⟨opposite, fun leftEnds rightEnds => ?_⟩
    have leftEnds := Outcome.eq_of_result leftEnds
    have rightEnds := Outcome.eq_of_result rightEnds
    cases role : ours.isInitiator with
    | true => exact mirrored.meets_of_isInitiator bothWays distinct role leftEnds rightEnds
    | false =>
        rw [role] at opposite
        exact mirrored.symm.meets_of_isInitiator bothWays distinct.symm opposite rightEnds leftEnds

/-! ## Two sides of the additive suite -/

/-- The caller's view of a newcomer that offers a one-time prekey and another ratchet key than its
signed prekey. -/
def Initiator.caller : Initiator :=
  { ourIdentity := KeyPair.additive 4
    ourBase := KeyPair.additive 5
    theirIdentity := (KeyPair.additive 1).publicKey
    theirSignedPreKey := (KeyPair.additive 2).publicKey
    theirOneTimePreKey := some (KeyPair.additive 3).publicKey
    theirRatchet := (KeyPair.additive 6).publicKey }

/-- The newcomer's view of the caller. -/
def Responder.newcomer : Responder :=
  { ourIdentity := KeyPair.additive 1
    ourSignedPreKey := KeyPair.additive 2
    ourOneTimePreKey := some (KeyPair.additive 3)
    ourRatchet := KeyPair.additive 6
    theirIdentity := (KeyPair.additive 4).publicKey
    theirBase := (KeyPair.additive 5).publicKey }

theorem mirrored_caller : Mirrored Suite.additive Initiator.caller Responder.newcomer where
  initiatorIdentity := rfl
  initiatorBase := rfl
  responderIdentity := rfl
  signedPreKey := rfl
  oneTimePreKey := rfl
  ratchet := rfl
  identityMatches := rfl
  baseMatches := rfl
  theirIdentityMatches := rfl
  signedPreKeyMatches := rfl
  oneTimePreKeyMatches := fun _ same => Option.some.inj same ▸ rfl
  ratchetMatches := rfl

/-- A side of the additive suite that knows the other one's keys. -/
def Symmetric.between (identity base ratchet theirIdentity theirBase theirRatchet : UInt8) :
    Symmetric :=
  { ourIdentity := KeyPair.additive identity
    ourBase := KeyPair.additive base
    ourRatchet := KeyPair.additive ratchet
    theirIdentity := (KeyPair.additive theirIdentity).publicKey
    theirBase := (KeyPair.additive theirBase).publicKey
    theirRatchet := (KeyPair.additive theirRatchet).publicKey }

theorem Symmetric.mirrored_between (identity base ratchet theirIdentity theirBase theirRatchet) :
    Mirrored Suite.additive (between identity base ratchet theirIdentity theirBase theirRatchet)
      (between theirIdentity theirBase theirRatchet identity base ratchet) := by
  constructor <;> rfl

/-- The caller meets the newcomer, and two sides meet that compare their base keys. -/
theorem caller_meets_newcomer :
    (let begun := Initiator.caller.establish Suite.additive {} {} (.repeated 8)
     let joined := Responder.newcomer.establish Suite.additive {} (.repeated 0)
     begun.result = .ok () ∧ joined.result = .ok () ∧
       Meets Suite.additive {} .caller .newcomer begun.state joined.state) ∧
    (let ours := Symmetric.between 1 9 3 4 5 6
     let theirs := Symmetric.between 4 5 6 1 9 3
     let joined := ours.establish Suite.additive {} {} (.repeated 8)
     let begun := theirs.establish Suite.additive {} {} (.repeated 0)
     theirs.isInitiator = true ∧ begun.result = .ok () ∧ joined.result = .ok () ∧
       Meets Suite.additive {} theirs.asInitiator ours.asResponder begun.state joined.state) := by
  obtain ⟨given, found⟩ := sides_meet {} Suite.additive_lawful.agree_comm
    (.repeated 8) (.repeated 0)
  have distinct : (Symmetric.between 1 9 3 4 5 6).ourBase.publicKey ≠
      (Symmetric.between 4 5 6 1 9 3).ourBase.publicKey := by decide +kernel
  have second : (Symmetric.between 1 9 3 4 5 6).isInitiator = false := by decide +kernel
  obtain ⟨opposite, meets⟩ := found _ _ (Symmetric.mirrored_between 1 9 3 4 5 6) distinct
  rw [second] at opposite meets
  exact ⟨⟨rfl, rfl, given _ _ mirrored_caller rfl rfl⟩, opposite, rfl, rfl, meets rfl rfl⟩

/-- An initiator that keeps no receiving chain does not know the responder's sending chain. -/
theorem unkept_chain_does_not_meet :
    let begun := Initiator.caller.establish Suite.additive { maxReceiverChains := 0 } {} (.repeated 8)
    let joined := Responder.newcomer.establish Suite.additive {} (.repeated 8)
    Mirrored Suite.additive .caller .newcomer ∧ begun.result = .ok () ∧ joined.result = .ok () ∧
      begun.state.receiverChain? Responder.newcomer.ourRatchet.publicKey = none ∧
      joined.state.senderChain.isSome = true := by
  refine ⟨mirrored_caller, rfl, rfl, ?_, rfl⟩
  decide +kernel

end Handshake
end DoubleRatchet
