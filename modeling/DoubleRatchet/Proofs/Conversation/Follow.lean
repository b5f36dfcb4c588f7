import DoubleRatchet.Proofs.Conversation.Script

/-!
# Every run follows a script

What each step of a run does to the script: the first one writes it, sending counts one message more,
and reading moves the sides as the halves say. Letters that are refused leave the script as it is.
-/

namespace DoubleRatchet

variable {suite : Suite} {config : Config} {opening : Opening suite}

/-! ## The beginning -/

namespace Opening

/-- The keys with which the initiator begins. -/
def initiator (opening : Opening suite) (base : KeyPair) : Handshake.Initiator :=
  Session.initiatorKeys (opening.store .initiator) opening.bundle
    opening.signedPreKey.keyPair.publicKey base

/-- The state with which the initiator begins. -/
def begun (config : Config) (opening : Opening suite) (base ratchet : KeyPair) (secret : Bytes)
    (sending : RootStep) : SessionState :=
  Session.announcing (opening.store .initiator) opening.bundle base.publicKey
    ((opening.initiator base).begun suite config secret ratchet sending {})

theorem mirrored (opening : Opening suite) {base : KeyPair} (baseMatches : base.Matches suite) :
    Handshake.Mirrored suite (opening.initiator base) (opening.responder base.publicKey) where
  initiatorIdentity := rfl
  initiatorBase := rfl
  responderIdentity := opening.identityKey_eq
  signedPreKey := rfl
  oneTimePreKey := by
    change opening.bundle.preKey = (opening.oneTime.map fun offered => offered.2.keyPair).map _
    rw [opening.preKey_eq, Option.map_map]
    rfl
  ratchet := rfl
  identityMatches := opening.identity_matches .initiator
  baseMatches := baseMatches
  theirIdentityMatches := opening.identity_matches .responder
  signedPreKeyMatches := opening.signedPreKey_matches
  oneTimePreKeyMatches := by
    intro pair used
    obtain ⟨offered, isOffered, rfl⟩ := Option.map_eq_some_iff.mp used
    exact (opening.oneTime_kept offered.1 offered.2 isOffered).2
  ratchetMatches := opening.signedPreKey_matches

theorem pending_begun (opening : Opening suite) (base ratchet : KeyPair) (secret : Bytes)
    (sending : RootStep) :
    (opening.begun config base ratchet secret sending).pending =
      some (opening.announcement base.publicKey) := by
  have preKeyId_eq : (if opening.bundle.preKey.isSome then opening.bundle.preKeyId else none) =
      opening.oneTime.map Prod.fst := by
    rw [opening.preKey_eq, opening.preKeyId_eq]
    cases opening.oneTime with
    | none => rfl
    | some offered => rfl
  change some _ = some _
  simp only [announcement, preKeyId_eq]

section Begins

variable {store : Store} {random : Randomness} {secret : Bytes} {sending : RootStep}
  (published_eq : Session.published store = Session.published (opening.store .initiator))
  (blank : (Session.makeRoom config (store.session (opening.peer .initiator))).current = {})
  (trusted : store.trusts (opening.peer .initiator) opening.bundle.identityKey = true)
include published_eq blank trusted

/-- Whoever has the keys of the initiator begins with its state, whatever sessions are there already. -/
theorem processBundle_of_found
    (found : (opening.initiator (KeyPair.generate suite random).1).secret suite = .ok secret)
    (stepped : (Handshake.firstStep suite secret []).root.step suite
      opening.signedPreKey.keyPair.publicKey
      (KeyPair.generate suite (KeyPair.generate suite random).2).1 = .ok sending) :
    Session.processBundle suite config (opening.peer .initiator) opening.bundle store random =
      ⟨.ok (), (store.putIdentity (opening.peer .initiator) opening.bundle.identityKey).putSession
        (opening.peer .initiator)
          ((Session.makeRoom config (store.session (opening.peer .initiator))).setCurrent
            (opening.begun config (KeyPair.generate suite random).1
              (KeyPair.generate suite (KeyPair.generate suite random).2).1 secret sending)),
        (KeyPair.generate suite (KeyPair.generate suite random).2).2⟩ := by
  let base := (KeyPair.generate suite random).1
  let ratchet := (KeyPair.generate suite (KeyPair.generate suite random).2).1
  have keys_eq : Session.initiatorKeys store opening.bundle
      opening.signedPreKey.keyPair.publicKey base = opening.initiator base := by
    unfold Session.initiatorKeys
    rw [show store.identity = (opening.store .initiator).identity from
      congrArg (fun published => published.1) published_eq]
    rfl
  have registration_eq : store.registrationId = (opening.store .initiator).registrationId :=
    congrArg (fun published => published.2.1) published_eq
  have established : (opening.initiator base).establish suite config {}
      (KeyPair.generate suite random).2 =
      ⟨.ok (), (opening.initiator base).begun suite config secret ratchet sending {},
        (KeyPair.generate suite (KeyPair.generate suite random).2).2⟩ :=
    Handshake.Initiator.establish_eq_ok.mpr ⟨secret, sending, found, stepped, rfl, rfl⟩
  rw [← keys_eq, ← blank] at established
  refine Session.processBundle_eq_ok.mpr
    ⟨_, _, trusted, opening.signedPreKey_eq, opening.signed, established, ?_⟩
  rw [begun, Session.announcing, Session.announcing, registration_eq, keys_eq, blank]

end Begins

theorem processBundle_of_trusted (config : Config) (opening : Opening suite) (lawful : suite.Lawful)
    {store : Store}
    (published_eq : Session.published store = Session.published (opening.store .initiator))
    (blank : (Session.makeRoom config (store.session (opening.peer .initiator))).current = {})
    (trusted : store.trusts (opening.peer .initiator) opening.bundle.identityKey = true)
    (random : Randomness) :
    let base := (KeyPair.generate suite random).1
    let ratchet := (KeyPair.generate suite (KeyPair.generate suite random).2).1
    ∃ secret sending, (opening.responder base.publicKey).secret suite = .ok secret ∧
      (Handshake.firstStep suite secret []).root.step suite opening.signedPreKey.keyPair.publicKey
        ratchet = .ok sending ∧
      Session.processBundle suite config (opening.peer .initiator) opening.bundle store random =
        ⟨.ok (), (store.putIdentity (opening.peer .initiator) opening.bundle.identityKey).putSession
          (opening.peer .initiator)
            ((Session.makeRoom config (store.session (opening.peer .initiator))).setCurrent
              (opening.begun config base ratchet secret sending)),
          (KeyPair.generate suite (KeyPair.generate suite random).2).2⟩ := by
  intro base ratchet
  have mirrored := opening.mirrored (KeyPair.matches_generate suite random)
  obtain ⟨secret, found⟩ := mirrored.secret_isOk lawful
  obtain ⟨sending, stepped, _⟩ := RootKey.step_isOk ratchet lawful
    (Handshake.firstStep suite secret []).root opening.signedPreKey_matches
  refine ⟨secret, sending, ?_, stepped,
    processBundle_of_found published_eq blank trusted found stepped⟩
  rw [← mirrored.secret_eq lawful.agree_comm]
  exact found

/-- What the initiator found and which step it took, if it accepted the bundle. -/
theorem steps_of_processBundle (bothWays : suite.AgreesBothWays) {random : Randomness}
    (begins : (Session.processBundle suite config (opening.peer .initiator) opening.bundle
      (opening.store .initiator) random).result = .ok ()) :
    ∃ secret sending,
      (opening.responder (KeyPair.generate suite random).1.publicKey).secret suite = .ok secret ∧
      (Handshake.firstStep suite secret []).root.step suite opening.signedPreKey.keyPair.publicKey
        (KeyPair.generate suite (KeyPair.generate suite random).2).1 = .ok sending := by
  have mirrored := opening.mirrored (KeyPair.matches_generate suite random)
  have processed := Outcome.eq_of_result begins
  obtain ⟨signedPreKey, state, _, isSigned, _, established, _⟩ :=
    Session.processBundle_eq_ok.mp processed
  cases isSigned.symm.trans opening.signedPreKey_eq
  rw [opening.session_eq] at established
  obtain ⟨secret, sending, found, stepped, _⟩ :=
    Handshake.Initiator.establish_eq_ok.mp established
  refine ⟨secret, sending, ?_, stepped⟩
  rw [← mirrored.secret_eq bothWays]
  exact found

theorem trusts_bundle (opening : Opening suite) :
    (opening.store .initiator).trusts (opening.peer .initiator) opening.bundle.identityKey =
      true := by
  rw [Store.trusts_iff]
  exact .inl (opening.noIdentity .initiator)

theorem current_makeRoom (config : Config) (opening : Opening suite) (side : Side) :
    (Session.makeRoom config ((opening.store side).session (opening.peer side))).current = {} := by
  rw [opening.session_eq]
  rfl

/-- The bundle is accepted, and the initiator keeps the session that it begins. -/
theorem processBundle_eq (config : Config) (opening : Opening suite) (lawful : suite.Lawful)
    (random : Randomness) :
    let base := (KeyPair.generate suite random).1
    let ratchet := (KeyPair.generate suite (KeyPair.generate suite random).2).1
    ∃ secret sending, (opening.responder base.publicKey).secret suite = .ok secret ∧
      (Handshake.firstStep suite secret []).root.step suite opening.signedPreKey.keyPair.publicKey
        ratchet = .ok sending ∧
      Session.processBundle suite config (opening.peer .initiator) opening.bundle
        (opening.store .initiator) random =
        ⟨.ok (), ((opening.store .initiator).putIdentity (opening.peer .initiator)
          opening.bundle.identityKey).putSession (opening.peer .initiator)
            (.ofState (opening.begun config base ratchet secret sending)),
          (KeyPair.generate suite (KeyPair.generate suite random).2).2⟩ := by
  have processed := opening.processBundle_of_trusted config lawful rfl
    (opening.current_makeRoom config .initiator) opening.trusts_bundle random
  rw [opening.session_eq] at processed
  exact processed

end Opening

namespace Script

/-- The script after the initiator has processed the bundle. -/
def begun (config : Config) (opening : Opening suite) (base ratchet : KeyPair) (secret : Bytes)
    (sending : RootStep) : Script :=
  { base := base.publicKey
    secret := secret
    halves
      | .initiator =>
          { earlier := [], last := ratchet, start := fun _ => sending.chain, count := 0,
            root := sending.root }
      | .responder =>
          { earlier := [], last := opening.signedPreKey.keyPair,
            start := fun _ => (Handshake.firstStep suite secret []).chain, count := 0,
            root := (Handshake.firstStep suite secret []).root }
    states
      | .initiator => opening.begun config base ratchet secret sending
      | .responder => opening.joined base.publicKey secret
    ahead := .initiator
    hasJoined := false }

section Synced

variable {base ratchet : KeyPair} {secret : Bytes} {sending : RootStep} {random : Randomness}

theorem proper_begun (ratchetMatches : ratchet.Matches suite)
    (stepped : (Handshake.firstStep suite secret []).root.step suite
      opening.signedPreKey.keyPair.publicKey ratchet = .ok sending) (side : Side) :
    ((begun config opening base ratchet secret sending).halves side).Proper suite := by
  cases side with
  | initiator =>
      exact
        { last_matches := ratchetMatches
          distinct := List.pairwise_singleton _ _
          begins := fun _ _ => RootKey.index_of_step stepped
          fits := Nat.two_pow_pos 32 }
  | responder =>
      exact
        { last_matches := opening.signedPreKey_matches
          distinct := List.pairwise_singleton _ _
          begins := fun _ _ => rfl
          fits := Nat.two_pow_pos 32 }

/-- The initiator has made room for the chain of the signed prekey, on which the responder would send
first. -/
theorem holds_begun (side : Side) :
    let script := begun config opening base ratchet secret sending
    Holds suite config (opening.identity side) (opening.identity side.other) (script.halves side)
      (script.halves side.other).start ((Conversation.begun config opening random).books side)
      (script.states side) := by
  intro script
  have noted : newest config.maxReceiverChains (Book.realise suite config
      (script.halves .responder).start [] ++
        [{ ratchetKey := opening.signedPreKey.keyPair.publicKey
           chainKey := (Handshake.firstStep suite secret []).chain }]) =
      Book.realise suite config (script.halves .responder).start
        (Book.noting opening.signedPreKey.keyPair.publicKey []) :=
    Book.realise_noting List.not_mem_nil
  rw [Book.realise_nil] at noted
  cases side with
  | initiator =>
      exact
        { version_eq := rfl
          localIdentity_eq := rfl
          remoteIdentity_eq := congrArg some opening.identityKey_eq
          rootKey_eq := rfl
          senderChain_eq := rfl
          receiverChains_eq := noted
          epoch_eq := rfl }
  | responder =>
      exact
        { version_eq := rfl
          localIdentity_eq := rfl
          remoteIdentity_eq := rfl
          rootKey_eq := rfl
          senderChain_eq := rfl
          receiverChains_eq := Book.realise_nil.symm
          epoch_eq := rfl }

/-- The initiator begins one step ahead of the responder. -/
theorem synced_begun (bothWays : suite.AgreesBothWays) (ratchetMatches : ratchet.Matches suite)
    (stepped : (Handshake.firstStep suite secret []).root.step suite
      opening.signedPreKey.keyPair.publicKey ratchet = .ok sending) :
    let script := begun config opening base ratchet secret sending
    Synced suite config opening.identity script.halves
      (Conversation.begun config opening random).books script.states script.ahead := by
  intro script
  constructor
  case proper => exact proper_begun ratchetMatches stepped
  case holds => exact holds_begun
  case valid =>
    intro side log member
    cases side with
    | initiator =>
        rw [List.mem_singleton.mp member]
        exact ChainLog.valid_new config _
    | responder => cases member
  case reached =>
    intro side
    cases side with
    | initiator => exact Nat.le_of_eq (congrArg ChainLog.next (Book.log_noted _ _))
    | responder => exact Nat.le_refl 0
  case ahead_keys => rfl
  case behind_keys => rfl
  case step_eq =>
    -- The step that the initiator took with its ratchet key is the one that the responder will take
    -- to read under that key.
    refine ⟨sending.auth, ?_⟩
    have same := RootKey.step_comm bothWays (Handshake.firstStep suite secret []).root
      ratchetMatches opening.signedPreKey_matches
    exact same.symm.trans stepped

end Synced

section Begun

variable {secret : Bytes} {sending : RootStep} {random : Randomness}
  (found : (opening.responder (KeyPair.generate suite random).1.publicKey).secret suite =
    .ok secret)
  (stepped : (Handshake.firstStep suite secret []).root.step suite
    opening.signedPreKey.keyPair.publicKey
    (KeyPair.generate suite (KeyPair.generate suite random).2).1 = .ok sending)
include found stepped

theorem keeps_begun (bothWays : suite.AgreesBothWays) (side : Side) :
    Keeps opening (begun config opening (KeyPair.generate suite random).1
      (KeyPair.generate suite (KeyPair.generate suite random).2).1 secret sending) side
        ((Conversation.begun config opening random).parties side).content := by
  cases side with
  | initiator =>
      have ownFound : (opening.initiator (KeyPair.generate suite random).1).secret suite =
          .ok secret := by
        rw [(opening.mirrored (KeyPair.matches_generate suite random)).secret_eq bothWays]
        exact found
      have processed := Opening.processBundle_of_found rfl
        (opening.current_makeRoom config .initiator) opening.trusts_bundle ownFound stepped
      rw [opening.session_eq] at processed
      apply Keeps.sole (.inl rfl)
      change Session.Sole _ _ _ (Session.processBundle suite config (opening.peer .initiator)
        opening.bundle (opening.store .initiator) random).state
      rw [processed]
      constructor
      · rw [Store.session_putSession]
        rfl
      · change Table.find? _ (Table.insert _ opening.bundle.identityKey _) = _
        rw [Table.find?_insert_self, opening.identityKey_eq]
        rfl
  | responder => exact .waiting rfl (.inl rfl) rfl found

/-- A conversation begins as the handshake of its initiator says. -/
theorem tracks_begun (bothWays : suite.AgreesBothWays) :
    (begun config opening (KeyPair.generate suite random).1
      (KeyPair.generate suite (KeyPair.generate suite random).2).1 secret sending).Tracks config
        opening (Conversation.begun config opening random) := by
  constructor
  case toIntroduced =>
    constructor
    case baseKey_eq =>
      intro side
      cases side with
      | initiator => rfl
      | responder => rfl
    case announces => exact .inl (opening.pending_begun _ _ secret sending)
    case registered => rfl
    case silent => rfl
  case toPosted =>
    constructor
    case few =>
      intro side
      cases side with
      | initiator => exact Nat.le_refl 0
      | responder => exact Nat.le_refl 0
    all_goals exact fun _ member => nomatch member
  case synced => exact synced_begun bothWays (KeyPair.matches_generate suite _) stepped
  case drawn =>
    intro side
    cases side with
    | initiator => rfl
    | responder => rfl
  case keeps => exact keeps_begun found stepped bothWays
  case unread => exact fun _ => rfl
  case recorded => exact Recorded.nothing _

theorem follows_begun (lawful : suite.Lawful) :
    (begun config opening (KeyPair.generate suite random).1
      (KeyPair.generate suite (KeyPair.generate suite random).2).1 secret sending).Follows config
        opening (Conversation.begun config opening random) where
  toTracks := tracks_begun found stepped lawful.agree_comm
  genuine _ isSent := nomatch isSent

end Begun

theorem exists_begun (config : Config) (lawful : suite.Lawful) (opening : Opening suite)
    (random : Randomness) :
    ∃ script : Script, script.Follows config opening
      (Conversation.begun config opening random) := by
  obtain ⟨_, _, found, stepped, _⟩ := opening.processBundle_eq config lawful random
  exact ⟨_, follows_begun found stepped lawful⟩

/-! ## Sending -/

variable {script : Script} {conversation : Conversation} {side : Side} {plaintext : Bytes}
  {random : Randomness}

/-- The letter as the script has it: wrapped until the initiator has read an answer. -/
theorem Tracks.wraps_outerMessage (tracks : script.Tracks config opening conversation)
    (met : side = .initiator ∨ script.hasJoined = true) (inner : SignalMessage) :
    Wraps opening script side
      ((script.states side).outerMessage (opening.identity side) inner) := by
  unfold SessionState.outerMessage
  cases side with
  | initiator =>
      rcases tracks.announces with announced | ⟨quiet, hasJoined⟩
      · rw [announced, (tracks.synced.holds .initiator).version_eq, tracks.registered]
        exact ⟨rfl, rfl⟩
      · rw [quiet]
        exact hasJoined
  | responder =>
      rw [tracks.silent]
      exact met.resolve_left nofun

/-- What a side that has the session made of a text: a message on its sending chain. -/
theorem Tracks.encrypt_eq (tracks : script.Tracks config opening conversation)
    {message : CiphertextMessage} {after : Store} {rest : Randomness}
    (encrypted : Session.encrypt suite config (opening.peer side) plaintext
      (conversation.parties side).content random = ⟨.ok message, after, rest⟩) :
    ∃ ciphertext,
      suite.sealText config
        (((script.halves side).sending suite).chainKey.messageKeys suite).cipherKey
        (((script.halves side).sending suite).chainKey.messageKeys suite).vector.bytes plaintext
        (SignalMessage.associatedData (script.states side).version
          ((script.halves side).sending suite).ratchetKey.publicKey
          ((script.halves side).sending suite).chainKey.index) = .ok ciphertext ∧
      ((script.halves side).sending suite).chainKey.index ≠ 0xffffffff ∧
      message = (script.states side).outerMessage (opening.identity side)
        ((script.states side).innerMessage suite config (opening.identity side)
          (opening.identity side.other) ((script.halves side).sending suite) ciphertext) ∧
      (side = .initiator ∨ script.hasJoined = true) ∧
      Keeps opening (script.sent suite side) side after := by
  obtain ⟨ours, theirs, state, begun, identified, _, made, after_eq⟩ :=
    Session.encrypt_eq_ok.mp encrypted
  obtain ⟨met, sole⟩ := (tracks.keeps side).sole_of_begun begun
  have holds := tracks.synced.holds side
  rw [sole.session_eq] at identified made after_eq
  cases identified.symm.trans holds.identities_eq
  obtain ⟨chain, ciphertext, hasChain, sealed, notLast, message_eq, state_eq, _⟩ :=
    SessionState.encrypt_eq_ok.mp made
  cases hasChain.symm.trans holds.senderChain_eq
  refine ⟨ciphertext, sealed, notLast, message_eq, met, ?_⟩
  have metAfter : side = .initiator ∨ (script.sent suite side).hasJoined = true := met
  apply Keeps.sole metAfter
  simp only [Script.sent, Side.update_self]
  rw [after_eq, state_eq]
  exact sole.putSession _

/-- A message that a side has encrypted is its next letter. -/
theorem Tracks.next_of_encrypt (tracks : script.Tracks config opening conversation)
    {message : CiphertextMessage} {after : Store} {rest : Randomness}
    (encrypted : Session.encrypt suite config (opening.peer side) plaintext
      (conversation.parties side).content random = ⟨.ok message, after, rest⟩) :
    Next opening script { sender := side, message, plaintext } ∧
      (script.halves side).count + 1 < 0x100000000 := by
  obtain ⟨ciphertext, _, notLast, message_eq, met, _⟩ := tracks.encrypt_eq encrypted
  have proper := tracks.synced.proper side
  let inner := (script.states side).innerMessage suite config (opening.identity side)
    (opening.identity side.other) ((script.halves side).sending suite) ciphertext
  have inner_eq : message.inner = inner := by
    rw [message_eq]
    exact SessionState.inner_outerMessage inner
  have counter_eq : inner.counter.toNat = (script.halves side).count :=
    ChainLog.index_later (proper.begins _ (script.halves side).last_mem_keys) proper.fits
  constructor
  · constructor
    case wraps =>
      rw [message_eq]
      exact tracks.wraps_outerMessage met inner
    case notLast =>
      change message.inner.counter ≠ _
      rw [inner_eq]
      exact notLast
    case key_eq => exact congrArg SignalMessage.ratchetKey inner_eq
    case counter_eq =>
      rw [← counter_eq, ← inner_eq]
      rfl
  · rw [← counter_eq]
    exact Nat.succ_lt_succ (ne_last_iff.mp notLast)

theorem Tracks.genuine_of_encrypt (tracks : script.Tracks config opening conversation)
    (lawful : suite.Lawful) (short : config.macLength ≤ 32)
    {message : CiphertextMessage} {after : Store} {rest : Randomness}
    (encrypted : Session.encrypt suite config (opening.peer side) plaintext
      (conversation.parties side).content random = ⟨.ok message, after, rest⟩) :
    Genuine suite config (opening.identity side) (opening.identity side.other)
      (script.halves side).start plaintext message.inner := by
  obtain ⟨ciphertext, sealed, notLast, message_eq, _⟩ := tracks.encrypt_eq encrypted
  rw [message_eq, SessionState.inner_outerMessage]
  exact (tracks.synced.holds side).genuine_innerMessage lawful short (tracks.synced.proper side)
    sealed notLast

theorem Tracks.sent (tracks : script.Tracks config opening conversation)
    {message : CiphertextMessage} {after : Locked Store} {rest : Randomness}
    (encrypted : Session.encrypt suite config (opening.peer side) plaintext
      (conversation.parties side).content random = ⟨.ok message, after.content, rest⟩) :
    (script.sent suite side).Tracks config opening
      (conversation.posting side after message plaintext) := by
  obtain ⟨isNext, fits⟩ := tracks.next_of_encrypt encrypted
  obtain ⟨_, _, _, _, _, keeps⟩ := tracks.encrypt_eq encrypted
  constructor
  case toIntroduced => exact tracks.toIntroduced.sent side
  case toPosted => exact tracks.toPosted.send isNext
  case synced => exact tracks.synced.sent side fits
  case drawn =>
    intro each
    rw [keys_sent]
    exact tracks.drawn each
  case keeps =>
    intro each
    dsimp only [Conversation.posting]
    rcases Side.eq_or_eq_other each side with rfl | rfl
    · rw [Side.update_self]
      exact keeps
    · rw [Side.update_other]
      exact (tracks.keeps side.other).congr Side.update_other rfl rfl rfl
  case unread => exact tracks.unread
  case recorded =>
    apply tracks.recorded.send
    · intro other isSent sameSender sameKey
      have isLast : other.key = (script.halves other.sender).last.publicKey := by
        rw [sameKey, isNext.key_eq, sameSender]
      have before := tracks.counted other isSent isLast
      rw [sameSender] at before
      rw [isNext.counter_eq]
      exact before
    · have reached := tracks.synced.reached side.other
      rw [Side.other_other] at reached
      rw [Letter.log, isNext.key_eq, isNext.counter_eq]
      exact reached

theorem Follows.sent (follows : script.Follows config opening conversation)
    (lawful : suite.Lawful) (short : config.macLength ≤ 32)
    {message : CiphertextMessage} {after : Locked Store} {rest : Randomness}
    (encrypted : Session.encrypt suite config (opening.peer side) plaintext
      (conversation.parties side).content random = ⟨.ok message, after.content, rest⟩) :
    (script.sent suite side).Follows config opening
      (conversation.posting side after message plaintext) where
  toTracks := follows.toTracks.sent encrypted
  genuine := by
    intro letter isSent
    rw [start_sent]
    rcases List.mem_append.mp isSent with old | new
    · exact follows.genuine letter old
    · rw [List.mem_singleton.mp new]
      exact follows.genuine_of_encrypt lawful short encrypted

theorem Tracks.of_content (tracks : script.Tracks config opening conversation)
    {lock : Locked Store} (keeps : Keeps opening script side lock.content) :
    script.Tracks config opening
      { conversation with parties := side.update lock conversation.parties } := by
  apply tracks.of_keeps
  intro each
  rcases Side.eq_or_eq_other each side with rfl | rfl
  · rw [Side.update_self]
    exact keeps
  · rw [Side.update_other]
    exact tracks.keeps side.other

/-- What comes of a text: nothing that the script notices, or a letter. -/
theorem Tracks.send_cases (tracks : script.Tracks config opening conversation) (side : Side)
    (plaintext : Bytes) (random : Randomness) :
    (∃ lock : Locked Store, Keeps opening script side lock.content ∧
      conversation.send config opening side plaintext random =
        { conversation with parties := side.update lock conversation.parties }) ∨
      ∃ (message : CiphertextMessage) (after : Locked Store) (rest : Randomness),
        Session.encrypt suite config (opening.peer side) plaintext
          (conversation.parties side).content random = ⟨.ok message, after.content, rest⟩ ∧
        conversation.send config opening side plaintext random =
          conversation.posting side after message plaintext := by
  unfold Conversation.send Conversation.encrypted
  cases poisoned : (conversation.parties side).poisoned with
  | true =>
      rw [Locked.run_of_poisoned poisoned]
      exact .inl ⟨_, tracks.keeps side, rfl⟩
  | false =>
      rw [Locked.run_of_free poisoned]
      rcases attempt : Session.encrypt suite config (opening.peer side) plaintext
        (conversation.parties side).content random with ⟨failure | message, after, rest⟩
      · have atomic : Step.Atomic (Session.encrypt suite config (opening.peer side) plaintext) :=
          Session.atomic_encrypt
        have unchanged := atomic (conversation.parties side).content random failure
        rw [attempt] at unchanged
        have same : after = (conversation.parties side).content := unchanged rfl
        rw [same]
        refine .inl ⟨_, ?_, rfl⟩
        exact tracks.keeps side
      · exact .inr ⟨message, { content := after, poisoned := false }, rest, rfl, rfl⟩

theorem Follows.send (follows : script.Follows config opening conversation)
    (lawful : suite.Lawful) (short : config.macLength ≤ 32) (side : Side) (plaintext : Bytes)
    (random : Randomness) :
    ∃ next : Script, next.Follows config opening
      (conversation.send config opening side plaintext random) := by
  rcases follows.send_cases side plaintext random with ⟨lock, keeps, sent_eq⟩ |
    ⟨message, after, rest, encrypted, sent_eq⟩
  · rw [sent_eq]
    exact ⟨script, follows.toTracks.of_content keeps, follows.genuine⟩
  · rw [sent_eq]
    exact ⟨_, follows.sent lawful short encrypted⟩

/-! ## Reading -/

variable {letter : Letter}

theorem Tracks.decrypt_eq (tracks : script.Tracks config opening conversation)
    (isSent : letter ∈ conversation.sent) :
    ∃ stored refused,
      (∀ random, Session.decrypt suite config (opening.peer letter.addressee) letter.message
        Receiver.accept (conversation.parties letter.addressee).content random =
          (SessionState.decrypt suite config letter.message.inner
            (script.states letter.addressee) random).storing stored refused) ∧
      (∀ final, Session.Sole (opening.peer letter.addressee)
        (opening.identity letter.addressee.other) final (stored final)) ∧
      Keeps opening script letter.addressee refused ∧
      (script.hasJoined = true → refused = (conversation.parties letter.addressee).content) := by
  have holds := tracks.synced.holds letter.addressee
  have wraps : Wraps opening script letter.addressee.other letter.message := by
    unfold Letter.addressee
    rw [Side.other_other]
    exact tracks.wraps letter isSent
  exact (tracks.keeps letter.addressee).decrypt_eq holds.version_eq holds.isInitialized_eq
    (tracks.baseKey_eq letter.addressee) wraps

/-- Whoever has sent a letter has the session. -/
theorem Tracks.sender_met (tracks : script.Tracks config opening conversation)
    (isSent : letter ∈ conversation.sent) :
    letter.sender = .initiator ∨ script.hasJoined = true := by
  have wraps := tracks.wraps letter isSent
  cases message : letter.message with
  | signal inner =>
      rw [message] at wraps
      exact .inr wraps
  | preKey outer =>
      rw [message] at wraps
      exact .inl wraps.1

/-- The script after a letter was read: both sides have the session, and the addressee has moved
on. -/
def answered (side : Side) (halves : Side → Half) (ahead : Side) (final : SessionState)
    (script : Script) : Script :=
  { script with
    halves := halves
    states := side.update final script.states
    ahead := ahead
    hasJoined := true }

theorem Introduced.answered (introduced : Introduced opening script) (halves : Side → Half)
    (ahead : Side) {final : SessionState}
    (baseKey_eq : final.initiatorBaseKey = (script.states side).initiatorBaseKey)
    (registration_eq : final.localRegistrationId = (script.states side).localRegistrationId)
    (quiet : final.pending = none) :
    Introduced opening (script.answered side halves ahead final) := by
  apply introduced.moved (script.answered side halves ahead final) rfl (fun _ => rfl)
  · intro each
    exact Side.update_congr SessionState.initiatorBaseKey baseKey_eq
  · intro each
    exact Side.update_congr SessionState.localRegistrationId registration_eq
  · intro each
    rcases Side.eq_or_eq_other each side with rfl | rfl
    · right
      simp only [Script.answered, Side.update_self, and_true]
      exact quiet
    · left
      simp only [Script.answered, Side.update_other]

/-- Both sides have the session once a letter was read. -/
theorem Tracks.keeps_reading (tracks : script.Tracks config opening conversation)
    (isSent : letter ∈ conversation.sent) {final : SessionState} {lock : Locked Store}
    (sole : Session.Sole (opening.peer letter.addressee) (opening.identity letter.addressee.other)
      final lock.content)
    (halves : Side → Half) (ahead : Side) (fresh : PublicKey) (each : Side) :
    Keeps opening (script.answered letter.addressee halves ahead final) each
      ((conversation.reading config letter lock fresh).parties each).content := by
  apply Keeps.sole (.inr rfl)
  dsimp only [answered, Conversation.reading]
  rcases Side.eq_or_eq_other each letter.addressee with rfl | rfl
  · rw [Side.update_self, Side.update_self]
    exact sole
  · rw [Side.update_other, Side.update_other]
    apply (tracks.keeps letter.addressee.other).sole_of_met
    rw [Letter.addressee, Side.other_other]
    exact tracks.sender_met isSent

section Read

variable (isSent : letter ∈ conversation.sent)
  (kept : (conversation.books letter.addressee).Keeps config letter.key)
  (fresh : letter.key ∉ (conversation.books letter.addressee).keys →
    (KeyPair.generate suite random).1.publicKey ∉ conversation.ratchetKeys letter.addressee)
include isSent kept fresh

theorem Tracks.read (tracks : script.Tracks config opening conversation)
    (bothWays : suite.AgreesBothWays)
    {text : Bytes} {final : SessionState} {rest : Randomness}
    (decrypted : SessionState.decrypt suite config letter.message.inner
      (script.states letter.addressee) random = ⟨.ok text, final, rest⟩)
    {lock : Locked Store}
    (sole : Session.Sole (opening.peer letter.addressee) (opening.identity letter.addressee.other)
      final lock.content) :
    ∃ halves ahead,
      Synced.Readied suite (KeyPair.generate suite random).1 letter.addressee script.halves
        script.ahead (letter.key ∈ (conversation.books letter.addressee).keys) halves ahead ∧
      (script.answered letter.addressee halves ahead final).Tracks config opening
        (conversation.reading config letter lock (KeyPair.generate suite random).1.publicKey) := by
  let side := letter.addressee
  have sender_eq : side.other = letter.sender := Side.other_other letter.sender
  have drawn : letter.key ∈ (script.halves side.other).keys := by
    rw [sender_eq]
    exact tracks.keyed letter isSent
  rw [tracks.drawn letter.addressee] at fresh
  obtain ⟨ready, isReady, decryption, rfl⟩ := SessionState.decrypt_eq_ok decrypted
  have fits : letter.counter + 1 < 0x100000000 :=
    Nat.succ_lt_succ (ne_last_iff.mp (tracks.notLast letter isSent))
  have counted : letter.key = (script.halves side.other).last.publicKey →
      letter.counter < (script.halves side.other).count := by
    rw [sender_eq]
    exact tracks.counted letter isSent
  obtain ⟨grants, halves, ahead, readied, synced⟩ :=
    tracks.synced.read bothWays drawn kept fresh fits counted isReady decryption
  refine ⟨halves, ahead, readied, ?_⟩
  constructor
  case toIntroduced =>
    apply tracks.toIntroduced.answered halves ahead
    · cases isReady with
      | known => rfl
      | turned => rfl
    · cases isReady with
      | known => rfl
      | turned => rfl
    · rfl
  case toPosted =>
    exact tracks.toPosted.extended (script.answered side halves ahead decryption.opened) rfl
      (fun _ => rfl) (readied.extends fresh)
  case synced => exact synced
  case drawn => exact readied.drawn tracks.drawn
  case keeps => exact tracks.keeps_reading isSent sole halves ahead _
  case unread => exact nofun
  case recorded =>
    exact tracks.recorded.deliver isSent grants.not_done
      (tracks.synced.valid_log side letter.key)

theorem Follows.read (follows : script.Follows config opening conversation)
    (lawful : suite.Lawful)
    {text : Bytes} {final : SessionState} {rest : Randomness}
    (decrypted : SessionState.decrypt suite config letter.message.inner
      (script.states letter.addressee) random = ⟨.ok text, final, rest⟩)
    {lock : Locked Store}
    (sole : Session.Sole (opening.peer letter.addressee) (opening.identity letter.addressee.other)
      final lock.content) :
    ∃ halves ahead, (script.answered letter.addressee halves ahead final).Follows config opening
      (conversation.reading config letter lock (KeyPair.generate suite random).1.publicKey) := by
  obtain ⟨halves, ahead, readied, tracks⟩ :=
    follows.toTracks.read isSent kept fresh lawful.agree_comm decrypted sole
  refine ⟨halves, ahead, tracks, ?_⟩
  intro other wasSent
  rw [follows.drawn letter.addressee] at fresh
  have grown := readied.extends fresh other.sender
  exact (follows.genuine other wasSent).start_congr
    (grown.start other.key (follows.keyed other wasSent))

end Read

/-- What comes of a delivery: nothing that the script notices, or a session that has opened the
letter. -/
theorem Tracks.deliver_cases (tracks : script.Tracks config opening conversation)
    (isSent : letter ∈ conversation.sent) (random : Randomness) :
    (∃ lock : Locked Store, Keeps opening script letter.addressee lock.content ∧
      conversation.deliver config opening letter random =
        { conversation with parties := letter.addressee.update lock conversation.parties }) ∨
      ∃ (text : Bytes) (final : SessionState) (rest : Randomness) (lock : Locked Store),
        SessionState.decrypt suite config letter.message.inner (script.states letter.addressee)
          random = ⟨.ok text, final, rest⟩ ∧
        Session.Sole (opening.peer letter.addressee) (opening.identity letter.addressee.other)
          final lock.content ∧
        conversation.deliver config opening letter random =
          conversation.reading config letter lock (KeyPair.generate suite random).1.publicKey := by
  unfold Conversation.deliver Conversation.decrypted
  cases poisoned : (conversation.parties letter.addressee).poisoned with
  | true =>
      rw [Locked.run_of_poisoned poisoned]
      exact .inl ⟨_, tracks.keeps letter.addressee, rfl⟩
  | false =>
      rw [Locked.run_of_free poisoned]
      obtain ⟨stored, refused, reads, sole, keeps, _⟩ := tracks.decrypt_eq isSent
      rw [reads]
      rcases attempt : SessionState.decrypt suite config letter.message.inner
        (script.states letter.addressee) random with ⟨failure | text, final, rest⟩
      · exact .inl ⟨_, keeps, rfl⟩
      · exact .inr ⟨text, final, rest, { content := stored final, poisoned := false }, rfl,
          sole final, rfl⟩

theorem Follows.deliver (follows : script.Follows config opening conversation)
    (lawful : suite.Lawful) (isSent : letter ∈ conversation.sent)
    (kept : (conversation.books letter.addressee).Keeps config letter.key) (random : Randomness)
    (fresh : letter.key ∉ (conversation.books letter.addressee).keys →
      (KeyPair.generate suite random).1.publicKey ∉ conversation.ratchetKeys letter.addressee) :
    ∃ next : Script, next.Follows config opening
      (conversation.deliver config opening letter random) := by
  rcases follows.deliver_cases isSent random with ⟨lock, keeps, delivered_eq⟩ |
    ⟨text, final, rest, lock, opened, sole, delivered_eq⟩
  · rw [delivered_eq]
    exact ⟨script, follows.toTracks.of_content keeps, follows.genuine⟩
  · rw [delivered_eq]
    obtain ⟨halves, ahead, next⟩ := follows.read isSent kept fresh lawful opened sole
    exact ⟨_, next⟩

end Script

/-- Every run follows a script. -/
theorem Conversation.Run.follows {conversation : Conversation} (lawful : suite.Lawful)
    (short : config.macLength ≤ 32) (run : Conversation.Run config opening conversation) :
    ∃ script : Script, script.Follows config opening conversation := by
  induction run with
  | start random => exact Script.exists_begun config lawful opening random
  | send run side plaintext random ih =>
      obtain ⟨script, follows⟩ := ih
      exact follows.send lawful short side plaintext random
  | deliver run letter random isSent kept fresh ih =>
      obtain ⟨script, follows⟩ := ih
      exact follows.deliver lawful isSent kept random fresh

end DoubleRatchet
