import DoubleRatchet.Proofs.Conversation.Half
import DoubleRatchet.Proofs.Session.Search
import DoubleRatchet.Proofs.Session.Seek

/-!
# From a bundle to the first message that its owner reads

A party begins a session with the keys of a bundle and tells the owner which of them it used. The owner
finds the same secret if it is told of all of them. A one-time prekey that a bundle offers without its
number is used for the secret and not told of, and then the owner misses the last agreement.
-/

namespace DoubleRatchet

variable {suite : Suite} {config : Config}

/-! ## The last agreement -/

/-- A one-time prekey adds one agreement at the end of the secret. -/
theorem Handshake.Initiator.secret_append {keys : Initiator} {oneTime : PublicKey} {secret : Bytes}
    (offered : keys.theirOneTimePreKey = some oneTime) (found : keys.secret suite = .ok secret) :
    ∃ front shared, ({ keys with theirOneTimePreKey := none }).secret suite = .ok front ∧
      keys.ourBase.agreement suite oneTime = .ok shared ∧ secret = front ++ shared.bytes := by
  unfold Initiator.secret at found ⊢
  rw [offered] at found
  rcases first : keys.ourIdentity.agreement suite keys.theirSignedPreKey with failure | identityShared
  · rw [first] at found
    cases found
  rcases second : keys.ourBase.agreement suite keys.theirIdentity with failure | baseShared
  · rw [first, second] at found
    cases found
  rcases third : keys.ourBase.agreement suite keys.theirSignedPreKey with failure | signedShared
  · rw [first, second, third] at found
    cases found
  rcases fourth : keys.ourBase.agreement suite oneTime with failure | shared
  · rw [first, second, third] at found
    dsimp only at found
    rw [fourth] at found
    cases found
  · rw [first, second, third] at found
    dsimp only at found
    rw [fourth] at found
    refine ⟨_, shared, rfl, rfl, ?_⟩
    rw [← Except.ok.inj found, List.append_nil]

theorem Suite.sealText_isOk (suite : Suite) (supported : config.nonceLength = 12) (key : Block 32)
    (vector : Block 16) (plaintext associated : Bytes) :
    ∃ ciphertext, suite.sealText config key vector.bytes plaintext associated = .ok ciphertext := by
  have length_eq : (vector.bytes.take 12).length = 12 := by
    rw [List.length_take, vector.length_eq]
    rfl
  unfold sealText nonce Block.ofBytes?
  rw [if_neg (not_not.mpr supported), dif_pos length_eq]
  exact ⟨_, rfl⟩

/-! ## What a bundle offers -/

/-- The keys of a bundle are kept by its owner, the one-time prekey under the number that goes with it
if one does. -/
structure PreKeyBundle.Backed (suite : Suite) (owner : Store) (signedPreKey : SignedPreKeyRecord)
    (oneTime : Option PreKeyRecord) (bundle : PreKeyBundle) : Prop where
  identityKey_eq : bundle.identityKey = owner.identity.publicKey
  signedPreKey_eq : bundle.signedPreKey = some signedPreKey.keyPair.publicKey
  signedPreKey_kept : owner.signedPreKeys.find? bundle.signedPreKeyId = some signedPreKey
  preKey_eq : bundle.preKey = oneTime.map fun record => record.keyPair.publicKey
  preKey_kept : ∀ record id, oneTime = some record → bundle.preKeyId = some id →
    owner.preKeys.find? id = some record
  identity_matches : owner.identity.Matches suite
  signedPreKey_matches : signedPreKey.keyPair.Matches suite
  oneTime_matches : ∀ record, oneTime = some record → record.keyPair.Matches suite

/-- The number of the one-time prekey, as a party that uses the bundle announces it. -/
def PreKeyBundle.announced (bundle : PreKeyBundle) : Option UInt32 :=
  if bundle.preKey.isSome then bundle.preKeyId else none

/-- A one-time prekey that is offered is offered with its number. -/
def PreKeyBundle.Numbered (bundle : PreKeyBundle) : Prop :=
  bundle.preKey.isSome = true → bundle.preKeyId.isSome = true

theorem PreKeyBundle.numbered_iff {bundle : PreKeyBundle} :
    bundle.Numbered ↔ bundle.announced.isSome = bundle.preKey.isSome := by
  unfold Numbered announced
  cases bundle.preKey with
  | none => simp
  | some key => simp

namespace Session

variable {peer : Address} {store after later : Store} {bundle : PreKeyBundle} {plaintext : Bytes}
  {random drawn sending rest : Randomness} {message : CiphertextMessage} {first : PreKeyMessage}

/-! ## The caller -/

/-- The base key and the ratchet key that a party draws for a session. -/
def basePair (suite : Suite) (random : Randomness) : KeyPair :=
  (KeyPair.generate suite random).1

def ratchetPair (suite : Suite) (random : Randomness) : KeyPair :=
  (KeyPair.generate suite (KeyPair.generate suite random).2).1

/-- A first message that announces a session begun with the bundle, and is the first one under the
ratchet key of that session. -/
structure Calls (suite : Suite) (config : Config) (store : Store) (bundle : PreKeyBundle)
    (signedPreKey : PublicKey) (random : Randomness) (plaintext secret : Bytes)
    (first : PreKeyMessage) where
  step : RootStep
  found : (initiatorKeys store bundle signedPreKey (basePair suite random)).secret suite = .ok secret
  stepped : (Handshake.firstStep suite secret []).root.step suite signedPreKey
    (ratchetPair suite random) = .ok step
  version_eq : first.version = Envelope.currentVersion
  preKeyId_eq : first.preKeyId = bundle.announced
  signedPreKeyId_eq : first.signedPreKeyId = bundle.signedPreKeyId
  baseKey_eq : first.baseKey = (basePair suite random).publicKey
  identityKey_eq : first.identityKey = store.identity.publicKey
  ratchetKey_eq : first.message.ratchetKey = (ratchetPair suite random).publicKey
  counter_eq : first.message.counter = 0
  genuine : Genuine suite config store.identity.publicKey bundle.identityKey (fun _ => step.chain)
    plaintext first.message

/-- The current state once a bundle was processed. -/
theorem current_of_processBundle
    (begun : processBundle suite config peer bundle store random = ⟨.ok (), after, drawn⟩) :
    ∃ signedPreKey secret step blank, bundle.signedPreKey = some signedPreKey ∧
      (initiatorKeys store bundle signedPreKey (basePair suite random)).secret suite = .ok secret ∧
      (Handshake.firstStep suite secret []).root.step suite signedPreKey
        (ratchetPair suite random) = .ok step ∧
      after.trusts peer bundle.identityKey = true ∧
      (after.session peer).current = announcing store bundle (basePair suite random).publicKey
        ((initiatorKeys store bundle signedPreKey (basePair suite random)).begun suite config secret
          (ratchetPair suite random) step blank) := by
  obtain ⟨signedPreKey, state, _, offered, _, established, rfl⟩ := processBundle_eq_ok.mp begun
  obtain ⟨secret, step, found, stepped, rfl, _⟩ :=
    Handshake.Initiator.establish_eq_ok.mp established
  refine ⟨signedPreKey, secret, step, (makeRoom config (store.session peer)).current, offered, found,
    stepped, ?_, ?_⟩
  · exact (Store.trusts_iff _ _ _).mpr (.inr (Table.find?_insert_self _ _ _))
  · rw [Store.session_putSession]
    rfl

theorem calls_of_encrypt (lawful : suite.Lawful) (short : config.macLength ≤ 32)
    (begun : processBundle suite config peer bundle store random = ⟨.ok (), after, drawn⟩)
    (sent : encrypt suite config peer plaintext after sending = ⟨.ok message, later, rest⟩) :
    ∃ first signedPreKey secret, message = .preKey first ∧
      bundle.signedPreKey = some signedPreKey ∧
      Nonempty (Calls suite config store bundle signedPreKey random plaintext secret first) := by
  obtain ⟨signedPreKey, secret, step, blank, offered, found, stepped, _, current_eq⟩ :=
    current_of_processBundle begun
  obtain ⟨ours, theirs, state, _, identified, _, encrypted, _⟩ := encrypt_eq_ok.mp sent
  rw [current_eq] at identified encrypted
  cases identified
  obtain ⟨chain, ciphertext, hasChain, sealed, notLast, rfl, _, _⟩ :=
    SessionState.encrypt_eq_ok.mp encrypted
  obtain rfl := Option.some.inj hasChain
  have begins : step.chain.index = 0 := RootKey.index_of_step stepped
  refine ⟨_, signedPreKey, secret, rfl, offered, ⟨?_⟩⟩
  exact
    { step := step
      found := found
      stepped := stepped
      version_eq := rfl
      preKeyId_eq := rfl
      signedPreKeyId_eq := rfl
      baseKey_eq := rfl
      identityKey_eq := rfl
      ratchetKey_eq := rfl
      counter_eq := begins
      genuine := by
        apply Genuine.of_keys lawful short rfl _ sealed notLast
        unfold SignalMessage.keys
        congr 2
        change ChainKey.later suite step.chain.index.toNat step.chain = step.chain
        rw [begins]
        rfl }

/-- A party that has processed a bundle can send. -/
theorem encrypt_isOk (supported : config.nonceLength = 12)
    (begun : processBundle suite config peer bundle store random = ⟨.ok (), after, drawn⟩)
    (plaintext : Bytes) (sending : Randomness) :
    ∃ message later rest,
      encrypt suite config peer plaintext after sending = ⟨.ok message, later, rest⟩ := by
  obtain ⟨signedPreKey, secret, step, blank, _, _, stepped, trusted, current_eq⟩ :=
    current_of_processBundle begun
  have begins : step.chain.index = 0 := RootKey.index_of_step stepped
  let chain : SenderChain := { ratchetKey := ratchetPair suite random, chainKey := step.chain }
  obtain ⟨ciphertext, sealed⟩ := suite.sealText_isOk supported
    (step.chain.messageKeys suite).cipherKey (step.chain.messageKeys suite).vector plaintext
    (SignalMessage.associatedData Envelope.currentVersion chain.ratchetKey.publicKey
      step.chain.index)
  have encrypted : SessionState.encrypt suite config store.identity.publicKey bundle.identityKey
      plaintext (after.session peer).current sending =
        ⟨.ok ((after.session peer).current.outerMessage store.identity.publicKey
          ((after.session peer).current.innerMessage suite config store.identity.publicKey
            bundle.identityKey chain ciphertext)),
          (after.session peer).current.sentOn suite chain, sending⟩ := by
    refine SessionState.encrypt_eq_ok.mpr ⟨chain, ciphertext, ?_, ?_, ?_, rfl, rfl, rfl⟩
    · rw [current_eq]
      rfl
    · rw [current_eq]
      exact sealed
    · rw [begins]
      decide
  refine ⟨_, _, _, encrypt_eq_ok.mpr ⟨_, _, _, ?_, ?_, trusted, encrypted, rfl⟩⟩
  · unfold SessionRecord.isFresh
    rw [current_eq]
    rfl
  · rw [current_eq]
    rfl

/-! ## The owner -/

section Owner

variable {caller : Address} {owner : Store} {signedPreKey : SignedPreKeyRecord}
  {oneTime : Option PreKeyRecord} {secret : Bytes}

theorem mirrored_of_backed (backed : bundle.Backed suite owner signedPreKey oneTime)
    (identityMatches : store.identity.Matches suite)
    (calls : Calls suite config store bundle signedPreKey.keyPair.publicKey random plaintext secret
      first)
    {used : Option PreKeyRecord} (usedMatches : ∀ record, used = some record →
      record.keyPair.Matches suite) :
    Handshake.Mirrored suite
      { initiatorKeys store bundle signedPreKey.keyPair.publicKey (basePair suite random) with
        theirOneTimePreKey := used.map fun record => record.keyPair.publicKey }
      (responderKeys owner first signedPreKey (used.map PreKeyRecord.keyPair)) where
  initiatorIdentity := calls.identityKey_eq
  initiatorBase := calls.baseKey_eq
  responderIdentity := backed.identityKey_eq
  signedPreKey := rfl
  oneTimePreKey := (Option.map_map _ _ _).symm
  ratchet := rfl
  identityMatches := identityMatches
  baseMatches := KeyPair.matches_generate suite random
  theirIdentityMatches := backed.identity_matches
  signedPreKeyMatches := backed.signedPreKey_matches
  oneTimePreKeyMatches := by
    intro pair isUsed
    obtain ⟨record, same, rfl⟩ := Option.map_eq_some_iff.mp isUsed
    exact usedMatches record same
  ratchetMatches := backed.signedPreKey_matches

/-- The owner has every key that the caller used, and is told of it. -/
theorem offers_of_numbered (backed : bundle.Backed suite owner signedPreKey oneTime)
    (calls : Calls suite config store bundle signedPreKey.keyPair.publicKey random plaintext secret
      first) (numbered : bundle.Numbered) :
    Offers first signedPreKey (oneTime.map PreKeyRecord.keyPair) owner := by
  have preKeyId_eq := calls.preKeyId_eq
  unfold PreKeyBundle.announced at preKeyId_eq
  unfold PreKeyBundle.Numbered at numbered
  have signed := backed.signedPreKey_kept
  rw [← calls.signedPreKeyId_eq] at signed
  cases offered : oneTime with
  | none =>
      rw [backed.preKey_eq, offered] at preKeyId_eq
      exact ⟨signed, by rw [preKeyId_eq]; rfl, by rw [preKeyId_eq]; rfl⟩
  | some record =>
      rw [backed.preKey_eq, offered] at preKeyId_eq numbered
      obtain ⟨id, given⟩ := Option.isSome_iff_exists.mp (numbered rfl)
      have kept := backed.preKey_kept record id offered given
      rw [given] at preKeyId_eq
      refine ⟨signed, ?_, by rw [preKeyId_eq]; rfl⟩
      rw [preKeyId_eq]
      simp only [Option.map_some, Option.isSome_some, if_true, Option.bind_some, kept]

/-- The owner is told of no one-time prekey. -/
theorem offers_of_not_numbered (backed : bundle.Backed suite owner signedPreKey oneTime)
    (calls : Calls suite config store bundle signedPreKey.keyPair.publicKey random plaintext secret
      first) (unnamed : bundle.announced = none) :
    Offers first signedPreKey none owner := by
  have signed := backed.signedPreKey_kept
  rw [← calls.signedPreKeyId_eq] at signed
  have preKeyId_eq := calls.preKeyId_eq.trans unnamed
  exact ⟨signed, by rw [preKeyId_eq]; rfl, by rw [preKeyId_eq]; rfl⟩

/-- What a party has of a session that it has joined: nothing but its signed prekey and what the
handshake gave. -/
def joinedHalf (signedPreKey : KeyPair) (handshake : RootStep) : Half :=
  { earlier := []
    last := signedPreKey
    start := fun _ => handshake.chain
    count := 0
    root := handshake.root }

/-- The state of a party that joined with a secret. -/
def joinedWith (suite : Suite) (owner : Store) (first : PreKeyMessage)
    (signedPreKey : SignedPreKeyRecord) (oneTime : Option KeyPair) (secret : Bytes) : SessionState :=
  joinedState owner first
    ((responderKeys owner first signedPreKey oneTime).begun suite secret {})

theorem holds_joinedWith (pair : Option KeyPair) (secret : Bytes) (start : PublicKey → ChainKey) :
    Holds suite config owner.identity.publicKey first.identityKey
      (joinedHalf signedPreKey.keyPair (Handshake.firstStep suite secret [])) start []
      (joinedWith suite owner first signedPreKey pair secret) where
  version_eq := rfl
  localIdentity_eq := rfl
  remoteIdentity_eq := rfl
  rootKey_eq := rfl
  senderChain_eq := rfl
  receiverChains_eq := Book.realise_nil.symm
  epoch_eq := rfl

/-- A party that joined with the caller's secret reads what the caller sent first. -/
theorem decrypt_joinedWith (lawful : suite.Lawful) (keeps : 0 < config.maxReceiverChains)
    (backed : bundle.Backed suite owner signedPreKey oneTime)
    (calls : Calls suite config store bundle signedPreKey.keyPair.publicKey random plaintext secret
      first) (pair : Option KeyPair) (reading : Randomness) :
    ∃ final rest, SessionState.decrypt suite config first.message
      (joinedWith suite owner first signedPreKey pair secret) reading =
        ⟨.ok plaintext, final, rest⟩ := by
  have holds : Holds suite config owner.identity.publicKey first.identityKey _
      (fun _ => calls.step.chain) [] (joinedWith suite owner first signedPreKey pair secret) :=
    holds_joinedWith pair secret _
  have ratchetMatches : (ratchetPair suite random).Matches suite := KeyPair.matches_generate _ _
  -- The step of the caller is the step that the owner takes to receive.
  have receives : (Handshake.firstStep suite secret []).root.step suite
      (ratchetPair suite random).publicKey signedPreKey.keyPair = .ok calls.step :=
    (RootKey.step_comm lawful.agree_comm _ ratchetMatches backed.signedPreKey_matches).symm.trans
      calls.stepped
  have few : (joinedHalf signedPreKey.keyPair
      (Handshake.firstStep suite secret [])).keys.length < 0x80000000 := Nat.lt_of_sub_eq_succ rfl
  obtain ⟨turn⟩ := holds.exists_turn lawful ratchetMatches receives few
    (KeyPair.generate suite reading).1
  rw [← calls.ratchetKey_eq] at turn receives
  have receiver_eq : calls.step = turn.receiver := by
    have hasRoot := holds.rootKey_eq.symm.trans turn.hasRoot
    have hasSending := holds.senderChain_eq.symm.trans turn.hasSending
    have steps := turn.receives
    rw [← Option.some.inj hasRoot, ← Option.some.inj hasSending] at steps
    exact Except.ok.inj (receives.symm.trans steps)
  have unseen : first.message.ratchetKey ∉ Book.keys [] := List.not_mem_nil
  have turned := holds.turned turn unseen (congrArg RootStep.chain receiver_eq)
  have missing := holds.receiverChain?_of_unseen unseen
  have log_eq : Book.log first.message.ratchetKey (Book.noting first.message.ratchetKey []) =
      { key := first.message.ratchetKey } := Book.log_noting _ _ _
  have distinct : (Book.noting first.message.ratchetKey []).keys.Nodup :=
    Book.nodup_keys_noting _ List.nodup_nil
  have valid : (Book.log first.message.ratchetKey
      (Book.noting first.message.ratchetKey [])).Valid config := by
    rw [log_eq]
    exact ChainLog.valid_new config _
  have grants : (Book.log first.message.ratchetKey
      (Book.noting first.message.ratchetKey [])).Grants config first.message.counter.toNat := by
    rw [log_eq, calls.counter_eq]
    exact .inr ⟨Nat.le_refl 0, Nat.zero_le _⟩
  have genuine := calls.genuine
  rw [backed.identityKey_eq, ← calls.identityKey_eq] at genuine
  exact ⟨_, _, turned.decrypt_of_grants distinct (Book.keeps_of_unseen unseen keeps)
    (RootKey.index_of_step calls.stepped) valid (.turned missing turn) rfl rfl genuine grants⟩

theorem accept_of_offers {pair : Option KeyPair}
    (calls : Calls suite config store bundle signedPreKey.keyPair.publicKey random plaintext secret
      first) (offers : Offers first signedPreKey pair owner) {shared : Bytes}
    (found : (responderKeys owner first signedPreKey pair).secret suite = .ok shared)
    (trusted : owner.trusts caller store.identity.publicKey = true)
    (blank : (owner.session caller).isFresh = true → (owner.session caller).current = {})
    (unknown : (owner.session caller).hasSession Envelope.currentVersion
      (basePair suite random).publicKey = false) (reading : Randomness) :
    acceptPreKeyMessage suite config caller (owner.session caller) first owner reading =
      ⟨.ok (first.preKeyId, (makeRoom config (owner.session caller)).setCurrent
          (joinedWith suite owner first signedPreKey pair shared)),
        owner.putIdentity caller store.identity.publicKey, reading⟩ := by
  have joining : join suite config (owner.session caller) first owner reading = _ :=
    offers.join_eq found (owner.session caller) reading
  rw [current_makeRoom_of_blank config blank] at joining
  rw [← calls.identityKey_eq] at trusted ⊢
  rw [← calls.version_eq, ← calls.baseKey_eq] at unknown
  exact accept_of_join trusted unknown joining

/-- The owner of a bundle reads the first message that is sent with it, if the bundle names the
one-time prekey that it offers. If it does not, the caller's secret ends with an agreement that the
message does not tell of, and the owner joins with the secret without it. -/
theorem owner_joins_numbered_bundle (lawful : suite.Lawful) (short : config.macLength ≤ 32)
    (keeps : 0 < config.maxReceiverChains) (identityMatches : store.identity.Matches suite)
    (backed : bundle.Backed suite owner signedPreKey oneTime)
    (begun : processBundle suite config peer bundle store random = ⟨.ok (), after, drawn⟩)
    (trusted : owner.trusts caller store.identity.publicKey = true)
    (blank : (owner.session caller).isFresh = true → (owner.session caller).current = {})
    (unknown : (owner.session caller).hasSession Envelope.currentVersion
      (basePair suite random).publicKey = false) :
    (config.nonceLength = 12 → ∀ plaintext sending, ∃ message later rest,
      encrypt suite config peer plaintext after sending = ⟨.ok message, later, rest⟩) ∧
    ∀ plaintext sending message later rest,
      encrypt suite config peer plaintext after sending = ⟨.ok message, later, rest⟩ →
      ∃ first, message = .preKey first ∧
        (first.preKeyId.isSome = bundle.preKey.isSome ↔ bundle.Numbered) ∧
        (bundle.Numbered → ∀ reading,
          (decrypt suite config caller message Receiver.accept owner reading).result =
            .ok plaintext) ∧
        (¬bundle.Numbered → ∃ (front : Bytes) (shared : Block 32),
          (initiatorKeys store bundle signedPreKey.keyPair.publicKey
            (basePair suite random)).secret suite = .ok (front ++ shared.bytes) ∧
          ∀ reading, acceptPreKeyMessage suite config caller (owner.session caller) first owner
            reading = ⟨.ok (none, (makeRoom config (owner.session caller)).setCurrent
              (joinedWith suite owner first signedPreKey none front)),
                owner.putIdentity caller store.identity.publicKey, reading⟩) := by
  refine ⟨fun supported plaintext sending => encrypt_isOk supported begun plaintext sending, ?_⟩
  intro plaintext sending message later rest sent
  obtain ⟨first, key, secret, rfl, offered, ⟨calls⟩⟩ := calls_of_encrypt lawful short begun sent
  obtain rfl : signedPreKey.keyPair.publicKey = key :=
    Option.some.inj (backed.signedPreKey_eq.symm.trans offered)
  refine ⟨first, rfl, ?_, ?_, ?_⟩
  · rw [calls.preKeyId_eq]
    exact PreKeyBundle.numbered_iff.symm
  · intro numbered reading
    have mirrored := mirrored_of_backed backed identityMatches calls backed.oneTime_matches
    have found := calls.found
    rw [← backed.preKey_eq] at mirrored
    have joins := found.symm.trans (mirrored.secret_eq lawful.agree_comm)
    have accepted := accept_of_offers calls (offers_of_numbered backed calls numbered) joins.symm
      trusted blank unknown reading
    let joined := (makeRoom config (owner.session caller)).setCurrent
      (joinedWith suite owner first signedPreKey (oneTime.map PreKeyRecord.keyPair) secret)
    have states_eq : joined.states = [] ++ joined.current :: joined.archived := rfl
    obtain ⟨_, final, rest, _, answered⟩ := SessionRecord.decrypt_of_opener states_eq
      (fun _ member => nomatch member)
      (decrypt_joinedWith lawful keeps backed calls (oneTime.map PreKeyRecord.keyPair)) reading
    have read := decryptPreKeyMessage_eq accepted
    rw [answered] at read
    change (decryptPreKeyMessage suite config caller first Receiver.accept owner reading).result = _
    rw [read]
    rfl
  · intro unnumbered
    obtain ⟨isOffered, unnamed⟩ := Classical.not_imp.mp unnumbered
    obtain ⟨key, isKey⟩ := Option.isSome_iff_exists.mp isOffered
    have nothing : bundle.announced = none := by
      unfold PreKeyBundle.announced
      rw [if_pos isOffered]
      exact Option.not_isSome_iff_eq_none.mp unnamed
    obtain ⟨front, shared, withoutLast, _, rfl⟩ :=
      Handshake.Initiator.secret_append isKey calls.found
    have noneUsed : ∀ record : PreKeyRecord, none = some record → record.keyPair.Matches suite :=
      nofun
    have mirrored := mirrored_of_backed backed identityMatches calls noneUsed
    have joins := withoutLast.symm.trans (mirrored.secret_eq lawful.agree_comm)
    refine ⟨front, shared, calls.found, fun reading => ?_⟩
    have accepted := accept_of_offers calls (offers_of_not_numbered backed calls nothing) joins.symm
      trusted blank unknown reading
    rw [calls.preKeyId_eq, nothing] at accepted
    exact accepted

end Owner

/-! ## The newcomer's bundle, with and without the number -/

/-- What the newcomer offers with its one-time prekey, under a number or not. -/
def offering (preKeyId : Option UInt32) : PreKeyBundle :=
  { PreKeyBundle.newcomer with
    preKeyId := preKeyId
    preKey := some (KeyPair.additive 3).publicKey }

def stranger : Store :=
  { identity := KeyPair.additive 4, registrationId := 2 }

/-- The stranger processes a bundle, and sends with it. -/
def beginning (bundle : PreKeyBundle) : Outcome Store Unit :=
  processBundle Suite.additive {} .newcomer bundle stranger (.repeated 8)

def calling (bundle : PreKeyBundle) : Outcome Store CiphertextMessage :=
  encrypt Suite.additive {} .newcomer [1, 2, 3] (beginning bundle).state (.repeated 0)

def unnamedCall : CiphertextMessage :=
  (calling (offering none)).result.toOption.get (by decide +kernel)

theorem backed_offering :
    (offering (some 6)).Backed Suite.additive .newcomer
      { id := 7, timestamp := 0, keyPair := KeyPair.additive 2, signature := [] }
      (some { id := 6, keyPair := KeyPair.additive 3 }) where
  identityKey_eq := rfl
  signedPreKey_eq := rfl
  signedPreKey_kept := by decide +kernel
  preKey_eq := rfl
  preKey_kept := by
    intro record id same given
    cases same
    cases given
    decide +kernel
  identity_matches := rfl
  signedPreKey_matches := rfl
  oneTime_matches := fun _ same => Option.some.inj same ▸ rfl

/-- The newcomer reads the call that names its one-time prekey, and not the one that uses it
unnamed. -/
theorem newcomer_misses_unnamed_call :
    (∃ message, (calling (offering (some 6))).result = .ok message ∧
      (decrypt Suite.additive {} .caller message Receiver.accept .newcomer (.repeated 16)).result =
        .ok [1, 2, 3]) ∧
    (calling (offering none)).result = .ok unnamedCall ∧
    (decrypt Suite.additive {} .caller unnamedCall Receiver.accept .newcomer
      (.repeated 16)).result = .error (.invalidMessage .noValidSession) := by
  have keeps : 0 < ({} : Config).maxReceiverChains := by decide
  have short : ({} : Config).macLength ≤ 32 := by decide
  have identityMatches : stranger.identity.Matches Suite.additive := rfl
  have begun : beginning (offering (some 6)) =
      ⟨.ok (), (beginning (offering (some 6))).state, (beginning (offering (some 6))).random⟩ :=
    Outcome.eq_of_result (by decide +kernel)
  have trusted : Store.newcomer.trusts .caller stranger.identity.publicKey = true := by
    decide +kernel
  have blank : (Store.newcomer.session .caller).isFresh = true →
      (Store.newcomer.session .caller).current = {} := by decide +kernel
  have unknown : (Store.newcomer.session .caller).hasSession Envelope.currentVersion
      (basePair Suite.additive (.repeated 8)).publicKey = false := by decide +kernel
  obtain ⟨encrypts, reads⟩ := owner_joins_numbered_bundle Suite.additive_lawful short keeps
    identityMatches backed_offering begun trusted blank unknown
  obtain ⟨message, later, rest, sent⟩ := encrypts rfl [1, 2, 3] (.repeated 0)
  obtain ⟨first, rfl, _, read, _⟩ := reads _ _ _ _ _ sent
  refine ⟨⟨_, congrArg Outcome.result sent, read (fun _ => rfl) _⟩, ?_, ?_⟩
  · decide +kernel
  · decide +kernel

end Session
end DoubleRatchet
