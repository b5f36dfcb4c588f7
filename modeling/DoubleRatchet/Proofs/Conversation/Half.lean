import DoubleRatchet.Proofs.Conversation.Ledger
import DoubleRatchet.Proofs.Handshake
import DoubleRatchet.Proofs.Session.Receive
import DoubleRatchet.Proofs.Session.Send

/-!
# One half of a conversation

A half is what one side has drawn and derived: its ratchet keys and how the sending chain under each
of them began. The state of a side is determined by its own half, by the beginnings in the other
half, and by the book of what it has read.
-/

namespace DoubleRatchet

structure Half where
  earlier : List KeyPair
  last : KeyPair
  /-- How the sending chain under a ratchet key began. -/
  start : PublicKey → ChainKey
  /-- Messages sent under the last ratchet key. -/
  count : Nat
  root : RootKey

namespace Half

def keys (half : Half) : List PublicKey :=
  half.earlier.map KeyPair.publicKey ++ [half.last.publicKey]

def sending (suite : Suite) (half : Half) : SenderChain :=
  { ratchetKey := half.last
    chainKey := (half.start half.last.publicKey).later suite half.count }

def sentOne (half : Half) : Half :=
  { half with count := half.count + 1 }

/-- The half with a fresh ratchet key, whose chain and root come from `sender`. -/
def turned (fresh : KeyPair) (sender : RootStep) (half : Half) : Half :=
  { earlier := half.earlier ++ [half.last]
    last := fresh
    start := fun key => if key = fresh.publicKey then sender.chain else half.start key
    count := 0
    root := sender.root }

structure Proper (suite : Suite) (half : Half) : Prop where
  last_matches : half.last.Matches suite
  distinct : half.keys.Nodup
  begins : ∀ key ∈ half.keys, (half.start key).index = 0
  fits : half.count < 0x100000000

variable {suite : Suite} {half : Half} {fresh : KeyPair} {sender : RootStep} {key : PublicKey}

theorem last_mem_keys (half : Half) : half.last.publicKey ∈ half.keys :=
  List.mem_append_right _ List.mem_cons_self

theorem keys_turned : (half.turned fresh sender).keys = half.keys ++ [fresh.publicKey] := by
  simp only [keys, turned, List.map_append, List.map_cons, List.map_nil]

theorem length_keys (half : Half) : half.keys.length = half.earlier.length + 1 := by
  simp only [keys, List.length_append, List.length_map, List.length_singleton]

theorem start_turned_of_mem (member : key ∈ half.keys) (isFresh : fresh.publicKey ∉ half.keys) :
    (half.turned fresh sender).start key = half.start key := by
  apply if_neg
  intro same
  exact isFresh (same ▸ member)

theorem start_turned_self : (half.turned fresh sender).start fresh.publicKey = sender.chain :=
  if_pos rfl

theorem Proper.turned (proper : half.Proper suite) (isFresh : fresh.publicKey ∉ half.keys)
    (freshMatches : fresh.Matches suite) (begins : sender.chain.index = 0) :
    (half.turned fresh sender).Proper suite := by
  refine ⟨freshMatches, ?_, ?_, Nat.two_pow_pos 32⟩
  · rw [keys_turned]
    refine List.nodup_append.mpr ⟨proper.distinct, List.pairwise_singleton _ _, ?_⟩
    intro old isOld new isNew same
    rw [same, List.mem_singleton.mp isNew] at isOld
    exact isFresh isOld
  · intro key member
    rw [keys_turned] at member
    rcases List.mem_append.mp member with old | new
    · rw [start_turned_of_mem old isFresh]
      exact proper.begins key old
    · rw [List.mem_singleton.mp new, start_turned_self]
      exact begins

end Half

/-! ## The state of a side -/

/-- The state of a side: its own half, how the chains of the other side began, and its book. -/
structure Holds (suite : Suite) (config : Config) (ours theirs : PublicKey) (half : Half)
    (start : PublicKey → ChainKey) (book : Book) (state : SessionState) : Prop where
  version_eq : state.version = Envelope.currentVersion
  localIdentity_eq : state.localIdentity = some ours
  remoteIdentity_eq : state.remoteIdentity = some theirs
  rootKey_eq : state.rootKey = some half.root
  senderChain_eq : state.senderChain = some (half.sending suite)
  receiverChains_eq : state.receiverChains = book.realise suite config start
  epoch_eq : state.authKey.epoch.toNat = 2 * half.earlier.length

namespace Holds

variable {suite : Suite} {config : Config} {ours theirs key : PublicKey} {half : Half}
  {start : PublicKey → ChainKey} {book : Book} {state ready : SessionState} {counter : Nat}
  {random rest : Randomness}

theorem identities_eq (holds : Holds suite config ours theirs half start book state) :
    state.identities = .ok (ours, theirs) := by
  unfold SessionState.identities
  rw [holds.localIdentity_eq, holds.remoteIdentity_eq]

theorem isInitialized_eq (holds : Holds suite config ours theirs half start book state) :
    state.isInitialized = true := by
  unfold SessionState.isInitialized
  rw [holds.rootKey_eq]
  rfl

theorem sendingKey?_eq (holds : Holds suite config ours theirs half start book state) :
    state.sendingKey? = some half.last.publicKey :=
  SessionState.sendingKey?_of_chain holds.senderChain_eq

theorem start_congr {other : PublicKey → ChainKey}
    (holds : Holds suite config ours theirs half start book state)
    (same : ∀ key ∈ book.keys, other key = start key) :
    Holds suite config ours theirs half other book state := by
  refine { holds with receiverChains_eq := holds.receiverChains_eq.trans ?_ }
  apply List.map_congr_left
  intro log kept
  have member : log.key ∈ book.keys := List.mem_map_of_mem ((newest_sublist _ _).subset kept)
  rw [same log.key member]

theorem sentOn (holds : Holds suite config ours theirs half start book state) :
    Holds suite config ours theirs half.sentOne start book
      (state.sentOn suite (half.sending suite)) := by
  refine { holds with senderChain_eq := ?_ }
  simp only [SessionState.sentOn, Half.sending, Half.sentOne, ChainKey.later_succ]

/-! ## Reading on a chain that is there -/

theorem receiverChain?_eq (holds : Holds suite config ours theirs half start book state)
    (distinct : book.keys.Nodup)
    (kept : key ∈ Book.keys (newest config.maxReceiverChains book)) :
    state.receiverChain? key = some ((book.log key).realise suite (start key)) := by
  unfold SessionState.receiverChain?
  rw [holds.receiverChains_eq]
  exact Book.lookup_realise distinct kept

theorem receiverChain?_of_unseen (holds : Holds suite config ours theirs half start book state)
    (unseen : key ∉ book.keys) : state.receiverChain? key = none := by
  unfold SessionState.receiverChain?
  rw [holds.receiverChains_eq]
  exact Book.lookup_realise_of_unseen unseen

/-- The book keeps the key of every chain that the state has. -/
theorem keeps_of_known (holds : Holds suite config ours theirs half start book state)
    (known : (state.receiverChain? key).isSome = true) : book.Keeps config key := by
  obtain ⟨chain, found⟩ := Option.isSome_iff_exists.mp known
  unfold SessionState.receiverChain? at found
  rw [holds.receiverChains_eq] at found
  exact Book.keeps_of_kept (Book.kept_of_lookup_realise found)

/-- The state after a message was read on its chain. -/
def afterReading (suite : Suite) (config : Config) (start : PublicKey → ChainKey) (book : Book)
    (key : PublicKey) (counter : Nat) (ready : SessionState) : SessionState :=
  { ready.withChain (((book.log key).read config counter).realise suite (start key)) with
    pending := none }

theorem reading (holds : Holds suite config ours theirs half start book state)
    (distinct : book.keys.Nodup) (noted : key ∈ book.keys) :
    Holds suite config ours theirs half start (book.reading config key counter)
      (afterReading suite config start book key counter state) := by
  refine { holds with receiverChains_eq := ?_ }
  rw [← Book.replace_realise distinct noted, ← holds.receiverChains_eq]
  rfl

/-! ## A turn of the ratchet -/

theorem turned (holds : Holds suite config ours theirs half start book state)
    {fresh : KeyPair} (turn : SessionState.Turn suite key fresh state) (unseen : key ∉ book.keys)
    (starts : start key = turn.receiver.chain) :
    Holds suite config ours theirs (half.turned fresh turn.sender) start (book.noting key)
      (turn.turned suite config) := by
  refine
    { version_eq := holds.version_eq
      localIdentity_eq := holds.localIdentity_eq
      remoteIdentity_eq := holds.remoteIdentity_eq
      rootKey_eq := rfl
      senderChain_eq := ?_
      receiverChains_eq := ?_
      epoch_eq := ?_ }
  · have begins : (half.turned fresh turn.sender).start fresh.publicKey = turn.sender.chain :=
      Half.start_turned_self
    change _ = some ({ ratchetKey := fresh, chainKey :=
      (half.turned fresh turn.sender).start fresh.publicKey } : SenderChain)
    rw [begins]
    rfl
  · rw [SessionState.Turn.receiverChains_turned, holds.receiverChains_eq, ← starts]
    exact Book.realise_noting unseen
  · obtain ⟨middle, first, second⟩ := turn.advances
    obtain ⟨firstRoom, rfl⟩ := AuthKey.advance_eq_ok.mp first
    obtain ⟨secondRoom, last⟩ := AuthKey.advance_eq_ok.mp second
    change turn.auth.epoch.toNat = 2 * (half.earlier ++ [half.last]).length
    rw [last, toNat_succ_of_ne secondRoom, toNat_succ_of_ne firstRoom,
      holds.epoch_eq, List.length_append, List.length_singleton]
    omega

/-- The root key has a step for the key, and there is room for two epochs. -/
theorem exists_turn (holds : Holds suite config ours theirs half start book state)
    (lawful : suite.Lawful) {pair : KeyPair} (pairMatches : pair.Matches suite)
    {receiver : RootStep}
    (receives : half.root.step suite pair.publicKey half.last = .ok receiver)
    (room : half.keys.length < 0x80000000) (fresh : KeyPair) :
    Nonempty (SessionState.Turn suite pair.publicKey fresh state) := by
  rw [Half.length_keys] at room
  have epoch_eq := holds.epoch_eq
  have firstRoom : state.authKey.epoch ≠ 0xffffffff := by
    intro last
    rw [last] at epoch_eq
    change 0xffffffff = _ at epoch_eq
    omega
  have secondRoom : state.authKey.epoch + 1 ≠ 0xffffffff := by
    intro last
    have lastNat := congrArg UInt32.toNat last
    rw [toNat_succ_of_ne firstRoom] at lastNat
    change _ = 0xffffffff at lastNat
    omega
  obtain ⟨sender, sends, _⟩ := RootKey.step_isOk fresh lawful receiver.root pairMatches
  exact
    ⟨{ root := half.root
       sending := half.sending suite
       receiver := receiver
       sender := sender
       auth := _
       hasRoot := holds.rootKey_eq
       hasSending := holds.senderChain_eq
       receives := receives
       sends := sends
       advances := ⟨_, AuthKey.advance_eq_ok.mpr ⟨firstRoom, rfl⟩,
         AuthKey.advance_eq_ok.mpr ⟨secondRoom, rfl⟩⟩ }⟩

end Holds

/-! ## Genuine messages -/

/-- The keys of a message, when `start` tells how the sending chains began. -/
def SignalMessage.keys (suite : Suite) (start : PublicKey → ChainKey) (message : SignalMessage) :
    MessageKeys :=
  ((start message.ratchetKey).later suite message.counter.toNat).messageKeys suite

/-- The message opens, under its keys, to the text that it was made of. -/
structure Genuine (suite : Suite) (config : Config) (sender receiver : PublicKey)
    (start : PublicKey → ChainKey) (plaintext : Bytes) (message : SignalMessage) : Prop where
  version_eq : message.version = Envelope.currentVersion
  notLast : message.counter ≠ 0xffffffff
  authentic : message.verifyMac suite config sender receiver
    (message.keys suite start).macKey.bytes = true
  reads : suite.openText config (message.keys suite start).cipherKey
    (message.keys suite start).vector.bytes message.ciphertext
    (SignalMessage.associatedData message.version message.ratchetKey message.counter) =
      .ok plaintext

theorem Genuine.start_congr {suite : Suite} {config : Config} {sender receiver : PublicKey}
    {start other : PublicKey → ChainKey} {plaintext : Bytes} {message : SignalMessage}
    (genuine : Genuine suite config sender receiver start plaintext message)
    (same : other message.ratchetKey = start message.ratchetKey) :
    Genuine suite config sender receiver other plaintext message := by
  have keys_eq : message.keys suite other = message.keys suite start := by
    unfold SignalMessage.keys
    rw [same]
  exact
    { version_eq := genuine.version_eq
      notLast := genuine.notLast
      authentic := keys_eq ▸ genuine.authentic
      reads := keys_eq ▸ genuine.reads }

/-- A message is genuine where `start` tells the keys that it was made with. -/
theorem Genuine.of_keys {suite : Suite} {config : Config} {ours theirs : PublicKey}
    {start : PublicKey → ChainKey} {chain : SenderChain} {plaintext ciphertext : Bytes}
    {state : SessionState} (lawful : suite.Lawful) (short : config.macLength ≤ 32)
    (version_eq : state.version = Envelope.currentVersion)
    (keys_eq : (state.innerMessage suite config ours theirs chain ciphertext).keys suite start =
      chain.chainKey.messageKeys suite)
    (sealed : suite.sealText config (chain.chainKey.messageKeys suite).cipherKey
      (chain.chainKey.messageKeys suite).vector.bytes plaintext
      (SignalMessage.associatedData state.version chain.ratchetKey.publicKey
        chain.chainKey.index) = .ok ciphertext)
    (notLast : chain.chainKey.index ≠ 0xffffffff) :
    Genuine suite config ours theirs start plaintext
      (state.innerMessage suite config ours theirs chain ciphertext) := by
  refine ⟨version_eq, notLast, ?_, ?_⟩
  · rw [keys_eq]
    exact SignalMessage.verifyMac_make short _ _ _ _ _
  · rw [keys_eq]
    exact Suite.openText_sealText lawful.decrypt_encrypt sealed

namespace Holds

variable {suite : Suite} {config : Config} {ours theirs : PublicKey} {half : Half}
  {start : PublicKey → ChainKey} {book : Book} {state ready final : SessionState}
  {message : SignalMessage} {plaintext : Bytes} {random rest : Randomness}

/-- The next message on the sending chain is genuine. -/
theorem genuine_innerMessage (holds : Holds suite config ours theirs half start book state)
    (lawful : suite.Lawful) (short : config.macLength ≤ 32) (proper : half.Proper suite)
    {ciphertext : Bytes}
    (sealed : suite.sealText config
      ((half.sending suite).chainKey.messageKeys suite).cipherKey
      ((half.sending suite).chainKey.messageKeys suite).vector.bytes plaintext
      (SignalMessage.associatedData state.version (half.sending suite).ratchetKey.publicKey
        (half.sending suite).chainKey.index) = .ok ciphertext)
    (notLast : (half.sending suite).chainKey.index ≠ 0xffffffff) :
    Genuine suite config ours theirs half.start plaintext
      (state.innerMessage suite config ours theirs (half.sending suite) ciphertext) := by
  have begins := proper.begins _ half.last_mem_keys
  apply Genuine.of_keys lawful short holds.version_eq _ sealed notLast
  unfold SignalMessage.keys
  congr 2
  exact ChainLog.index_later begins proper.fits

section Ready

variable (holds : Holds suite config ours theirs half start book ready)
  (distinct : book.keys.Nodup)
  (kept : message.ratchetKey ∈ Book.keys (newest config.maxReceiverChains book))
  (begins : (start message.ratchetKey).index = 0)
  (valid : (book.log message.ratchetKey).Valid config)

include holds distinct kept begins valid

/-- A state that is ready reads every genuine message that its log grants. -/
theorem decrypt_of_grants (isReady : SessionState.Ready suite config message.ratchetKey state random
      ready rest) (sends : state.senderChain.isSome = true)
    (version_eq : state.version = Envelope.currentVersion)
    (genuine : Genuine suite config theirs ours start plaintext message)
    (grants : (book.log message.ratchetKey).Grants config message.counter.toNat) :
    SessionState.decrypt suite config message state random =
      ⟨.ok plaintext, afterReading suite config start book message.ratchetKey
        message.counter.toNat ready, rest⟩ := by
  let decryption : SessionState.Decryption suite config message plaintext state ready :=
    { chain := (book.log message.ratchetKey).realise suite (start message.ratchetKey)
      new := ((book.log message.ratchetKey).read config message.counter.toNat).realise suite
        (start message.ratchetKey)
      keys := message.keys suite start
      ours := ours
      theirs := theirs
      sends := sends
      version_eq := genuine.version_eq.trans version_eq.symm
      found := holds.receiverChain?_eq distinct kept
      granted := (ChainLog.request_realise begins valid).mpr ⟨genuine.notLast, grants, rfl, rfl⟩
      identities_eq := holds.identities_eq
      authentic := genuine.authentic
      reads := genuine.reads }
  exact SessionState.decrypt_of_decryption isReady decryption

/-- Whatever a state that is ready reads, it reads as its log says. -/
theorem opened_eq (decryption : SessionState.Decryption suite config message plaintext state ready) :
    (book.log message.ratchetKey).Grants config message.counter.toNat ∧
      decryption.opened = afterReading suite config start book message.ratchetKey
        message.counter.toNat ready := by
  have found := holds.receiverChain?_eq distinct kept
  have same := decryption.found
  rw [found] at same
  have granted := decryption.granted
  rw [← Option.some.inj same] at granted
  obtain ⟨_, grants, _, new_eq⟩ := (ChainLog.request_realise begins valid).mp granted
  refine ⟨grants, ?_⟩
  unfold SessionState.Decryption.opened afterReading
  rw [new_eq]

/-- A message that is done is called a duplicate, and nothing changes. -/
theorem decrypt_of_done (version_eq : message.version = Envelope.currentVersion)
    (done : (book.log message.ratchetKey).Done message.counter.toNat) :
    ∃ index, index.toNat = (book.log message.ratchetKey).next ∧
      SessionState.decrypt suite config message ready random =
        ⟨.error (.refused (.duplicateMessage index message.counter)), ready, random⟩ := by
  have sends : ready.senderChain.isSome = true := by
    rw [holds.senderChain_eq]
    rfl
  exact ⟨_, ChainLog.index_later begins valid.fits,
    SessionState.decrypt_of_spent sends (version_eq.trans holds.version_eq.symm)
    (holds.receiverChain?_eq distinct kept) (done.spent begins valid)⟩

end Ready

end Holds
end DoubleRatchet
