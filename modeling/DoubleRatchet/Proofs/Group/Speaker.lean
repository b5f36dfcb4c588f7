import DoubleRatchet.Proofs.Group.Hearing
import DoubleRatchet.Proofs.Group.Replay
import Mathlib.Data.List.Basic

/-!
# What one party says to a group

A party draws a sender key for a name when it has none, and never again. Of all states that it comes to
have for the name only the one of that key can sign, and that state only moves forward: whatever is
processed and read in between, every message that the party makes takes a later place of its one chain
than all messages before. A party that cannot sign, since other keys came first or its own key had to
make room, makes no message.
-/

namespace DoubleRatchet

namespace Voice

variable {suite : Suite} {config : Config} {voice : Voice} {log : ChainLog} {secret : PrivateKey}
  {word : Word} {plaintext data : Bytes} {final : SenderKeyState} {random rest : Randomness}

/-- The voice of a key that a sender has drawn. -/
def drawn (keyId : UInt32) (seed : Block 32) (signingKey : KeyPair) : Voice :=
  { keyId, start := { iteration := 0, seed }, signingKey := signingKey.publicKey }

/-- The word is the signed message that holds its text, sealed with the key of its place. -/
structure Makes (suite : Suite) (config : Config) (voice : Voice) (secret : PrivateKey)
    (word : Word) : Prop where
  notLast : word.place < 0xffffffff
  made : ∃ (ciphertext : Bytes) (noise : Block 64),
    suite.sealText config (voice.keyAt suite word.place).cipherKey
        (voice.keyAt suite word.place).vector.bytes word.plaintext
        (Group.associatedData voice.keyId (UInt32.ofNat word.place)) = .ok ciphertext ∧
      (let body : SenderKeyMessage.Body :=
        { keyId := voice.keyId, iteration := UInt32.ofNat word.place, ciphertext }
      word.data = (SenderKeyMessage.signed body
        (suite.sign secret (SenderKeyMessage.covered body) noise)).serialized)

/-- A state that signs makes a word at its place and moves past it. -/
theorem makes_of_encryptWith (tracks : voice.Tracks config log)
    (encrypted : Group.encryptWith suite config plaintext (voice.hearing suite log (some secret))
      random = ⟨.ok data, final, rest⟩) :
    log.next < 0xffffffff ∧
      final = voice.hearing suite { log with next := log.next + 1 } (some secret) ∧
      voice.Makes suite config secret { data, plaintext, place := log.next } := by
  obtain ⟨ciphertext, body, _, noise, next, sealed, rfl, isKey, rfl, moved, rfl⟩ :=
    Group.encryptWith_eq_ok encrypted
  cases isKey
  obtain ⟨notLast, after_eq⟩ := hearing_spoken tracks moved
  exact ⟨notLast, after_eq, notLast, ciphertext, noise, sealed, rfl⟩

/-- A word carries the key id of its voice and its place. -/
theorem Makes.parse (makes : voice.Makes suite config secret word)
    (short : word.data.length < 1 <<< 64) :
    ∃ message, SenderKeyMessage.parse word.data = .ok message ∧ message.keyId = voice.keyId ∧
      message.iteration.toNat = word.place := by
  obtain ⟨ciphertext, noise, _, data_eq⟩ := makes.made
  dsimp only at data_eq
  rw [data_eq] at short ⊢
  have readable := Nat.lt_of_le_of_lt (SenderKeyMessage.length_ciphertext_le _ _) short
  have fits : word.place < 0x100000000 := Nat.lt_of_lt_of_le makes.notLast (by decide)
  exact ⟨_, SenderKeyMessage.parse_signed readable _, rfl, UInt32.toNat_ofNat_of_lt' fits⟩

end Voice

/-! ## States that can sign -/

namespace SenderKeyRecord

variable {config : Config} {record : SenderKeyRecord} {old new : SenderKeyState}
  {states : List SenderKeyState} {Holds : SenderKeyState → Prop}

/-- How many states of a record can sign. -/
def signers (record : SenderKeyRecord) : Nat :=
  record.states.countP fun state => state.privateSigningKey.isSome

/-- What holds of every state that can sign. -/
def Signing (Holds : SenderKeyState → Prop) (record : SenderKeyRecord) : Prop :=
  ∀ state ∈ record.states, state.privateSigningKey = none ∨ Holds state

theorem countP_replaceFirst {test : SenderKeyState → Bool}
    (found : states.find? (fun state => state.keyId = new.keyId) = some old)
    (same : test new = test old) : (replaceFirst new states).countP test = states.countP test := by
  induction states with
  | nil => rfl
  | cons first rest ih =>
      by_cases isFirst : first.keyId = new.keyId
      · rw [List.find?_cons_of_pos (by simpa using isFirst)] at found
        cases found
        rw [replaceFirst, if_pos isFirst, List.countP_cons, List.countP_cons, same]
      · rw [List.find?_cons_of_neg (by simpa using isFirst)] at found
        rw [replaceFirst, if_neg isFirst, List.countP_cons, List.countP_cons, ih found]

theorem length_replaceFirst (new : SenderKeyState) (states : List SenderKeyState) :
    (replaceFirst new states).length = states.length := by
  induction states with
  | nil => rfl
  | cons first rest ih =>
      rw [replaceFirst]
      split
      · rfl
      · rw [List.length_cons, List.length_cons, ih]

theorem signers_update (found : record.withId new.keyId = .ok old)
    (same : new.privateSigningKey = old.privateSigningKey) :
    (record.update new).signers = record.signers :=
  countP_replaceFirst (withId_eq_ok.mp found) (congrArg Option.isSome same)

/-- A key that is handed out cannot sign. -/
theorem signers_add_le (id iteration : UInt32) (seed : Block 32) (signingKey : PublicKey) :
    (record.add config id iteration seed signingKey).signers ≤ record.signers := by
  refine Nat.le_trans (List.take_sublist _ _).countP_le ?_
  rw [List.countP_cons]
  exact Nat.le_refl _

theorem Signing.add (signing : record.Signing Holds) (id iteration : UInt32) (seed : Block 32)
    (signingKey : PublicKey) :
    (record.add config id iteration seed signingKey).Signing Holds := by
  intro state member
  rcases List.mem_cons.mp (List.take_subset _ _ member) with rfl | older
  · exact .inl rfl
  · exact signing state older

theorem Signing.update (signing : record.Signing Holds) (found : old ∈ record.states)
    (same : new.privateSigningKey = old.privateSigningKey) (keeps : Holds old → Holds new) :
    (record.update new).Signing Holds := by
  intro state member
  rcases mem_replaceFirst member with rfl | other
  · rcases signing old found with mute | holds
    · exact .inl (same.trans mute)
    · exact .inr (keeps holds)
  · exact signing state other

/-- Where only the newest state can sign, the others are mute. -/
theorem mute_of_signers {older : List SenderKeyState} (states_eq : record.states = new :: older)
    (signs : new.privateSigningKey.isSome = true) (solo : record.signers ≤ 1) :
    ∀ state ∈ older, state.privateSigningKey = none := by
  have others : older.countP (fun state => state.privateSigningKey.isSome) = 0 := by
    rw [signers, states_eq, List.countP_cons, if_pos signs] at solo
    omega
  intro state member
  exact Option.not_isSome_iff_eq_none.mp (List.countP_eq_zero.mp others state member)

theorem signers_le_of_mute {older : List SenderKeyState} (states_eq : record.states = new :: older)
    (mute : ∀ state ∈ older, state.privateSigningKey = none) : record.signers ≤ 1 := by
  have others : older.countP (fun state => state.privateSigningKey.isSome) = 0 := by
    apply List.countP_eq_zero.mpr
    intro state member
    rw [mute state member]
    decide
  rw [signers, states_eq, List.countP_cons, others]
  split
  · exact Nat.le_refl 1
  · exact Nat.zero_le 1

end SenderKeyRecord

namespace Group

/-! ## Operations on one name -/

/-- The name that an operation is about. -/
def Operation.name : Operation → SenderKeyName
  | create name => name
  | process name _ => name
  | encrypt name _ => name
  | decrypt name _ _ => name

variable {suite : Suite} {config : Config} {name : SenderKeyName} {store : Store}
  {operation : Operation} {random : Randomness}

/-- An operation about another name leaves the record of a name alone. -/
theorem senderKey_of_elsewhere (elsewhere : operation.name ≠ name) (store : Store)
    (random : Randomness) :
    (operation.after suite config store random).senderKey name = store.senderKey name := by
  have changes : Changes suite config name (store.senderKey name) operation _ :=
    operation.changes name store random
  generalize (operation.after suite config store random).senderKey name = record at changes ⊢
  cases changes with
  | stays => rfl
  | made | received | sent | read => exact absurd rfl elsewhere

/-- What processing and reading leave of a record: what holds of the states that can sign and outlasts
giving a key still holds, no other state can sign, and the record does not become empty. -/
structure Yields (suite : Suite) (config : Config) (record later : SenderKeyRecord) : Prop where
  signing : ∀ Holds : SenderKeyState → Prop,
    (∀ iteration old key final,
      SenderKeyState.Gives suite config iteration old key final → Holds old → Holds final) →
    record.Signing Holds → later.Signing Holds
  signers : later.signers ≤ record.signers
  begun : record.states ≠ [] → later.states ≠ []

theorem Yields.refl (record : SenderKeyRecord) : Yields suite config record record :=
  ⟨fun _ _ holds => holds, Nat.le_refl _, id⟩

theorem yields_process (positive : 0 < config.maxSenderKeyStates) (message : DistributionMessage)
    (store : Store) (random : Randomness) :
    Yields suite config (store.senderKey name)
      ((process config name message store random).state.senderKey name) := by
  rw [senderKey_process]
  refine ⟨fun _ _ holds => holds.add _ _ _ _, SenderKeyRecord.signers_add_le .., fun _ none => ?_⟩
  rcases List.take_eq_nil_iff.mp none with noRoom | impossible
  · omega
  · cases impossible

theorem yields_decrypt (data : Bytes) (receiver : Receiver) (store : Store) (random : Randomness) :
    Yields suite config (store.senderKey name)
      ((decrypt suite config name data receiver store random).state.senderKey name) := by
  cases result : (decrypt suite config name data receiver store random).result with
  | error failure =>
      rw [atomic_decrypt store random failure result]
      exact .refl _
  | ok plaintext =>
      obtain ⟨message, state, final, _, found, read, _, put⟩ :=
        decrypt_eq_ok.mp (Outcome.eq_of_result result)
      obtain ⟨_, key, gives⟩ := decryptWith_eq_ok read
      have signs := gives.privateSigningKey_eq
      have answers : final.keyId = message.keyId :=
        (congrArg Prod.fst gives.identity_eq).trans (SenderKeyRecord.keyId_of_withId found)
      rw [put, Store.senderKey_putSenderKey]
      have updated := SenderKeyRecord.signers_update (answers ▸ found) signs
      refine ⟨fun _ keeps holds => ?_, Nat.le_of_eq updated, fun begun none => ?_⟩
      · exact holds.update (SenderKeyRecord.mem_of_withId found) signs (keeps _ _ _ _ gives)
      · have length_eq := congrArg List.length none
        rw [SenderKeyRecord.update, SenderKeyRecord.length_replaceFirst] at length_eq
        exact begun (List.eq_nil_of_length_eq_zero length_eq)

/-! ## A party and what it said -/

/-- The store of a party, the keys that it drew for a name, and the texts that it encrypted under the
name with the messages that it made of them, oldest first. -/
structure Speaker where
  store : Store
  drawn : List SenderKeyRecord := []
  said : List (Bytes × Bytes) := []

namespace Speaker

/-- What an operation draws for a name that has no key: the record that it stores. -/
def drawn? (suite : Suite) (name : SenderKeyName) (store : Store) (random : Randomness) :
    Operation → Option SenderKeyRecord
  | .create other =>
      if other = name ∧ (store.senderKey name).isEmpty = true then
        some ((Group.create suite name store random).state.senderKey name)
      else none
  | _ => none

/-- The text that an operation encrypts under a name, with the message that it makes of it. -/
def said? (suite : Suite) (config : Config) (name : SenderKeyName) (store : Store)
    (random : Randomness) : Operation → Option (Bytes × Bytes)
  | .encrypt other plaintext =>
      if other = name then
        match (Group.encrypt suite config name plaintext store random).result with
        | .ok data => some (plaintext, data)
        | .error _ => none
      else none
  | _ => none

def after (suite : Suite) (config : Config) (name : SenderKeyName) (operation : Operation)
    (random : Randomness) (speaker : Speaker) : Speaker :=
  { store := operation.after suite config speaker.store random
    drawn := speaker.drawn ++ (drawn? suite name speaker.store random operation).toList
    said := speaker.said ++ (said? suite config name speaker.store random operation).toList }

/-- What a party can come to that begins without a key for the name. -/
inductive Run (suite : Suite) (config : Config) (name : SenderKeyName) : Speaker → Prop where
  | start {store : Store} (none : store.senderKey name = {}) : Run suite config name { store }
  | step {speaker : Speaker} (run : Run suite config name speaker) (operation : Operation)
      (random : Randomness) : Run suite config name (speaker.after suite config name operation random)

variable {speaker later : Speaker} {keyId : UInt32} {seed : Block 32} {signingKey : KeyPair}
  {words : List Word} {plaintext : Bytes}

/-- All that can happen to a party: its record yields to what others hand out and say, it draws a key
when it has none, or its newest state makes a word. -/
inductive Happens (suite : Suite) (config : Config) (name : SenderKeyName) (speaker later : Speaker) :
    Prop where
  | quiet (drawn_eq : later.drawn = speaker.drawn) (said_eq : later.said = speaker.said)
      (yields : Yields suite config (speaker.store.senderKey name) (later.store.senderKey name))
  | drew {keyId : UInt32} {seed : Block 32} {signingKey : KeyPair}
      (empty : (speaker.store.senderKey name).states = [])
      (drawn_eq : later.drawn = speaker.drawn ++ [.own keyId 0 seed signingKey])
      (said_eq : later.said = speaker.said)
      (record_eq : later.store.senderKey name = .own keyId 0 seed signingKey)
  | spoke {plaintext data : Bytes} {state final : SenderKeyState} {older : List SenderKeyState}
      {random rest : Randomness}
      (states_eq : (speaker.store.senderKey name).states = state :: older)
      (encrypted : encryptWith suite config plaintext state random = ⟨.ok data, final, rest⟩)
      (drawn_eq : later.drawn = speaker.drawn)
      (said_eq : later.said = speaker.said ++ [(plaintext, data)])
      (record_eq : later.store.senderKey name = { states := final :: older })

theorem happens_create (speaker : Speaker) (random : Randomness) :
    Happens suite config name speaker (speaker.after suite config name (.create name) random) := by
  by_cases empty : (speaker.store.senderKey name).isEmpty = true
  · obtain ⟨keyId, seed, signingKey, _, own⟩ := own_of_generateSenderKey suite random
    have made : (create suite name speaker.store random).state.senderKey name =
        .own keyId 0 seed signingKey := by
      rw [create_eq, state_createFrom, if_pos empty, own, Store.senderKey_putSenderKey]
    have draws : drawn? suite name speaker.store random (.create name) =
        some (.own keyId 0 seed signingKey) := by
      rw [drawn?, if_pos ⟨rfl, empty⟩, made]
    refine .drew (List.isEmpty_iff.mp empty) ?_ (List.append_nil _) made
    rw [after, draws]
    rfl
  · have none : drawn? suite name speaker.store random (.create name) = none := by
      rw [drawn?, if_neg fun both => empty both.2]
    refine .quiet ?_ (List.append_nil _) ?_
    · rw [after, none]
      exact List.append_nil _
    · change Yields _ _ _ ((create suite name speaker.store random).state.senderKey name)
      rw [create_eq, state_createFrom, if_neg empty]
      exact .refl _

theorem happens_encrypt (speaker : Speaker) (plaintext : Bytes) (random : Randomness) :
    Happens suite config name speaker
      (speaker.after suite config name (.encrypt name plaintext) random) := by
  unfold after said? Operation.after
  simp only [if_true]
  cases states : (speaker.store.senderKey name).states with
  | nil =>
      rw [encrypt_of_none states]
      exact .quiet (List.append_nil _) (List.append_nil _) (.refl _)
  | cons state older =>
      rw [encrypt_of_newest states]
      rcases sent : encryptWith suite config plaintext state random with ⟨failure | data, final, rest⟩
      · exact .quiet (List.append_nil _) (List.append_nil _) (.refl _)
      · exact .spoke states sent (List.append_nil _) rfl (Store.senderKey_putSenderKey ..)

theorem happens (positive : 0 < config.maxSenderKeyStates) (speaker : Speaker)
    (operation : Operation) (random : Randomness) :
    Happens suite config name speaker (speaker.after suite config name operation random) := by
  by_cases here : operation.name = name
  · subst here
    cases operation with
    | create => exact happens_create speaker random
    | encrypt _ plaintext => exact happens_encrypt speaker plaintext random
    | process _ message =>
        exact .quiet (List.append_nil _) (List.append_nil _)
          (yields_process positive message speaker.store random)
    | decrypt _ data receiver =>
        exact .quiet (List.append_nil _) (List.append_nil _)
          (yields_decrypt data receiver speaker.store random)
  · refine .quiet ?_ ?_ ?_
    · cases operation with
      | create other =>
          rw [after, drawn?, if_neg fun both => here both.1]
          exact List.append_nil _
      | process | encrypt | decrypt => exact List.append_nil _
    · cases operation with
      | encrypt other plaintext =>
          have elsewhere : ¬other = name := here
          rw [after, said?, if_neg elsewhere]
          exact List.append_nil _
      | create | process | decrypt => exact List.append_nil _
    · change Yields _ _ _ ((operation.after suite config speaker.store random).senderKey name)
      rw [senderKey_of_elsewhere here]
      exact .refl _

/-! ## What holds in every run -/

/-- The party has drawn no key, and cannot sign. -/
structure Mute (name : SenderKeyName) (speaker : Speaker) : Prop where
  drawn_eq : speaker.drawn = []
  said_eq : speaker.said = []
  signing : (speaker.store.senderKey name).Signing fun _ => False

/-- The state stands behind all words that were said. -/
def StandsAfter (suite : Suite) (config : Config) (voice : Voice) (secret : PrivateKey)
    (words : List Word) (state : SenderKeyState) : Prop :=
  ∃ log, state = voice.hearing suite log (some secret) ∧ voice.Tracks config log ∧
    ∀ word ∈ words, word.place < log.next

/-- The party has drawn one key and said some words with it. If a state of its record can still sign, it
stands behind these words, and it is the only one. -/
structure Speaks (suite : Suite) (config : Config) (name : SenderKeyName) (keyId : UInt32)
    (seed : Block 32) (signingKey : KeyPair) (words : List Word) (speaker : Speaker) : Prop where
  drawn_eq : speaker.drawn = [.own keyId 0 seed signingKey]
  said_eq : speaker.said = words.map fun word => (word.plaintext, word.data)
  increasing : words.Pairwise fun earlier later => earlier.place < later.place
  made : ∀ word ∈ words,
    (Voice.drawn keyId seed signingKey).Makes suite config signingKey.privateKey word
  begun : (speaker.store.senderKey name).states ≠ []
  solo : (speaker.store.senderKey name).signers ≤ 1
  signing : (speaker.store.senderKey name).Signing
    (StandsAfter suite config (.drawn keyId seed signingKey) signingKey.privateKey words)

theorem StandsAfter.gave {voice : Voice} {secret : PrivateKey} {old final : SenderKeyState}
    {iteration : UInt32} {key : SenderMessageKey}
    (stands : StandsAfter suite config voice secret words old)
    (gives : SenderKeyState.Gives suite config iteration old key final) :
    StandsAfter suite config voice secret words final := by
  obtain ⟨log, rfl, tracks, behind⟩ := stands
  obtain ⟨fits, after_eq⟩ := Voice.hearing_of_gives tracks gives
  exact ⟨_, after_eq, tracks.read fits, fun word member =>
    Nat.lt_of_lt_of_le (behind word member) ChainLog.next_le_read⟩

/-- The next word takes a later place, and the state stands behind it, too. -/
theorem StandsAfter.spoke {voice : Voice} {secret : PrivateKey} {state final : SenderKeyState}
    {data : Bytes} {rest : Randomness}
    (stands : StandsAfter suite config voice secret words state)
    (encrypted : encryptWith suite config plaintext state random = ⟨.ok data, final, rest⟩) :
    ∃ next : Word, (next.plaintext, next.data) = (plaintext, data) ∧
      (∀ word ∈ words, word.place < next.place) ∧ voice.Makes suite config secret next ∧
      StandsAfter suite config voice secret (words ++ [next]) final := by
  obtain ⟨log, rfl, tracks, behind⟩ := stands
  obtain ⟨notLast, rfl, makes⟩ := Voice.makes_of_encryptWith tracks encrypted
  refine ⟨_, rfl, behind, makes, _, rfl, tracks.spoken notLast, fun word member => ?_⟩
  rcases List.mem_append.mp member with before | new
  · exact Nat.lt_succ_of_lt (behind word before)
  · rw [List.mem_singleton.mp new]
    exact Nat.lt_succ_self _

theorem isSome_of_encryptWith {state final : SenderKeyState} {data : Bytes} {rest : Randomness}
    (encrypted : encryptWith suite config plaintext state random = ⟨.ok data, final, rest⟩) :
    state.privateSigningKey.isSome = true := by
  obtain ⟨_, _, key, _, _, _, _, signs, _⟩ := encryptWith_eq_ok encrypted
  unfold SenderKeyState.requirePrivateKey at signs
  cases held : state.privateSigningKey with
  | none =>
      rw [held] at signs
      cases signs
  | some _ => rfl

theorem mem_of_states_eq {record : SenderKeyRecord} {state : SenderKeyState}
    {older : List SenderKeyState} (states_eq : record.states = state :: older) :
    state ∈ record.states :=
  states_eq ▸ List.mem_cons_self

/-- A party without a key of its own makes no word, until it draws a key. -/
theorem Mute.step (mute : Mute name speaker) (happens : Happens suite config name speaker later) :
    Mute name later ∨
      ∃ keyId seed signingKey, Speaks suite config name keyId seed signingKey [] later := by
  cases happens with
  | quiet drawn_eq said_eq yields =>
      exact .inl
        { drawn_eq := drawn_eq.trans mute.drawn_eq
          said_eq := said_eq.trans mute.said_eq
          signing := yields.signing _ (fun _ _ _ _ _ impossible => impossible) mute.signing }
  | @drew keyId seed signingKey _ drawn_eq said_eq record_eq =>
      refine .inr ⟨keyId, seed, signingKey, ?_⟩
      have tracks : (Voice.drawn keyId seed signingKey).Tracks config
          { key := signingKey.publicKey, next := 0 } :=
        Voice.tracks_from config _ (Nat.le_refl 0) (Nat.two_pow_pos 32)
      exact
        { drawn_eq := by rw [drawn_eq, mute.drawn_eq, List.nil_append]
          said_eq := said_eq.trans mute.said_eq
          increasing := .nil
          made := fun _ impossible => nomatch impossible
          begun := by
            rw [record_eq]
            exact List.cons_ne_nil _ _
          solo := by
            rw [record_eq]
            exact Nat.le_refl 1
          signing := by
            rw [record_eq]
            intro state member
            rw [List.mem_singleton.mp member]
            exact .inr ⟨_, rfl, tracks, fun _ impossible => nomatch impossible⟩ }
  | spoke states_eq encrypted =>
      have signs := isSome_of_encryptWith encrypted
      rcases mute.signing _ (mem_of_states_eq states_eq) with unsigned | impossible
      · rw [unsigned] at signs
        cases signs
      · exact impossible.elim

/-- A party with a key of its own draws no other one, and its next word takes a later place. -/
theorem Speaks.step (speaks : Speaks suite config name keyId seed signingKey words speaker)
    (happens : Happens suite config name speaker later) :
    ∃ more, Speaks suite config name keyId seed signingKey (words ++ more) later := by
  cases happens with
  | quiet drawn_eq said_eq yields =>
      refine ⟨[], ?_⟩
      rw [List.append_nil]
      exact
        { speaks with
          drawn_eq := drawn_eq.trans speaks.drawn_eq
          said_eq := said_eq.trans speaks.said_eq
          begun := yields.begun speaks.begun
          solo := Nat.le_trans yields.signers speaks.solo
          signing := yields.signing _ (fun _ _ _ _ gives stands => stands.gave gives)
            speaks.signing }
  | drew empty => exact absurd empty speaks.begun
  | @spoke plaintext data state final older _ _ states_eq encrypted drawn_eq said_eq record_eq =>
      have signs := isSome_of_encryptWith encrypted
      have others := SenderKeyRecord.mute_of_signers states_eq signs speaks.solo
      rcases speaks.signing _ (mem_of_states_eq states_eq) with unsigned | stands
      · rw [unsigned] at signs
        cases signs
      obtain ⟨next, next_eq, behind, makes, standsNow⟩ := stands.spoke encrypted
      have states_after : (later.store.senderKey name).states = final :: older := by rw [record_eq]
      refine ⟨[next], ?_⟩
      constructor
      case drawn_eq => exact drawn_eq.trans speaks.drawn_eq
      case said_eq => rw [said_eq, speaks.said_eq, List.map_append, List.map_singleton, next_eq]
      case increasing =>
        refine List.pairwise_append.mpr ⟨speaks.increasing, List.pairwise_singleton _ _, ?_⟩
        intro word member new isNew
        rw [List.mem_singleton.mp isNew]
        exact behind word member
      case made =>
        intro word member
        rcases List.mem_append.mp member with before | new
        · exact speaks.made word before
        · exact List.mem_singleton.mp new ▸ makes
      case begun =>
        rw [states_after]
        exact List.cons_ne_nil _ _
      case solo => exact SenderKeyRecord.signers_le_of_mute states_after others
      case signing =>
        intro state member
        rw [states_after] at member
        rcases List.mem_cons.mp member with rfl | old
        · exact .inr standsNow
        · exact .inl (others state old)

theorem Run.settled (positive : 0 < config.maxSenderKeyStates) (run : Run suite config name speaker) :
    Mute name speaker ∨
      ∃ keyId seed signingKey words, Speaks suite config name keyId seed signingKey words speaker := by
  induction run with
  | @start store none =>
      refine .inl ⟨rfl, rfl, fun state member => ?_⟩
      rw [none] at member
      cases member
  | @step speaker _ operation random ih =>
      have happens : Happens suite config name speaker _ := happens positive speaker operation random
      rcases ih with mute | ⟨keyId, seed, signingKey, words, speaks⟩
      · rcases mute.step happens with still | ⟨keyId, seed, signingKey, speaks⟩
        · exact .inl still
        · exact .inr ⟨keyId, seed, signingKey, [], speaks⟩
      · obtain ⟨more, speaks⟩ := speaks.step happens
        exact .inr ⟨keyId, seed, signingKey, words ++ more, speaks⟩

/-! ## The main statement -/

/-- A party draws at most one key for a name. All messages that it makes under the name carry the id of
that key and places of its chain, each later than the one before, and each text is sealed with the key of
its place. A text that is not encrypted takes no place: the store stays as it is. -/
theorem sending_keys_are_never_reused (positive : 0 < config.maxSenderKeyStates)
    (run : Run suite config name speaker) :
    ((speaker.drawn = [] ∧ speaker.said = []) ∨
      ∃ (keyId : UInt32) (seed : Block 32) (signingKey : KeyPair) (words : List Word),
        speaker.drawn = [.own keyId 0 seed signingKey] ∧
        speaker.said = words.map (fun word => (word.plaintext, word.data)) ∧
        (words.Pairwise fun earlier later => earlier.place < later.place) ∧
        ∀ word ∈ words,
          (Voice.drawn keyId seed signingKey).Makes suite config signingKey.privateKey word ∧
          (word.data.length < 1 <<< 64 → ∃ message, SenderKeyMessage.parse word.data = .ok message ∧
            message.keyId = keyId ∧ message.iteration.toNat = word.place)) ∧
    ∀ plaintext random failure,
      (encrypt suite config name plaintext speaker.store random).result = .error failure →
        (encrypt suite config name plaintext speaker.store random).state = speaker.store := by
  refine ⟨?_, fun plaintext random failure => atomic_encrypt speaker.store random failure⟩
  rcases run.settled positive with mute | ⟨keyId, seed, signingKey, words, speaks⟩
  · exact .inl ⟨mute.drawn_eq, mute.said_eq⟩
  · refine .inr ⟨keyId, seed, signingKey, words, speaks.drawn_eq, speaks.said_eq, speaks.increasing,
      fun word member => ?_⟩
    have makes := speaks.made word member
    exact ⟨makes, makes.parse⟩

/-! ### A soloist -/

def solo : SenderKeyName := ⟨"solo", .caller⟩

/-- The key of somebody else. -/
def strangersKey : DistributionMessage :=
  .handing 9 { iteration := 0, seed := Suite.summed 32 [7] } (KeyPair.additive 3).publicKey

/-- The soloist draws its key, says something, hands its key out, says something else, and takes over a
key of somebody else. -/
def performance : List (Operation × Randomness) :=
  [(.create solo, .repeated 8), (.encrypt solo [1, 2, 3], .repeated 0), (.create solo, .repeated 0),
    (.encrypt solo [4, 5], .repeated 0), (.process solo strangersKey, .repeated 0)]

def soloist : Speaker :=
  performance.foldl (fun speaker turn => speaker.after Suite.additive {} solo turn.1 turn.2)
    { store := { identity := KeyPair.additive 4, registrationId := 2 } }

theorem run_soloist : Run Suite.additive {} solo soloist :=
  (((((Run.start rfl).step _ _).step _ _).step _ _).step _ _).step _ _

theorem soloist_counts_on :
    soloist.said.map Prod.fst = [[1, 2, 3], [4, 5]] ∧
      (∃ keyId first second,
        (soloist.said.map fun sent => (SenderKeyMessage.parse sent.2).toOption.map fun message =>
          (message.keyId, message.iteration.toNat)) =
            [some (keyId, first), some (keyId, second)] ∧ first < second) ∧
      (encrypt Suite.additive {} solo [6] soloist.store (.repeated 0)).result.isOk = false ∧
      (encrypt Suite.additive {} solo [6] soloist.store (.repeated 0)).state = soloist.store := by
  obtain ⟨texts, short, fails⟩ : soloist.said.map Prod.fst = [[1, 2, 3], [4, 5]] ∧
      (∀ sent ∈ soloist.said, sent.2.length < 1 <<< 64) ∧
      (encrypt Suite.additive {} solo [6] soloist.store (.repeated 0)).result.isOk = false := by
    decide +kernel
  obtain ⟨settled, keeps⟩ := sending_keys_are_never_reused (by decide) run_soloist
  obtain ⟨failure, failed⟩ := Outcome.eq_error_of_isOk fails
  refine ⟨texts, ?_, fails, keeps _ _ failure (congrArg Outcome.result failed)⟩
  rcases settled with ⟨_, silent⟩ | ⟨keyId, _, _, words, _, said_eq, increasing, made⟩
  · rw [silent] at texts
    cases texts
  rw [said_eq] at texts short ⊢
  obtain ⟨first, second, rfl⟩ : ∃ first second, words = [first, second] := by
    have count := congrArg List.length texts
    rw [List.length_map, List.length_map] at count
    exact List.length_eq_two.mp count
  obtain ⟨_, isRead, firstKey, firstPlace⟩ :=
    (made first List.mem_cons_self).2 (short _ List.mem_cons_self)
  obtain ⟨_, isReadToo, secondKey, secondPlace⟩ :=
    (made second (List.mem_cons_of_mem _ List.mem_cons_self)).2
      (short _ (List.mem_cons_of_mem _ List.mem_cons_self))
  have later : first.place < second.place := List.rel_of_pairwise_cons increasing List.mem_cons_self
  refine ⟨keyId, first.place, second.place, ?_, later⟩
  simp [isRead, isReadToo, firstKey, firstPlace, secondKey, secondPlace, Except.toOption]

end Speaker
end Group

end DoubleRatchet
