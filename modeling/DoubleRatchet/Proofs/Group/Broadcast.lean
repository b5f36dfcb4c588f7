import DoubleRatchet.Proofs.Group.Hearing
import DoubleRatchet.Store.Lock
import Mathlib.Data.List.Nodup
import Mathlib.Logic.Function.Basic

/-!
# A sender and its group

A sender makes its key when it is first asked for it, hands it out as often as it likes, and speaks to
the whole group. Each member takes one invitation, from whatever place the chain had reached, and hears
words in any order, late, never or again and again. From the place of its invitation on it reads every
word once; what it has read, and what was spoken before, is a duplicate.
-/

namespace DoubleRatchet

/-! ## What a member has the keys of -/

namespace DistributionMessage

/-- The log of a member that took the invitation and heard some words, the latest of them first. -/
def log (config : Config) (invitation : DistributionMessage) : List Word → ChainLog
  | [] => { key := invitation.signingKey, next := invitation.iteration.toNat }
  | word :: earlier => (invitation.log config earlier).read config word.place

variable {config : Config} {invitation : DistributionMessage} {heard : List Word} {place : Nat}

theorem valid_log (early : ∀ word ∈ heard, word.place < 0xffffffff) :
    (invitation.log config heard).Valid config := by
  induction heard with
  | nil => exact ChainLog.valid_from config _ invitation.iteration.toNat_lt
  | cons word earlier ih =>
      have placed := early word List.mem_cons_self
      exact (ih fun other member => early other (List.mem_cons_of_mem _ member)).read (by omega)

theorem done_of_before (before : place < invitation.iteration.toNat) (heard : List Word) :
    (invitation.log config heard).Done place := by
  induction heard with
  | nil => exact ⟨before, List.not_mem_nil⟩
  | cons word earlier ih => exact ih.read

theorem done_of_heard (early : ∀ word ∈ heard, word.place < 0xffffffff) {word : Word}
    (isHeard : word ∈ heard) : (invitation.log config heard).Done word.place := by
  induction heard with
  | nil => cases isHeard
  | cons latest earlier ih =>
      have earlierPlaced := fun other member => early other (List.mem_cons_of_mem latest member)
      rcases List.mem_cons.mp isHeard with rfl | before
      · exact ChainLog.done_read (valid_log earlierPlaced)
      · exact (ih earlierPlaced before).read

/-- What is done was spoken before the invitation, was heard, or was given up. -/
theorem before_or_heard_or_evicted (done : (invitation.log config heard).Done place) :
    place < invitation.iteration.toNat ∨ (∃ word ∈ heard, word.place = place) ∨
      place ∈ (invitation.log config heard).evicted := by
  induction heard with
  | nil => exact .inl done.1
  | cons latest earlier ih =>
      rcases ChainLog.done_of_read done with rfl | before | evicted
      · exact .inr (.inl ⟨latest, List.mem_cons_self, rfl⟩)
      · rcases ih before with early | ⟨word, isHeard, same⟩ | evicted
        · exact .inl early
        · exact .inr (.inl ⟨word, List.mem_cons_of_mem _ isHeard, same⟩)
        · exact .inr (.inr (ChainLog.evicted_read evicted))
      · exact .inr (.inr evicted)

theorem grants_of_unheard (since : invitation.iteration.toNat ≤ place)
    (unheard : ∀ word ∈ heard, word.place ≠ place)
    (near : place ≤ (invitation.log config heard).next + config.maxForwardJumps.toNat)
    (kept : place ∉ (invitation.log config heard).evicted) :
    (invitation.log config heard).Grants config place := by
  apply Classical.byContradiction
  intro notGrants
  have notDone : ¬(invitation.log config heard).Done place := by
    intro done
    rcases before_or_heard_or_evicted done with before | ⟨word, isHeard, same⟩ | evicted
    · omega
    · exact unheard word isHeard same
    · exact kept evicted
  have far := ChainLog.far_of_not_grants notGrants notDone
  omega

end DistributionMessage

/-! ## Runs -/

/-- A member, with the invitation that it took and the words that it heard, the latest first. -/
structure Member where
  lock : Locked Store
  invitation : Option DistributionMessage := none
  heard : List Word := []

namespace Member

/-- The member takes over the sender key of an invitation. -/
def take (config : Config) (name : SenderKeyName) (invitation : DistributionMessage)
    (random : Randomness) (member : Member) : Member :=
  let outcome := Locked.run (Group.process config name invitation) member.lock random
  { member with
    lock := outcome.state
    invitation := match outcome.result with
      | .ok _ => some invitation
      | .error _ => member.invitation }

/-- The member decrypts a word. -/
def decrypted (suite : Suite) (config : Config) (name : SenderKeyName) (word : Word)
    (random : Randomness) (member : Member) : Outcome (Locked Store) Bytes :=
  Locked.run (Group.decrypt suite config name word.data Receiver.accept) member.lock random

def hear (suite : Suite) (config : Config) (name : SenderKeyName) (word : Word)
    (random : Randomness) (member : Member) : Member :=
  let outcome := member.decrypted suite config name word random
  { member with
    lock := outcome.state
    heard := match outcome.result with
      | .ok _ => word :: member.heard
      | .error _ => member.heard }

end Member

/-- A sender and members that have no sender key of a name. -/
structure Circle (ι : Type) where
  name : SenderKeyName
  sender : Store
  members : ι → Store
  sender_empty : sender.senderKey name = {}
  members_empty : ∀ member, (members member).senderKey name = {}

structure Broadcast (ι : Type) where
  sender : Locked Store
  members : ι → Member
  /-- The invitations that the sender made. -/
  made : List DistributionMessage := []
  sent : List Word := []

namespace Broadcast

variable {ι : Type} (suite : Suite) (config : Config) (circle : Circle ι)

def begun : Broadcast ι :=
  { sender := { content := circle.sender }
    members := fun member => { lock := { content := circle.members member } } }

def create (random : Randomness) (broadcast : Broadcast ι) : Broadcast ι :=
  let outcome := Locked.run (Group.create suite circle.name) broadcast.sender random
  { broadcast with
    sender := outcome.state
    made := match outcome.result with
      | .ok invitation => broadcast.made ++ [invitation]
      | .error _ => broadcast.made }

def send (plaintext : Bytes) (random : Randomness) (broadcast : Broadcast ι) : Broadcast ι :=
  let outcome := Locked.run (Group.encrypt suite config circle.name plaintext) broadcast.sender
    random
  { broadcast with
    sender := outcome.state
    sent := match outcome.result with
      | .ok data => broadcast.sent ++ [{ data, plaintext, place := broadcast.sent.length }]
      | .error _ => broadcast.sent }

section Members

variable [DecidableEq ι]

def join (member : ι) (invitation : DistributionMessage) (random : Randomness)
    (broadcast : Broadcast ι) : Broadcast ι :=
  { broadcast with
    members := Function.update broadcast.members member
      ((broadcast.members member).take config circle.name invitation random) }

def deliver (member : ι) (word : Word) (random : Randomness) (broadcast : Broadcast ι) :
    Broadcast ι :=
  { broadcast with
    members := Function.update broadcast.members member
      ((broadcast.members member).hear suite config circle.name word random) }

/-- What can happen. An invitation goes over the network as bytes, and each member takes one. -/
inductive Run : Broadcast ι → Prop where
  | start : Run (begun circle)
  | create {broadcast : Broadcast ι} (run : Run broadcast) (random : Randomness) :
      Run (broadcast.create suite circle random)
  | send {broadcast : Broadcast ι} (run : Run broadcast) (plaintext : Bytes)
      (random : Randomness) : Run (broadcast.send suite config circle plaintext random)
  | join {broadcast : Broadcast ι} (run : Run broadcast) (member : ι)
      {made invitation : DistributionMessage} (isMade : made ∈ broadcast.made)
      (received : DistributionMessage.parse made.serialized = .ok invitation)
      (first : (broadcast.members member).invitation = none) (random : Randomness) :
      Run (broadcast.join config circle member invitation random)
  | deliver {broadcast : Broadcast ι} (run : Run broadcast) (member : ι) (word : Word)
      (isSent : word ∈ broadcast.sent) (random : Randomness) :
      Run (broadcast.deliver suite config circle member word random)

end Members

/-! ## What holds in every run -/

variable {suite config circle} {broadcast : Broadcast ι} {voice : Voice} {secret : PrivateKey}
  {random : Randomness}

/-- The sender has no key yet, and nobody could hear anything. -/
structure Silent (circle : Circle ι) (broadcast : Broadcast ι) : Prop where
  sender_empty : broadcast.sender.content.senderKey circle.name = {}
  made_eq : broadcast.made = []
  sent_eq : broadcast.sent = []
  members_eq : ∀ member,
    broadcast.members member = { lock := { content := circle.members member } }

/-- A member has no key, or has the keys of the voice that its log says. -/
structure Listens (suite : Suite) (config : Config) (name : SenderKeyName) (voice : Voice)
    (sent : List Word) (member : Member) : Prop where
  free : member.lock.poisoned = false
  heard_sent : ∀ word ∈ member.heard, word ∈ sent
  outside : member.invitation = none →
    member.lock.content.senderKey name = {} ∧ member.heard = []
  inside : ∀ invitation, member.invitation = some invitation →
    (∃ place, place < 0x100000000 ∧ invitation = voice.invitation suite place) ∧
      member.lock.content.senderKey name =
        { states := [voice.hearing suite (invitation.log config member.heard) none] }

theorem Listens.mono {name : SenderKeyName} {sent more : List Word} {member : Member}
    (listens : Listens suite config name voice sent member) (grown : ∀ word ∈ sent, word ∈ more) :
    Listens suite config name voice more member :=
  { listens with heard_sent := fun word isHeard => grown word (listens.heard_sent word isHeard) }

/-- The sender speaks with the voice, and its members listen. -/
structure Follows (suite : Suite) (config : Config) (circle : Circle ι) (voice : Voice)
    (secret : PrivateKey) (broadcast : Broadcast ι) : Prop where
  begins : voice.first = 0
  signs : voice.signingKey = suite.publicKey secret
  sender_eq : broadcast.sender.content.senderKey circle.name =
    { states := [voice.speaking suite broadcast.sent.length secret] }
  fits : broadcast.sent.length < 0x100000000
  made : ∀ made ∈ broadcast.made, ∃ place, place < 0x100000000 ∧
    made = voice.invitation suite place
  places : broadcast.sent.map Word.place = List.range broadcast.sent.length
  uttered : ∀ word ∈ broadcast.sent, ∃ message, voice.Utters suite config word message
  listens : ∀ member,
    Listens suite config circle.name voice broadcast.sent (broadcast.members member)

/-! ### The sender -/

theorem create_of_poisoned (poisoned : broadcast.sender.poisoned = true) :
    broadcast.create suite circle random = broadcast := by
  unfold create
  rw [Locked.run_of_poisoned poisoned]

theorem create_of_free (free : broadcast.sender.poisoned = false) {invitation : DistributionMessage}
    {store : Store} {rest : Randomness}
    (created : Group.create suite circle.name broadcast.sender.content random =
      ⟨.ok invitation, store, rest⟩) :
    broadcast.create suite circle random =
      { broadcast with
        sender := { content := store }
        made := broadcast.made ++ [invitation] } := by
  unfold create
  rw [Locked.run_of_free free, created]
  rfl

theorem Silent.listens (silent : Silent circle broadcast) (voice : Voice) (sent : List Word)
    (member : ι) :
    Listens suite config circle.name voice sent (broadcast.members member) := by
  rw [silent.members_eq member]
  exact
    { free := rfl
      heard_sent := fun _ impossible => nomatch impossible
      outside := fun _ => ⟨circle.members_empty member, rfl⟩
      inside := fun _ impossible => nomatch impossible }

/-- The first time, the sender draws its voice. -/
theorem Silent.create (silent : Silent circle broadcast) (random : Randomness) :
    Silent circle (broadcast.create suite circle random) ∨
      ∃ voice secret, Follows suite config circle voice secret (broadcast.create suite circle random) := by
  cases poisoned : broadcast.sender.poisoned with
  | true =>
      rw [create_of_poisoned poisoned]
      exact .inl silent
  | false =>
      have empty : (broadcast.sender.content.senderKey circle.name).isEmpty = true := by
        rw [silent.sender_empty]
        rfl
      obtain ⟨keyId, seed, signing, signs, own⟩ := Group.own_of_generateSenderKey suite random
      let voice : Voice :=
        { keyId, start := { iteration := 0, seed }, signingKey := signing.publicKey }
      have newest : (Group.generateSenderKey suite random).1.newest =
          .ok (voice.speaking suite 0 signing.privateKey) := by
        rw [own]
        rfl
      have created := Group.createFrom_of_empty empty newest
      rw [← Group.create_eq, own] at created
      rw [create_of_free poisoned created, silent.made_eq]
      refine .inr ⟨voice, signing.privateKey, ?_⟩
      exact
        { begins := rfl
          signs := signs
          sender_eq := by
            rw [silent.sent_eq]
            exact Store.senderKey_putSenderKey ..
          fits := by
            rw [silent.sent_eq]
            exact Nat.two_pow_pos 32
          made := by
            intro made isMade
            exact ⟨0, Nat.two_pow_pos 32, List.mem_singleton.mp isMade⟩
          places := by rw [silent.sent_eq]; rfl
          uttered := by
            rw [silent.sent_eq]
            exact fun _ impossible => nomatch impossible
          listens := silent.listens voice broadcast.sent }

theorem Follows.create (follows : Follows suite config circle voice secret broadcast)
    (random : Randomness) :
    Follows suite config circle voice secret (broadcast.create suite circle random) := by
  cases poisoned : broadcast.sender.poisoned with
  | true =>
      rw [create_of_poisoned poisoned]
      exact follows
  | false =>
      have newest : (broadcast.sender.content.senderKey circle.name).newest =
          .ok (voice.speaking suite broadcast.sent.length secret) := by
        rw [follows.sender_eq]
        rfl
      have created := Group.createFrom_of_newest (Group.generateSenderKey suite) newest random
      rw [← Group.create_eq] at created
      rw [create_of_free poisoned created]
      refine { follows with made := ?_ }
      intro made isMade
      rcases List.mem_append.mp isMade with before | new
      · exact follows.made made before
      · exact ⟨broadcast.sent.length, follows.fits, List.mem_singleton.mp new⟩

theorem send_of_failed {plaintext : Bytes} {failure : Failure} {after : Locked Store}
    {rest : Randomness}
    (failed : Locked.run (Group.encrypt suite config circle.name plaintext) broadcast.sender
      random = ⟨.error failure, after, rest⟩) :
    broadcast.send suite config circle plaintext random = { broadcast with sender := after } := by
  unfold send
  rw [failed]

theorem send_of_ok {plaintext data : Bytes} {after : Locked Store} {rest : Randomness}
    (succeeded : Locked.run (Group.encrypt suite config circle.name plaintext) broadcast.sender
      random = ⟨.ok data, after, rest⟩) :
    broadcast.send suite config circle plaintext random =
      { broadcast with
        sender := after
        sent := broadcast.sent ++ [{ data, plaintext, place := broadcast.sent.length }] } := by
  unfold send
  rw [succeeded]

theorem sent_subset_send (plaintext : Bytes) (random : Randomness) :
    ∀ word ∈ broadcast.sent,
      word ∈ (broadcast.send suite config circle plaintext random).sent := by
  intro word isSent
  rcases outcome : Locked.run (Group.encrypt suite config circle.name plaintext) broadcast.sender
    random with ⟨failure | data, after, rest⟩
  · rw [send_of_failed outcome]
    exact isSent
  · rw [send_of_ok outcome]
    exact List.mem_append_left _ isSent

/-- Nobody speaks without a key. -/
theorem Silent.send (silent : Silent circle broadcast) (plaintext : Bytes) (random : Randomness) :
    Silent circle (broadcast.send suite config circle plaintext random) := by
  have states : (broadcast.sender.content.senderKey circle.name).states = [] := by
    rw [silent.sender_empty]
  rcases outcome : Locked.run (Group.encrypt suite config circle.name plaintext) broadcast.sender
    random with ⟨failure | data, after, rest⟩
  · rw [send_of_failed outcome]
    have unchanged := Locked.content_of_failed outcome Group.atomic_encrypt
    refine { silent with sender_empty := ?_ }
    change after.content.senderKey circle.name = {}
    rw [unchanged]
    exact silent.sender_empty
  · obtain ⟨_, _, encrypted⟩ := Locked.run_eq_ok outcome
    rw [Group.encrypt_of_none states] at encrypted
    cases encrypted

theorem Follows.send (opens : suite.OpensSealed) (accepts : suite.AcceptsSigned)
    (follows : Follows suite config circle voice secret broadcast) (plaintext : Bytes)
    (random : Randomness)
    (short : ∀ word ∈ (broadcast.send suite config circle plaintext random).sent,
      word.data.length < 1 <<< 64) :
    Follows suite config circle voice secret (broadcast.send suite config circle plaintext random) := by
  rcases outcome : Locked.run (Group.encrypt suite config circle.name plaintext) broadcast.sender
    random with ⟨failure | data, after, rest⟩
  · rw [send_of_failed outcome]
    have unchanged := Locked.content_of_failed outcome Group.atomic_encrypt
    refine { follows with sender_eq := ?_ }
    change after.content.senderKey circle.name = _
    rw [unchanged]
    exact follows.sender_eq
  · rw [send_of_ok outcome] at short ⊢
    obtain ⟨_, _, encrypted⟩ := Locked.run_eq_ok outcome
    have states : (broadcast.sender.content.senderKey circle.name).states =
        [voice.speaking suite broadcast.sent.length secret] := by
      rw [follows.sender_eq]
    rw [Group.encrypt_of_newest states] at encrypted
    rcases made : Group.encryptWith suite config plaintext
      (voice.speaking suite broadcast.sent.length secret) random with ⟨failure | message, final, drawn⟩
    · rw [made] at encrypted
      cases encrypted
    · simp only [made, Outcome.mk.injEq, Except.ok.injEq] at encrypted
      obtain ⟨rfl, content_eq, _⟩ := encrypted
      have since : voice.first ≤ broadcast.sent.length := follows.begins ▸ Nat.zero_le _
      obtain ⟨rfl, message, utters⟩ := Voice.utters_of_encryptWith opens accepts follows.signs
        since follows.fits (short _ (List.mem_append_right _ List.mem_cons_self)) made
      have notLast : broadcast.sent.length < 0xffffffff := utters.notLast
      refine
        { begins := follows.begins
          signs := follows.signs
          sender_eq := ?_
          fits := ?_
          made := follows.made
          places := ?_
          uttered := ?_
          listens := fun member => (follows.listens member).mono fun _ => List.mem_append_left _ }
      · simp only [List.length_append, List.length_singleton, ← content_eq,
          Store.senderKey_putSenderKey]
      · simp only [List.length_append, List.length_singleton]
        omega
      · simp only [List.length_append, List.length_singleton, List.map_append, follows.places,
          List.range_succ, List.map_cons, List.map_nil]
      · intro word member
        rcases List.mem_append.mp member with before | new
        · exact follows.uttered word before
        · rw [List.mem_singleton.mp new]
          exact ⟨message, utters⟩

/-! ### A member -/

section Member

variable {name : SenderKeyName} {sent : List Word} {member : Member} {word : Word}
  {message : SenderKeyMessage}

theorem decrypted_of_refused (free : member.lock.poisoned = false) {error : Error}
    (refused : Group.decrypt suite config name word.data Receiver.accept member.lock.content random =
      ⟨.error (.refused error), member.lock.content, random⟩) :
    member.decrypted suite config name word random =
      ⟨.error (.refused error), member.lock, random⟩ := by
  unfold Member.decrypted
  rw [Locked.run_of_free free, refused]
  change (⟨_, ⟨member.lock.content, false⟩, _⟩ : Outcome (Locked Store) Bytes) = _
  rw [← free]

theorem hear_of_refused (free : member.lock.poisoned = false) {error : Error}
    (refused : Group.decrypt suite config name word.data Receiver.accept member.lock.content random =
      ⟨.error (.refused error), member.lock.content, random⟩) :
    member.hear suite config name word random = member := by
  unfold Member.hear
  rw [decrypted_of_refused free refused]

theorem hear_of_ok (free : member.lock.poisoned = false) {plaintext : Bytes} {store : Store}
    {rest : Randomness}
    (read : Group.decrypt suite config name word.data Receiver.accept member.lock.content random =
      ⟨.ok plaintext, store, rest⟩) :
    member.hear suite config name word random =
      { member with lock := { content := store }, heard := word :: member.heard } := by
  unfold Member.hear Member.decrypted
  rw [Locked.run_of_free free, read]
  rfl

/-- A member that takes an invitation has the keys from its place on. -/
theorem Listens.take (positive : 0 < config.maxSenderKeyStates)
    (listens : Listens suite config name voice sent member) (outside : member.invitation = none)
    {place : Nat} (fits : place < 0x100000000) (random : Randomness) :
    Listens suite config name voice sent
      (member.take config name (voice.invitation suite place) random) := by
  obtain ⟨record_empty, heard_eq⟩ := listens.outside outside
  have next_eq : (voice.chainAt suite place).iteration.toNat = place :=
    Voice.toNat_iteration_chainAt fits
  unfold Member.take
  rw [Locked.run_of_free listens.free]
  refine
    { free := rfl
      heard_sent := listens.heard_sent
      outside := fun impossible => nomatch impossible
      inside := ?_ }
  rintro _ ⟨⟩
  refine ⟨⟨place, fits, rfl⟩, ?_⟩
  have log_eq : (voice.invitation suite place).log config [] =
      { key := voice.signingKey, next := place } :=
    congrArg (fun next => ({ key := voice.signingKey, next } : ChainLog)) next_eq
  change (Group.process config name (voice.invitation suite place) member.lock.content
    random).state.senderKey name = _
  rw [Group.senderKey_process, record_empty, heard_eq, SenderKeyRecord.add_empty positive, log_eq]
  rfl

theorem Listens.tracks (listens : Listens suite config name voice sent member)
    (begins : voice.first = 0) (early : ∀ word ∈ sent, word.place < 0xffffffff)
    (invitation : DistributionMessage) :
    voice.Tracks config (invitation.log config member.heard) where
  valid := DistributionMessage.valid_log fun word isHeard =>
    early word (listens.heard_sent word isHeard)
  since := begins ▸ Nat.zero_le _

theorem Listens.found (listens : Listens suite config name voice sent member)
    {invitation : DistributionMessage} (taken : member.invitation = some invitation) :
    (member.lock.content.senderKey name).withId voice.keyId =
      .ok (voice.hearing suite (invitation.log config member.heard) none) := by
  rw [(listens.inside invitation taken).2]
  exact SenderKeyRecord.withId_singleton _

/-- What a member does with a word keeps its log true. -/
theorem Listens.hear (listens : Listens suite config name voice sent member)
    (begins : voice.first = 0) (early : ∀ word ∈ sent, word.place < 0xffffffff) (isSent : word ∈ sent)
    (utters : voice.Utters suite config word message) (random : Randomness) :
    Listens suite config name voice sent (member.hear suite config name word random) := by
  cases taken : member.invitation with
  | none =>
      have empty : (member.lock.content.senderKey name).isEmpty = true := by
        rw [(listens.outside taken).1]
        rfl
      rw [hear_of_refused listens.free (Group.decrypt_of_empty empty _ _)]
      exact listens
  | some invitation =>
      obtain ⟨announced, record_eq⟩ := listens.inside invitation taken
      have tracks := listens.tracks begins early invitation
      have found := listens.found taken
      by_cases grants : (invitation.log config member.heard).Grants config word.place
      · have replaced : ({ states := [voice.hearing suite (invitation.log config member.heard) none] } :
            SenderKeyRecord).update
              (voice.hearing suite ((invitation.log config member.heard).read config word.place) none) =
            { states := [voice.hearing suite (invitation.log config (word :: member.heard)) none] } :=
          SenderKeyRecord.update_singleton rfl
        rw [hear_of_ok listens.free (Voice.decrypt_of_grants found tracks utters grants random),
          record_eq, replaced]
        refine
          { free := rfl
            heard_sent := ?_
            outside := fun impossible => nomatch taken.symm.trans impossible
            inside := ?_ }
        · intro other isHeard
          rcases List.mem_cons.mp isHeard with rfl | before
          · exact isSent
          · exact listens.heard_sent other before
        · intro other same
          cases taken.symm.trans same
          exact ⟨announced, Store.senderKey_putSenderKey ..⟩
      by_cases done : (invitation.log config member.heard).Done word.place
      · rw [hear_of_refused listens.free (Voice.decrypt_of_done found tracks utters done random)]
        exact listens
      · have far := ChainLog.far_of_not_grants grants done
        rw [hear_of_refused listens.free (Voice.decrypt_of_far found tracks utters far random)]
        exact listens

end Member

/-- No word is spoken at the last place. -/
theorem Follows.early (follows : Follows suite config circle voice secret broadcast) :
    ∀ word ∈ broadcast.sent, word.place < 0xffffffff := by
  intro word isSent
  obtain ⟨message, utters⟩ := follows.uttered word isSent
  exact utters.notLast

/-- Every place belongs to one word. -/
theorem Follows.eq_of_place (follows : Follows suite config circle voice secret broadcast)
    {left right : Word} (leftSent : left ∈ broadcast.sent) (rightSent : right ∈ broadcast.sent)
    (same : left.place = right.place) : left = right := by
  have distinct : (broadcast.sent.map Word.place).Nodup := by
    rw [follows.places]
    exact List.nodup_range
  exact List.inj_on_of_nodup_map distinct leftSent rightSent same

/-! ### All together -/

section Members

variable [DecidableEq ι]

/-- One member listens on, and nothing else changes. -/
theorem Follows.update (follows : Follows suite config circle voice secret broadcast) {member : ι}
    {after : Member}
    (listens : Listens suite config circle.name voice broadcast.sent after) :
    Follows suite config circle voice secret
      { broadcast with members := Function.update broadcast.members member after } := by
  refine { follows with listens := fun other => ?_ }
  dsimp only
  by_cases same : other = member
  · subst same
    rw [Function.update_self]
    exact listens
  · rw [Function.update_of_ne same]
    exact follows.listens other

theorem Follows.join (positive : 0 < config.maxSenderKeyStates)
    (follows : Follows suite config circle voice secret broadcast) {member : ι}
    {made invitation : DistributionMessage} (isMade : made ∈ broadcast.made)
    (received : DistributionMessage.parse made.serialized = .ok invitation)
    (first : (broadcast.members member).invitation = none) (random : Randomness) :
    Follows suite config circle voice secret
      (broadcast.join config circle member invitation random) := by
  obtain ⟨place, fits, rfl⟩ := follows.made made isMade
  rw [Voice.invitation, DistributionMessage.parse_handing] at received
  cases received
  exact follows.update ((follows.listens member).take positive first fits random)

theorem Follows.deliver (follows : Follows suite config circle voice secret broadcast) {member : ι}
    {word : Word} (isSent : word ∈ broadcast.sent) (random : Randomness) :
    Follows suite config circle voice secret
      (broadcast.deliver suite config circle member word random) := by
  obtain ⟨message, utters⟩ := follows.uttered word isSent
  exact follows.update
    ((follows.listens member).hear follows.begins follows.early isSent utters random)

theorem Run.follows (positive : 0 < config.maxSenderKeyStates) (opens : suite.OpensSealed)
    (accepts : suite.AcceptsSigned) (run : Run suite config circle broadcast)
    (short : ∀ word ∈ broadcast.sent, word.data.length < 1 <<< 64) :
    Silent circle broadcast ∨ ∃ voice secret, Follows suite config circle voice secret broadcast := by
  induction run with
  | start => exact .inl ⟨circle.sender_empty, rfl, rfl, fun _ => rfl⟩
  | create run random ih =>
      rcases ih short with silent | ⟨voice, secret, follows⟩
      · exact silent.create random
      · exact .inr ⟨voice, secret, follows.create random⟩
  | @send broadcast run plaintext random ih =>
      have earlier : ∀ word ∈ broadcast.sent,
          word ∈ (broadcast.send suite config circle plaintext random).sent :=
        sent_subset_send plaintext random
      rcases ih fun word isSent => short word (earlier word isSent) with silent | ⟨voice, secret, follows⟩
      · exact .inl (silent.send plaintext random)
      · exact .inr ⟨voice, secret, follows.send opens accepts plaintext random short⟩
  | join run member isMade received first random ih =>
      rcases ih short with silent | ⟨voice, secret, follows⟩
      · rw [silent.made_eq] at isMade
        cases isMade
      · exact .inr ⟨voice, secret, follows.join positive isMade received first random⟩
  | deliver run member word isSent random ih =>
      rcases ih short with silent | ⟨voice, secret, follows⟩
      · rw [silent.sent_eq] at isSent
        cases isSent
      · exact .inr ⟨voice, secret, follows.deliver isSent random⟩

/-- From the place of its invitation on a member reads each word once, whatever the order; every other
delivery is a duplicate and changes nothing. The log of the member says which keys it gave up. -/
theorem word_is_heard_once (positive : 0 < config.maxSenderKeyStates) (opens : suite.OpensSealed)
    (accepts : suite.AcceptsSigned) (run : Run suite config circle broadcast)
    (short : ∀ word ∈ broadcast.sent, word.data.length < 1 <<< 64) {member : ι}
    {invitation : DistributionMessage}
    (invited : (broadcast.members member).invitation = some invitation) {word : Word}
    (isSent : word ∈ broadcast.sent) (random : Randomness) :
    ∃ message state, SenderKeyMessage.parse word.data = .ok message ∧
      message.iteration.toNat = word.place ∧
      ((broadcast.members member).lock.content.senderKey circle.name).withId message.keyId =
        .ok state ∧
      (word ∉ (broadcast.members member).heard → invitation.iteration ≤ message.iteration →
        message.iteration.toNat ≤ state.chainKey.iteration.toNat + config.maxForwardJumps.toNat →
        word.place ∉ (invitation.log config (broadcast.members member).heard).evicted →
        ((broadcast.members member).decrypted suite config circle.name word random).result =
          .ok word.plaintext) ∧
      (word ∈ (broadcast.members member).heard ∨ message.iteration < invitation.iteration →
        (broadcast.members member).decrypted suite config circle.name word random =
          ⟨.error (.refused (.duplicateMessage state.chainKey.iteration message.iteration)),
            (broadcast.members member).lock, random⟩) := by
  rcases run.follows positive opens accepts short with silent | ⟨voice, secret, follows⟩
  · rw [silent.sent_eq] at isSent
    cases isSent
  obtain ⟨message, utters⟩ := follows.uttered word isSent
  have listens := follows.listens member
  have tracks := listens.tracks follows.begins follows.early invitation
  have found := listens.found invited
  have next_eq : (voice.hearing suite (invitation.log config (broadcast.members member).heard)
      none).chainKey.iteration.toNat = _ := Voice.toNat_iteration_chainAt tracks.valid.fits
  have iteration_eq := utters.iteration_eq
  refine ⟨message, _, utters.parsed, iteration_eq, utters.keyId_eq ▸ found, ?_, ?_⟩
  · intro unheard since near kept
    have notHeard : ∀ other ∈ (broadcast.members member).heard, other.place ≠ word.place := by
      intro other isHeard same
      apply unheard
      rw [← follows.eq_of_place (listens.heard_sent other isHeard) isSent same]
      exact isHeard
    rw [UInt32.le_iff_toNat_le, iteration_eq] at since
    rw [iteration_eq, next_eq] at near
    have grants := DistributionMessage.grants_of_unheard since notHeard near kept
    unfold Member.decrypted
    rw [Locked.run_of_free listens.free,
      Voice.decrypt_of_grants found tracks utters grants random]
  · intro heardOrBefore
    have done : (invitation.log config (broadcast.members member).heard).Done word.place := by
      rcases heardOrBefore with isHeard | before
      · refine DistributionMessage.done_of_heard (fun other otherHeard => ?_) isHeard
        exact follows.early other (listens.heard_sent other otherHeard)
      · rw [UInt32.lt_iff_toNat_lt, iteration_eq] at before
        exact DistributionMessage.done_of_before before _
    exact decrypted_of_refused listens.free
      (Voice.decrypt_of_done found tracks utters done random)

end Members

/-! ## A latecomer -/

/-- A sender and one member. -/
def duet : Circle Unit where
  name := ⟨"duet", .caller⟩
  sender := { identity := KeyPair.additive 4, registrationId := 2 }
  members _ := { identity := KeyPair.additive 1, registrationId := 1 }
  sender_empty := rfl
  members_empty _ := rfl

/-- The sender has spoken once, made a second invitation, and spoken twice more. -/
def spoken (config : Config) : Broadcast Unit :=
  (((((begun duet).create Suite.additive duet (.repeated 8)).send Suite.additive config duet
    [1, 2, 3] (.repeated 0)).create Suite.additive duet (.repeated 0)).send Suite.additive config
    duet [4, 5] (.repeated 0)).send Suite.additive config duet [6] (.repeated 0)

def lateInvitation : DistributionMessage :=
  (spoken {}).made.get ⟨1, by decide +kernel⟩

def firstWord : Word :=
  (spoken {}).sent.get ⟨0, by decide +kernel⟩

def secondWord : Word :=
  (spoken {}).sent.get ⟨1, by decide +kernel⟩

def thirdWord : Word :=
  (spoken {}).sent.get ⟨2, by decide +kernel⟩

/-- The member has taken the second invitation. -/
def joined (config : Config) : Broadcast Unit :=
  (spoken config).join config duet () lateInvitation (.repeated 0)

theorem run_joined {config : Config} (isMade : lateInvitation ∈ (spoken config).made)
    (outside : ((spoken config).members ()).invitation = none) :
    Run Suite.additive config duet (joined config) := by
  have received : (DistributionMessage.parse lateInvitation.serialized).toOption =
      some lateInvitation := by decide +kernel
  apply Run.join _ () isMade (eq_ok_of_toOption received) outside
  apply Run.send
  apply Run.send
  apply Run.create
  apply Run.send
  apply Run.create
  exact Run.start

/-- The third word comes before the second. -/
def overtaken : Broadcast Unit :=
  (joined {}).deliver Suite.additive {} duet () thirdWord (.repeated 0)

theorem latecomer_hears_its_words :
    ((overtaken.members ()).decrypted Suite.additive {} duet.name secondWord
        (.repeated 0)).result = .ok [4, 5] ∧
      (∃ index counter, (overtaken.members ()).decrypted Suite.additive {} duet.name thirdWord
        (.repeated 0) = ⟨.error (.refused (.duplicateMessage index counter)),
          (overtaken.members ()).lock, .repeated 0⟩) ∧
      ∃ index counter, (overtaken.members ()).decrypted Suite.additive {} duet.name firstWord
        (.repeated 0) = ⟨.error (.refused (.duplicateMessage index counter)),
          (overtaken.members ()).lock, .repeated 0⟩ := by
  obtain ⟨isMade, outside, isSent⟩ : lateInvitation ∈ (spoken {}).made ∧
      ((spoken {}).members ()).invitation = none ∧ thirdWord ∈ (joined {}).sent := by
    decide +kernel
  have run : Run Suite.additive {} duet overtaken :=
    (run_joined isMade outside).deliver () thirdWord isSent (.repeated 0)
  have positive : 0 < ({} : Config).maxSenderKeyStates := by decide
  obtain ⟨short, invited, firstSent, secondSent, thirdSent⟩ :
      (∀ word ∈ overtaken.sent, word.data.length < 1 <<< 64) ∧
      (overtaken.members ()).invitation = some lateInvitation ∧
      firstWord ∈ overtaken.sent ∧ secondWord ∈ overtaken.sent ∧
      thirdWord ∈ overtaken.sent := by decide +kernel
  obtain ⟨thirdHeard, unheard, kept, isText⟩ :
      thirdWord ∈ (overtaken.members ()).heard ∧ secondWord ∉ (overtaken.members ()).heard ∧
      secondWord.place ∉ (lateInvitation.log {} (overtaken.members ()).heard).evicted ∧
      secondWord.plaintext = [4, 5] := by decide +kernel
  obtain ⟨firstPlace, secondPlace, begins⟩ : firstWord.place = 0 ∧ secondWord.place = 1 ∧
      lateInvitation.iteration.toNat = 1 := by decide +kernel
  obtain ⟨_, _, _, firstIteration, _, _, early⟩ := word_is_heard_once positive
    Suite.additive_lawful.decrypt_encrypt Suite.additive_acceptsSigned run short invited firstSent
    (.repeated 0)
  obtain ⟨_, _, _, secondIteration, _, hears, _⟩ := word_is_heard_once positive
    Suite.additive_lawful.decrypt_encrypt Suite.additive_acceptsSigned run short invited secondSent
    (.repeated 0)
  obtain ⟨_, _, _, _, _, _, again⟩ := word_is_heard_once positive
    Suite.additive_lawful.decrypt_encrypt Suite.additive_acceptsSigned run short invited thirdSent
    (.repeated 0)
  refine ⟨?_, ⟨_, _, again (.inl thirdHeard)⟩, ⟨_, _, early (.inr ?_)⟩⟩
  · rw [← isText]
    apply hears unheard _ _ kept
    · rw [UInt32.le_iff_toNat_le]
      omega
    · have jumps : ({} : Config).maxForwardJumps.toNat = 2000 := rfl
      omega
  · rw [UInt32.lt_iff_toNat_lt]
    omega

/-- A member that has no room for a single key. -/
def cramped : Config := { maxSenderKeyStates := 0 }

/-- It takes the invitation, and hears not even the word at the place of the invitation. -/
theorem cramped_member_hears_nothing :
    Run Suite.additive cramped duet (joined cramped) ∧
      ((joined cramped).members ()).invitation = some lateInvitation ∧
      secondWord ∈ (joined cramped).sent ∧ ((joined cramped).members ()).heard = [] ∧
      (SenderKeyMessage.parse secondWord.data).toOption.map SenderKeyMessage.iteration =
        some lateInvitation.iteration ∧
      (((joined cramped).members ()).decrypted Suite.additive cramped duet.name secondWord
        (.repeated 0)).result = .error (.noSession (.senderKey duet.name)) := by
  obtain ⟨isMade, outside⟩ : lateInvitation ∈ (spoken cramped).made ∧
      ((spoken cramped).members ()).invitation = none := by decide +kernel
  obtain ⟨invited, isSent, heard_eq, iteration_eq, free, empty⟩ :
      ((joined cramped).members ()).invitation = some lateInvitation ∧
      secondWord ∈ (joined cramped).sent ∧ ((joined cramped).members ()).heard = [] ∧
      (SenderKeyMessage.parse secondWord.data).toOption.map SenderKeyMessage.iteration =
        some lateInvitation.iteration ∧
      ((joined cramped).members ()).lock.poisoned = false ∧
      (((joined cramped).members ()).lock.content.senderKey duet.name).isEmpty = true := by
    decide +kernel
  refine ⟨run_joined isMade outside, invited, isSent, heard_eq, iteration_eq, ?_⟩
  rw [decrypted_of_refused free (Group.decrypt_of_empty empty _ _)]
  rfl

end Broadcast
end DoubleRatchet
