import DoubleRatchet.Proofs.Conversation.Run
import DoubleRatchet.Proofs.Correspondence.Run
import DoubleRatchet.Proofs.Session.Family
import DoubleRatchet.Proofs.Session.Verify

/-!
# Correspondences by the rules

The rules of a correspondence in which every message finds its session: sessions begin with bundles that
were published, each with a one-time prekey of its own or with none, and are joined by reading; no
record is so full that it gives up a session; and no MAC fits the keys of another session.
-/

namespace DoubleRatchet

namespace Party

variable {initiator party : Party} {side : Side}

/-- Who is on a side of a session that `initiator` begins. -/
def partyAt (initiator : Party) : Side → Party
  | .initiator => initiator
  | .responder => initiator.other

/-- The side of a party in a session that `initiator` begins. -/
def sideOf (initiator party : Party) : Side :=
  if party = initiator then .initiator else .responder

theorem sideOf_self (party : Party) : party.sideOf party = .initiator :=
  if_pos rfl

@[simp] theorem partyAt_sideOf : initiator.partyAt (initiator.sideOf party) = party := by
  cases initiator <;> cases party <;> rfl

@[simp] theorem sideOf_partyAt : initiator.sideOf (initiator.partyAt side) = side := by
  cases initiator <;> cases side <;> rfl

theorem partyAt_other : initiator.partyAt side.other = (initiator.partyAt side).other := by
  cases initiator <;> cases side <;> rfl

theorem sideOf_other : initiator.sideOf party.other = (initiator.sideOf party).other := by
  cases initiator <;> cases party <;> rfl

end Party

/-- A session is to be begun by a party of the meeting. -/
structure Opening.Joins {suite : Suite} (meeting : Meeting) (initiator : Party)
    (opening : Opening suite) : Prop where
  store_eq : ∀ side, opening.store side = meeting.store (initiator.partyAt side)
  peer_eq : ∀ side, opening.peer side = meeting.peer (initiator.partyAt side)

namespace Correspondence

variable (suite : Suite) (config : Config) (meeting : Meeting)

/-- The other party has published the bundle, and if it names a one-time prekey, it is the first one to
name it. -/
structure Published (party : Party) (bundle : PreKeyBundle) (correspondence : Correspondence) :
    Prop where
  opens : ∃ opening : Opening suite, opening.bundle = bundle ∧ opening.Joins meeting party
  unused : ∀ earlier ∈ correspondence.bundles party, ∀ id, bundle.preKeyId = some id →
    earlier.preKeyId ≠ some id

/-- The MAC of a dispatch fits no keys but those of its session; and where the session has read under the
ratchet key before, it fits no chain that is made for this key anew. -/
def Authentic (dispatch : Dispatch) (correspondence : Correspondence) : Prop :=
  ∀ state ∈ (correspondence.record meeting dispatch.addressee).states,
    state.verifies suite config dispatch.message.inner = true →
      state.initiatorBaseKey = dispatch.base ∧
        ((state.receiverChain? dispatch.key).isSome = true ∨
          ∀ other ∈ correspondence.read, other.key ≠ dispatch.key)

structure Orderly (correspondence : Correspondence) (action : Action) (random : Randomness) :
    Prop extends Honest suite config meeting correspondence action random where
  published : ∀ party bundle, action = .initiate party bundle →
    Published suite meeting party bundle correspondence
  joinsByReading : ∀ party message, action ≠ .accept party message
  keeps : ∀ party, SessionRecord.KeepsSessions (correspondence.record meeting party)
    ((correspondence.after suite config meeting action random).record meeting party)
  authentic : ∀ dispatch, action = .deliver dispatch →
    Authentic suite config meeting dispatch correspondence

variable {suite config meeting} in
/-- What is done by more rules is done by fewer. -/
theorem Run.mono {allows permits : Correspondence → Action → Randomness → Prop}
    {correspondence : Correspondence} (run : Run suite config meeting allows correspondence)
    (weaker : ∀ correspondence action random, allows correspondence action random →
      permits correspondence action random) : Run suite config meeting permits correspondence := by
  induction run with
  | start => exact .start
  | step _ action random allowed ih => exact ih.step action random (weaker _ _ _ allowed)

/-! ## Rules that can be evaluated -/

instance {record later : SessionRecord} : Decidable (SessionRecord.KeepsSessions record later) :=
  inferInstanceAs (Decidable (∀ state ∈ record.states, state.isInitialized = true →
    ∃ kept ∈ later.states, kept.initiatorBaseKey = state.initiatorBaseKey))

instance (dispatch : Dispatch) (correspondence : Correspondence) :
    Decidable (Authentic suite config meeting dispatch correspondence) :=
  inferInstanceAs (Decidable (∀ state ∈ (correspondence.record meeting dispatch.addressee).states,
    state.verifies suite config dispatch.message.inner = true →
      state.initiatorBaseKey = dispatch.base ∧
        ((state.receiverChain? dispatch.key).isSome = true ∨
          ∀ other ∈ correspondence.read, other.key ≠ dispatch.key)))

/-- An action is allowed, where `offers` lists the bundles that each party can begin sessions with. -/
def Admits (offers : Party → List PreKeyBundle) (correspondence : Correspondence) : Action → Prop
  | .initiate party bundle => bundle ∈ offers party ∧ ∀ earlier ∈ correspondence.bundles party,
      earlier.preKeyId = none ∨ earlier.preKeyId ≠ bundle.preKeyId
  | .accept _ _ => False
  | .send _ _ => True
  | .deliver dispatch => Authentic suite config meeting dispatch correspondence

/-- What there is to check of an orderly action. -/
structure Evident (offers : Party → List PreKeyBundle) (correspondence : Correspondence)
    (action : Action) (random : Randomness) : Prop
    extends Honest suite config meeting correspondence action random where
  admits : Admits suite config meeting offers correspondence action
  keeps : ∀ party, SessionRecord.KeepsSessions (correspondence.record meeting party)
    ((correspondence.after suite config meeting action random).record meeting party)

section Evident

variable {offers : Party → List PreKeyBundle} {correspondence : Correspondence} {action : Action}
  {random : Randomness}

instance : DecidablePred (Admits suite config meeting offers correspondence)
  | .initiate _ _ => inferInstanceAs (Decidable (_ ∧ ∀ _ ∈ _, _ ∨ _))
  | .accept _ _ => .isFalse id
  | .send _ _ => .isTrue trivial
  | .deliver dispatch =>
      inferInstanceAs (Decidable (Authentic suite config meeting dispatch correspondence))

instance : Decidable (Evident suite config meeting offers correspondence action random) :=
  decidable_of_iff
    (Honest suite config meeting correspondence action random ∧
      Admits suite config meeting offers correspondence action ∧
      ∀ party, SessionRecord.KeepsSessions (correspondence.record meeting party)
        ((correspondence.after suite config meeting action random).record meeting party))
    ⟨fun ⟨honest, admits, keeps⟩ => ⟨honest, admits, keeps⟩,
      fun evident => ⟨evident.toHonest, evident.admits, evident.keeps⟩⟩

variable {suite config meeting} in
theorem Evident.orderly (evident : Evident suite config meeting offers correspondence action random)
    (published : ∀ party, ∀ bundle ∈ offers party,
      ∃ opening : Opening suite, opening.bundle = bundle ∧ opening.Joins meeting party) :
    Orderly suite config meeting correspondence action random where
  toHonest := evident.toHonest
  published party bundle isInitiate := by
    have admits := evident.admits
    rw [isInitiate] at admits
    refine ⟨published party bundle admits.1, fun earlier isEarlier id own theirs => ?_⟩
    rcases admits.2 earlier isEarlier with unnamed | different
    · rw [unnamed] at theirs
      cases theirs
    · exact different (theirs.trans own.symm)
  joinsByReading party message isAccept := by
    have admits := evident.admits
    rw [isAccept] at admits
    exact admits
  keeps := evident.keeps
  authentic dispatch isDelivery := by
    have admits := evident.admits
    rw [isDelivery] at admits
    exact admits

end Evident

/-! ## What the limits allow -/

/-- The state that the addressee of a dispatch has for its session, a blank one if it has none. -/
def session (dispatch : Dispatch) (correspondence : Correspondence) : SessionState :=
  ((correspondence.record meeting dispatch.addressee).states.find? fun state =>
    state.initiatorBaseKey = dispatch.base).getD {}

/-- The limits of its session leave room for a dispatch. -/
structure InReach (dispatch : Dispatch) (correspondence : Correspondence) : Prop where
  /-- The chain is there, or it is new. -/
  kept : ((correspondence.session meeting dispatch).receiverChain? dispatch.key).isSome = true ∨
    0 < config.maxReceiverChains ∧ ∀ other ∈ correspondence.read, other.key ≠ dispatch.key
  near : dispatch.counter ≤ ((correspondence.session meeting dispatch).log dispatch.key).next +
    config.maxForwardJumps.toNat
  notEvicted : (dispatch.key, dispatch.counter) ∉ correspondence.evicted dispatch.addressee

instance (dispatch : Dispatch) (correspondence : Correspondence) :
    Decidable (InReach config meeting dispatch correspondence) :=
  decidable_of_iff
    ((((correspondence.session meeting dispatch).receiverChain? dispatch.key).isSome = true ∨
        0 < config.maxReceiverChains ∧ ∀ other ∈ correspondence.read, other.key ≠ dispatch.key) ∧
      dispatch.counter ≤ ((correspondence.session meeting dispatch).log dispatch.key).next +
        config.maxForwardJumps.toNat ∧
      (dispatch.key, dispatch.counter) ∉ correspondence.evicted dispatch.addressee)
    ⟨fun ⟨kept, near, notEvicted⟩ => ⟨kept, near, notEvicted⟩,
      fun inReach => ⟨inReach.kept, inReach.near, inReach.notEvicted⟩⟩

end Correspondence
end DoubleRatchet
