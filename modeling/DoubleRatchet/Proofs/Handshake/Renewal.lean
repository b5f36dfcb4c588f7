import DoubleRatchet.Proofs.Handshake.Agreement
import DoubleRatchet.Proofs.Session.ReceiverChain

/-!
# A handshake on a state that is in use

A handshake does not clear the state that it is done on. Its receiving chain is added as the newest
one, and a lookup takes the oldest chain of a ratchet key, so a chain of the same ratchet key that is
left from before hides the new chain unless the addition drops it. Only a state without such a chain,
a fresh one in particular, receives on the chain that the responder sends on.
-/

namespace DoubleRatchet

/-- One new value takes one of the places. -/
theorem newest_append_singleton {α : Type} {limit : Nat} (keeps : 1 ≤ limit) (values : List α)
    (added : α) : newest limit (values ++ [added]) = newest (limit - 1) values ++ [added] := by
  have room : values.length + 1 - limit ≤ values.length := by omega
  have same : values.length + 1 - limit = values.length - (limit - 1) := by omega
  rw [newest, List.length_append, List.length_singleton, List.drop_append_of_le_length room, same,
    newest]

namespace SessionState

/-- The receiving chains that outlast the addition of another one. -/
def outlasting (config : Config) (state : SessionState) : List ReceiverChain :=
  newest (config.maxReceiverChains - 1) state.receiverChains

variable {config : Config} {key : PublicKey} {chain : ChainKey} {state : SessionState}

theorem receiverChains_addReceiverChain (keeps : 1 ≤ config.maxReceiverChains) :
    (state.addReceiverChain config key chain).receiverChains =
      state.outlasting config ++ [{ ratchetKey := key, chainKey := chain }] :=
  newest_append_singleton keeps _ _

end SessionState

namespace ReceiverChain

/-- A chain behind older ones is found where none of them has its ratchet key. -/
theorem lookup_append_singleton (older : List ReceiverChain) (chain : ReceiverChain) :
    lookup chain.ratchetKey (older ++ [chain]) =
      some ((lookup chain.ratchetKey older).getD chain) := by
  unfold lookup
  rw [List.find?_append]
  cases List.find? (fun other => other.ratchetKey = chain.ratchetKey) older <;> simp

end ReceiverChain

namespace Handshake

variable {suite : Suite} {config : Config} {initiator : Initiator} {responder : Responder}
  {state begun theirs : SessionState} {random rest : Randomness}

/-- The responder joins wherever the initiator could begin, on whatever state it has. -/
theorem Mirrored.joins (bothWays : suite.AgreesBothWays) (mirrored : Mirrored suite initiator responder)
    {secret : Bytes} (found : initiator.secret suite = .ok secret) (other : Randomness) :
    responder.establish suite theirs other = ⟨.ok (), responder.begun suite secret theirs, other⟩ :=
  Responder.establish_eq_ok.mpr ⟨secret, mirrored.secret_eq bothWays ▸ found, rfl, rfl⟩

/-- The receiving chains after a handshake: those that outlast it, then its own. -/
theorem Initiator.receiverChains_begun (keeps : 1 ≤ config.maxReceiverChains) (secret : Bytes)
    (ratchet : KeyPair) (sending : RootStep) (state : SessionState) :
    (initiator.begun suite config secret ratchet sending state).receiverChains =
      state.outlasting config ++
        [{ ratchetKey := initiator.theirRatchet, chainKey := (firstStep suite secret []).chain }] :=
  SessionState.receiverChains_addReceiverChain keeps

/-- The responder's sending chain becomes the initiator's newest receiving chain, but the initiator
looks up the oldest chain of the ratchet key: it finds the new one just when no chain of that key with
another chain key outlasts the handshake. -/
theorem new_chain_is_found_unless_outlasted (keeps : 1 ≤ config.maxReceiverChains)
    (bothWays : suite.AgreesBothWays) (mirrored : Mirrored suite initiator responder)
    (begins : initiator.establish suite config state random = ⟨.ok (), begun, rest⟩)
    (theirs : SessionState) (other : Randomness) :
    let joined := responder.establish suite theirs other
    let outlasting := state.outlasting config
    joined.result = .ok () ∧
      ∃ sending, joined.state.senderChain = some sending ∧
        sending.ratchetKey = responder.ourRatchet ∧
        (let new : ReceiverChain :=
          { ratchetKey := initiator.theirRatchet, chainKey := sending.chainKey }
        begun.receiverChains = outlasting ++ [new] ∧
          begun.receiverChain? initiator.theirRatchet =
            some ((ReceiverChain.lookup initiator.theirRatchet outlasting).getD new)) ∧
        ((begun.receiverChain? initiator.theirRatchet).map ReceiverChain.chainKey =
            some sending.chainKey ↔
          ∀ older, ReceiverChain.lookup initiator.theirRatchet outlasting = some older →
            older.chainKey = sending.chainKey) := by
  intro joined outlasting
  obtain ⟨secret, stepped, found, _, rfl, _⟩ := Initiator.establish_eq_ok.mp begins
  have joins : joined = ⟨.ok (), responder.begun suite secret theirs, other⟩ :=
    mirrored.joins bothWays found other
  have chains : (initiator.begun suite config secret (KeyPair.generate suite random).1 stepped
      state).receiverChains = _ := Initiator.receiverChains_begun keeps _ _ _ _
  have lookup_eq := ReceiverChain.lookup_append_singleton outlasting
    { ratchetKey := initiator.theirRatchet, chainKey := (firstStep suite secret []).chain }
  rw [← chains] at lookup_eq
  rw [joins]
  refine ⟨rfl, _, rfl, rfl, ⟨chains, lookup_eq⟩, ?_⟩
  rw [SessionState.receiverChain?, ← ReceiverChain.lookup, lookup_eq]
  cases ReceiverChain.lookup initiator.theirRatchet outlasting <;> simp [firstStep]

/-- The caller's handshake before it drew another base key. -/
def Initiator.earlierCaller : Initiator :=
  { Initiator.caller with ourBase := KeyPair.additive 9 }

/-- The caller begins again with the newcomer's same keys: it keeps receiving on the chain of its
first handshake, and the newcomer sends on the chain of the second. -/
theorem renewed_caller_finds_its_earlier_chain :
    let earlier := Initiator.earlierCaller.establish Suite.additive {} {} (.repeated 8)
    let begun := Initiator.caller.establish Suite.additive {} earlier.state (.repeated 16)
    let joined := Responder.newcomer.establish Suite.additive {} (.repeated 0)
    let key := Initiator.caller.theirRatchet
    earlier.result = .ok () ∧ begun.result = .ok () ∧ joined.result = .ok () ∧
      begun.state.receiverChain? key = earlier.state.receiverChain? key ∧
      ∃ sending, joined.state.senderChain = some sending ∧
        (begun.state.receiverChain? key).map ReceiverChain.chainKey ≠ some sending.chainKey := by
  intro earlier begun joined key
  have begins : begun = ⟨.ok (), begun.state, begun.random⟩ := Outcome.eq_of_result rfl
  obtain ⟨joins, sending, hasSending, _, ⟨_, found⟩, hidden⟩ :=
    new_chain_is_found_unless_outlasted (by decide) Suite.additive_lawful.agree_comm mirrored_caller
      begins {} (.repeated 0)
  obtain ⟨older, isOlder, outlasts, different⟩ : ∃ older,
      earlier.state.receiverChain? key = some older ∧
        ReceiverChain.lookup key (earlier.state.outlasting {}) = some older ∧
        joined.state.senderChain.map SenderChain.chainKey ≠ some older.chainKey :=
    ⟨_, rfl, rfl, by decide +kernel⟩
  rw [outlasts, Option.getD_some] at found
  refine ⟨rfl, rfl, joins, found.trans isOlder.symm, sending, hasSending, fun same => ?_⟩
  rw [hasSending] at different
  exact different (congrArg some (hidden.mp same older outlasts).symm)

end Handshake
end DoubleRatchet
