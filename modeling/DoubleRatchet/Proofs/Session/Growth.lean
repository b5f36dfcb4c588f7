import DoubleRatchet.Proofs.Session.Account

/-!
# What a receiving chain grows from

A handshake or a step of the root key gives the first key of a receiving chain. Wherever the chain is
later, it has come there from its first key, one step after the other, and the keys that it still has
for skipped messages are those that it passed on the way.
-/

namespace DoubleRatchet

variable {suite : Suite} {config : Config} {counter : UInt32} {keys : MessageKeys}

namespace ChainKey

variable {chain after : ChainKey} {count : Nat}

/-- Where some steps of a chain lead. -/
def walk (suite : Suite) : Nat → ChainKey → Except Failure ChainKey
  | 0, chain => .ok chain
  | count + 1, chain => do walk suite count (← chain.next suite)

theorem walk_eq_ok : walk suite count chain = .ok after ↔
    chain.index.toNat + count < 0x100000000 ∧ after = chain.later suite count := by
  induction count generalizing chain with
  | zero =>
      have bound : chain.index.toNat + 0 < 0x100000000 := chain.index.toNat_lt
      simp only [walk, later, bound, true_and, Except.ok.injEq, eq_comm]
  | succ count ih =>
      cases moved : chain.next suite with
      | error failure =>
          constructor
          · intro walked
            rw [walk, moved] at walked
            cases walked
          · rintro ⟨room, _⟩
            have notLast : chain.index ≠ 0xffffffff := by
              intro last
              rw [last] at room
              change 0xffffffff + _ < _ at room
              omega
            rw [next_eq_ok.mpr ⟨notLast, rfl⟩] at moved
            cases moved
      | ok next =>
          obtain ⟨notLast, rfl⟩ := next_eq_ok.mp moved
          have step : (chain.following suite).index.toNat = chain.index.toNat + 1 :=
            toNat_succ_of_ne notLast
          rw [walk, moved]
          change walk suite count (chain.following suite) = .ok after ↔ _
          rw [ih, step, Nat.add_assoc, Nat.add_comm 1]
          exact Iff.rfl

end ChainKey

namespace ReceiverChain

variable {first : ChainKey} {key : PublicKey} {chain after : ReceiverChain}

/-- The first key of a chain comes from a handshake, or from a step of the root key with the ratchet
key of the chain. -/
inductive First (suite : Suite) (key : PublicKey) : ChainKey → Prop where
  | agreed (secret last : Bytes) : First suite key (Handshake.firstStep suite secret last).chain
  | stepped {root : RootKey} {ours : KeyPair} {step : RootStep}
      (stepped : root.step suite key ours = .ok step) : First suite key step.chain

theorem First.index_eq (isFirst : First suite key first) : first.index = 0 := by
  cases isFirst with
  | agreed => rfl
  | stepped stepped => exact RootKey.index_of_step stepped

/-- A chain has come from a key, and so have all the keys that it has kept. -/
structure GrownFrom (suite : Suite) (first : ChainKey) (chain : ReceiverChain) : Prop where
  reached : first.walk suite chain.chainKey.index.toNat = .ok chain.chainKey
  passed : ∀ keys ∈ chain.skipped, ∃ place, first.walk suite keys.counter.toNat = .ok place ∧
    keys = place.messageKeys suite

structure Grown (suite : Suite) (config : Config) (chain : ReceiverChain) : Prop where
  short : chain.skipped.length ≤ config.maxMessageKeys
  ordered : chain.Ordered
  origin : ∃ first, First suite chain.ratchetKey first ∧ chain.GrownFrom suite first

theorem First.grown (isFirst : First suite key first) (config : Config) :
    Grown suite config { ratchetKey := key, chainKey := first } where
  short := Nat.zero_le _
  ordered := ⟨.nil, nofun⟩
  origin := by
    refine ⟨first, isFirst, ?_, nofun⟩
    dsimp only
    rw [isFirst.index_eq]
    rfl

theorem GrownFrom.granted (grown : chain.GrownFrom suite first) (begins : first.index = 0)
    (granted : Granted suite config counter chain keys after) : after.GrownFrom suite first := by
  obtain ⟨_, isReached⟩ := ChainKey.walk_eq_ok.mp grown.reached
  -- From the place of the chain on, the chain and its first key go the same way.
  have onward {count : Nat} (room : chain.chainKey.index.toNat + count < 0x100000000) :
      first.walk suite (chain.chainKey.later suite count).index.toNat =
        .ok (chain.chainKey.later suite count) := by
    rw [ChainKey.toNat_index_later room, ChainKey.walk_eq_ok, begins]
    refine ⟨by change 0 + _ < _; omega, ?_⟩
    rw [← ChainKey.later_add, ← isReached]
  cases granted with
  | cached =>
      have sub : (chain.uncache counter).skipped.Sublist chain.skipped := List.eraseP_sublist
      exact ⟨grown.reached, fun keys member => grown.passed keys (sub.subset member)⟩
  | ahead count counter_eq notLast =>
      have counterBound := ne_last_iff.mp notLast
      refine ⟨onward (by omega), fun keys member => ?_⟩
      rcases mem_skipped_ahead member with old | ⟨offset, offsetBound, rfl⟩
      · exact grown.passed keys old
      · exact ⟨_, onward (by omega), rfl⟩

theorem Grown.granted (grown : chain.Grown suite config)
    (granted : Granted suite config counter chain keys after) : after.Grown suite config := by
  obtain ⟨first, isFirst, from_first⟩ := grown.origin
  refine ⟨granted.short grown.ordered grown.short, granted.ordered grown.ordered, first, ?_,
    from_first.granted isFirst.index_eq granted⟩
  rw [granted.ratchetKey_eq]
  exact isFirst

end ReceiverChain
end DoubleRatchet
