import DoubleRatchet.Proofs.Session.ReceiverChain
import DoubleRatchet.Proofs.Step

/-!
# What a session state has, and changes of one of its chains

The chains of a state are known by their ratchet keys: a change of one chain is an answer for that
ratchet key and leaves the others alone.
-/

namespace DoubleRatchet
namespace SessionState

variable {suite : Suite} {config : Config} {key : PublicKey} {counter : UInt32}
  {keys : MessageKeys} {chain new : ReceiverChain} {state : SessionState} {random : Randomness}

theorem requireRootKey_eq_ok {root : RootKey} :
    state.requireRootKey = .ok root ↔ state.rootKey = some root := by
  unfold requireRootKey
  cases state.rootKey <;> simp

theorem requireSenderChain_eq_ok {sending : SenderChain} :
    state.requireSenderChain = .ok sending ↔ state.senderChain = some sending := by
  unfold requireSenderChain
  cases state.senderChain <;> simp

/-- The ratchet key under which a state sends. -/
def sendingKey? (state : SessionState) : Option PublicKey :=
  state.senderChain.map fun chain => chain.ratchetKey.publicKey

theorem sendingKey?_of_chain {sending : SenderChain} (hasChain : state.senderChain = some sending) :
    state.sendingKey? = some sending.ratchetKey.publicKey := by
  rw [sendingKey?, hasChain]
  rfl

theorem setSenderChainKey_of_found {sending : SenderChain} {chainKey : ChainKey}
    (found : state.senderChain = some sending) :
    setSenderChainKey chainKey state random =
      ⟨.ok (), { state with senderChain := some { sending with chainKey := chainKey } },
        random⟩ := by
  unfold setSenderChainKey
  rw [Step.get_bind, requireSenderChain_eq_ok.mpr found]
  rfl

def withChain (new : ReceiverChain) (state : SessionState) : SessionState :=
  { state with receiverChains := ReceiverChain.replace new state.receiverChains }

theorem receiverChain?_withChain_self (found : (state.receiverChain? new.ratchetKey).isSome = true) :
    (state.withChain new).receiverChain? new.ratchetKey = some new :=
  ReceiverChain.lookup_replace_self found

theorem receiverChain?_withChain_of_ne (different : key ≠ new.ratchetKey) :
    (state.withChain new).receiverChain? key = state.receiverChain? key :=
  ReceiverChain.lookup_replace_of_ne different

theorem withChain_withChain {older : ReceiverChain} (same : older.ratchetKey = new.ratchetKey) :
    (state.withChain older).withChain new = state.withChain new := by
  simp only [withChain, ReceiverChain.replace_replace same]

/-! ## Changes of one chain -/

theorem changeReceiverChain_of_found {change : ReceiverChain → ReceiverChain}
    (found : state.receiverChain? key = some chain) (keeps : (change chain).ratchetKey = key) :
    changeReceiverChain key change state random =
      ⟨.ok (), state.withChain (change chain), random⟩ := by
  simp only [changeReceiverChain, Step.bind_run, Step.get_run,
    ReceiverChain.changeFirst_of_lookup found keeps]
  rfl

theorem changeReceiverChain_of_missing {change : ReceiverChain → ReceiverChain}
    (missing : state.receiverChain? key = none) :
    changeReceiverChain key change state random =
      ⟨.error (.invalidMessage .noReceiverChain), state, random⟩ := by
  simp only [changeReceiverChain, Step.bind_run, Step.get_run,
    ReceiverChain.changeFirst_of_lookup_none missing]
  rfl

theorem takeMessageKeys_of_uncached
    (uncached : (state.receiverChain? key).bind (·.cached? counter) = none) :
    takeMessageKeys key counter state random = ⟨.ok none, state, random⟩ := by
  simp only [takeMessageKeys, Step.bind_run, Step.get_run, uncached]
  rfl

theorem takeMessageKeys_of_cached (found : state.receiverChain? key = some chain)
    (cached : chain.cached? counter = some keys) :
    takeMessageKeys key counter state random =
      ⟨.ok (some keys), state.withChain (chain.uncache counter), random⟩ := by
  have chain_key : chain.ratchetKey = key := ReceiverChain.ratchetKey_of_lookup found
  have changed : changeReceiverChain key (ReceiverChain.uncache counter) state random =
      ⟨.ok (), state.withChain (chain.uncache counter), random⟩ :=
    changeReceiverChain_of_found found chain_key
  simp only [takeMessageKeys, Step.bind_run, Step.get_run, found, Option.bind_some, cached, changed]
  rfl

end SessionState
end DoubleRatchet
