import DoubleRatchet.Handshake
import DoubleRatchet.Message.Signal

/-!
# Receiving in one session state

A message names a ratchet key and a counter. A ratchet key that is not yet known
takes two steps of the root key, one to receive and one to send. The counter is then
looked for on the receiving chain: behind the chain among the keys of skipped
messages, ahead of it by moving the chain forward.
-/

namespace DoubleRatchet
namespace SessionState

variable (suite : Suite) (config : Config)

/-- Keeps the keys of the next `count` messages and moves past them. -/
def skip (key : PublicKey) : (count : Nat) → ChainKey → Step SessionState ChainKey
  | 0, chain => pure chain
  | count + 1, chain => do
      cacheMessageKeys config key (chain.messageKeys suite)
      let next ← chain.next suite
      skip key count next

/-- The keys of one counter on the chain of `key`, whose current chain key is `chain`. -/
def messageKeys (key : PublicKey) (chain : ChainKey) (counter : UInt32) :
    Step SessionState MessageKeys := do
  if counter < chain.index then
    match ← takeMessageKeys key counter with
    | some keys => pure keys
    | none => Step.refuse (.duplicateMessage chain.index counter)
  else if config.maxForwardJumps < counter - chain.index then
    throw (.invalidMessage (.tooFarAhead config.maxForwardJumps))
  else
    let reached ← skip suite config key (counter - chain.index).toNat chain
    let next ← reached.next suite
    setReceiverChainKey key next
    pure (reached.messageKeys suite)

/-- Two steps of the root key around a fresh ratchet key of our own. -/
def ratchet (theirs : PublicKey) : Step SessionState ChainKey := do
  let state ← get
  let root ← state.requireRootKey
  let sending ← state.requireSenderChain
  let receiver ← root.step suite theirs sending.ratchetKey
  let fresh ← KeyPair.generate suite
  let sender ← receiver.root.step suite theirs fresh
  let length := sending.chainKey.index
  let receivingHash := Handshake.linkHash suite state.fingerprintHash theirs
  let auth ← state.authKey.advance receiver.auth.key
  let auth ← auth.advance sender.auth.key
  modify fun state =>
    { state.addReceiverChain config theirs receiver.chain with
      rootKey := some sender.root
      previousCounter := if length = 0 then 0 else length - 1
      senderChain := some { ratchetKey := fresh, chainKey := sender.chain }
      lastFingerprintHash := receivingHash
      fingerprintHash := Handshake.linkHash suite receivingHash fresh.publicKey
      authKey := auth }
  pure receiver.chain

/-- The current chain key for a ratchet key of the other side. -/
def receivingChainKey (theirs : PublicKey) : Step SessionState ChainKey := do
  match (← get).receiverChain? theirs with
  | some chain => pure chain.chainKey
  | none => ratchet suite config theirs

/-- The plaintext of a message of this session. The other side has then answered. -/
def decrypt (message : SignalMessage) : Step SessionState Bytes := do
  let state ← get
  if state.senderChain.isNone then throw (.invalidMessage .uninitializedSession)
  if message.version ≠ state.version then
    throw (.invalidMessage (.versionMismatch message.version state.version))
  let chain ← receivingChainKey suite config message.ratchetKey
  let keys ← messageKeys suite config message.ratchetKey chain message.counter
  let (ours, theirs) ← (← get).identities
  if !message.verifyMac suite config theirs ours keys.macKey.bytes then
    throw (.invalidMessage .badMac)
  let plaintext ← suite.openText config keys.cipherKey keys.vector.bytes message.ciphertext
    (SignalMessage.associatedData message.version message.ratchetKey message.counter)
  modify fun state => { state with pending := none }
  pure plaintext

end SessionState
end DoubleRatchet
