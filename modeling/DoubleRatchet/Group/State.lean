import DoubleRatchet.Group.Chain
import DoubleRatchet.Step

/-!
# Sender key states

One sender key: its chain, the key that its messages are signed with, and the keys of
messages that were skipped. Only the sender has the private half of the signing key.
-/

namespace DoubleRatchet

structure SenderKeyState where
  keyId : UInt32
  chainKey : SenderChainKey
  signingKey : PublicKey
  privateSigningKey : Option PrivateKey
  /-- Keys of skipped messages, oldest first. -/
  skipped : List SenderMessageKey := []
  deriving DecidableEq

namespace SenderKeyState

def codec : Codec SenderKeyState :=
  (Codec.word32.pair <| SenderChainKey.codec.pair <| PublicKey.codec.pair <|
    PrivateKey.codec.optional.pair SenderMessageKey.codec.list).map
    (fun (keyId, chainKey, signingKey, privateSigningKey, skipped) =>
      { keyId, chainKey, signingKey, privateSigningKey, skipped })
    fun state =>
      (state.keyId, state.chainKey, state.signingKey, state.privateSigningKey, state.skipped)

def requirePrivateKey (state : SenderKeyState) : Except Failure PrivateKey :=
  match state.privateSigningKey with
  | none => .error (.invalidKey (.noSigningKey state.keyId))
  | some key => .ok key

def hasMessageKey (state : SenderKeyState) (iteration : UInt32) : Bool :=
  state.skipped.any fun key => key.iteration = iteration

/-- Keeps a skipped key; above the limit the oldest keys go. -/
def cacheMessageKey (config : Config) (key : SenderMessageKey) (state : SenderKeyState) :
    SenderKeyState :=
  let skipped := state.skipped ++ [key]
  { state with skipped := skipped.drop (skipped.length - config.maxMessageKeys) }

/-- Keys can be taken out once. -/
def takeMessageKey (iteration : UInt32) : Step SenderKeyState (Option SenderMessageKey) := do
  let state ← get
  match state.skipped.find? fun key => key.iteration = iteration with
  | none => pure none
  | some key =>
      set { state with
        skipped := state.skipped.eraseP fun other => other.iteration = iteration }
      pure (some key)

variable (suite : Suite) (config : Config)

/-- Keeps the keys of the next `count` messages and moves past them. -/
def skip : (count : Nat) → SenderChainKey → Step SenderKeyState SenderChainKey
  | 0, chain => pure chain
  | count + 1, chain => do
      modify (cacheMessageKey config (chain.messageKey suite))
      let next ← chain.next suite
      skip count next

/-- The key of one iteration: a skipped one behind the chain, or one that the chain reaches
by moving forward. -/
def messageKey (iteration : UInt32) : Step SenderKeyState SenderMessageKey := do
  let chain := (← get).chainKey
  if iteration < chain.iteration then
    match ← takeMessageKey iteration with
    | some key => pure key
    | none => Step.refuse (.duplicateMessage chain.iteration iteration)
  else if config.maxForwardJumps < iteration - chain.iteration then
    throw (.invalidMessage (.tooFarAhead config.maxForwardJumps))
  else
    let reached ← skip suite config (iteration - chain.iteration).toNat chain
    let next ← reached.next suite
    modify fun state => { state with chainKey := next }
    pure (reached.messageKey suite)

end SenderKeyState
end DoubleRatchet
