import DoubleRatchet.RootKey
import DoubleRatchet.Step

/-!
# Session states

What one party keeps of one session between messages: the root key, one sending
chain, the receiving chains of the latest ratchet keys of the other side, each with
the keys of messages that were skipped, and what fingerprints are made of.
-/

namespace DoubleRatchet

structure SenderChain where
  ratchetKey : KeyPair
  chainKey : ChainKey
  deriving DecidableEq

def SenderChain.codec : Codec SenderChain :=
  (KeyPair.codec.pair ChainKey.codec).map (fun (ratchetKey, chainKey) =>
    { ratchetKey, chainKey }) fun chain => (chain.ratchetKey, chain.chainKey)

structure ReceiverChain where
  ratchetKey : PublicKey
  chainKey : ChainKey
  /-- Keys of skipped messages, oldest first. -/
  skipped : List MessageKeys := []
  deriving DecidableEq

namespace ReceiverChain

def codec : Codec ReceiverChain :=
  (PublicKey.codec.pair <| ChainKey.codec.pair MessageKeys.codec.list).map
    (fun (ratchetKey, chainKey, skipped) => { ratchetKey, chainKey, skipped })
    fun chain => (chain.ratchetKey, chain.chainKey, chain.skipped)

/-- Keeps the keys of a skipped message; above the limit the oldest keys go. -/
def cache (config : Config) (keys : MessageKeys) (chain : ReceiverChain) : ReceiverChain :=
  let skipped := chain.skipped ++ [keys]
  { chain with skipped := skipped.drop (skipped.length - config.maxMessageKeys) }

def cached? (chain : ReceiverChain) (counter : UInt32) : Option MessageKeys :=
  chain.skipped.find? fun keys => keys.counter = counter

/-- Without the first keys of a counter. -/
def uncache (counter : UInt32) (chain : ReceiverChain) : ReceiverChain :=
  { chain with skipped := chain.skipped.eraseP fun keys => keys.counter = counter }

/-- Changes the first chain of a ratchet key, if there is one. -/
def changeFirst (key : PublicKey) (change : ReceiverChain → ReceiverChain) :
    List ReceiverChain → Option (List ReceiverChain)
  | [] => none
  | chain :: rest =>
      if chain.ratchetKey = key then some (change chain :: rest)
      else (changeFirst key change rest).map (chain :: ·)

end ReceiverChain

/-- What every message announces until the other side has answered. -/
structure PendingPreKey where
  preKeyId : Option UInt32
  signedPreKeyId : UInt32
  baseKey : PublicKey
  deriving DecidableEq

def PendingPreKey.codec : Codec PendingPreKey :=
  (Codec.word32.optional.pair <| Codec.word32.pair PublicKey.codec).map
    (fun (preKeyId, signedPreKeyId, baseKey) => { preKeyId, signedPreKeyId, baseKey })
    fun pending => (pending.preKeyId, pending.signedPreKeyId, pending.baseKey)

structure SessionState where
  version : UInt8 := 0
  localIdentity : Option PublicKey := none
  remoteIdentity : Option PublicKey := none
  rootKey : Option RootKey := none
  /-- The length of the previous sending chain, less one. -/
  previousCounter : UInt32 := 0
  senderChain : Option SenderChain := none
  /-- Oldest first. -/
  receiverChains : List ReceiverChain := []
  pending : Option PendingPreKey := none
  remoteRegistrationId : UInt32 := 0
  localRegistrationId : UInt32 := 0
  /-- The base key of the side that began the session. -/
  initiatorBaseKey : Option PublicKey := none
  authKey : AuthKey := AuthKey.empty
  fingerprintHash : Bytes := []
  lastFingerprintHash : Bytes := []
  deriving DecidableEq

namespace SessionState

def codec : Codec SessionState :=
  (Codec.byte.pair <| PublicKey.codec.optional.pair <| PublicKey.codec.optional.pair <|
    RootKey.codec.optional.pair <| Codec.word32.pair <| SenderChain.codec.optional.pair <|
    ReceiverChain.codec.list.pair <| PendingPreKey.codec.optional.pair <| Codec.word32.pair <|
    Codec.word32.pair <| PublicKey.codec.optional.pair <| AuthKey.codec.pair <|
    Codec.string.pair Codec.string).map
    (fun (version, localIdentity, remoteIdentity, rootKey, previousCounter, senderChain,
        receiverChains, pending, remoteRegistrationId, localRegistrationId, initiatorBaseKey,
        authKey, fingerprintHash, lastFingerprintHash) =>
      { version, localIdentity, remoteIdentity, rootKey, previousCounter, senderChain,
        receiverChains, pending, remoteRegistrationId, localRegistrationId, initiatorBaseKey,
        authKey, fingerprintHash, lastFingerprintHash })
    fun state =>
      (state.version, state.localIdentity, state.remoteIdentity, state.rootKey,
        state.previousCounter, state.senderChain, state.receiverChains, state.pending,
        state.remoteRegistrationId, state.localRegistrationId, state.initiatorBaseKey,
        state.authKey, state.fingerprintHash, state.lastFingerprintHash)

/-- A state without a root key has not been part of a handshake. -/
def isInitialized (state : SessionState) : Bool :=
  state.rootKey.isSome

def requireRootKey (state : SessionState) : Except Failure RootKey :=
  match state.rootKey with
  | none => .error (.noSession .rootKey)
  | some root => .ok root

def requireSenderChain (state : SessionState) : Except Failure SenderChain :=
  match state.senderChain with
  | none => .error (.noSession .senderChain)
  | some chain => .ok chain

/-- Our identity key and theirs. -/
def identities (state : SessionState) : Except Failure (PublicKey × PublicKey) :=
  match state.localIdentity, state.remoteIdentity with
  | none, _ => .error (.noSession .localIdentity)
  | some _, none => .error (.noSession .remoteIdentity)
  | some ours, some theirs => .ok (ours, theirs)

def receiverChain? (state : SessionState) (key : PublicKey) : Option ReceiverChain :=
  state.receiverChains.find? fun chain => chain.ratchetKey = key

/-- Adds the newest chain; above the limit the oldest chains go. -/
def addReceiverChain (config : Config) (key : PublicKey) (chain : ChainKey)
    (state : SessionState) : SessionState :=
  let chains := state.receiverChains ++ [{ ratchetKey := key, chainKey := chain }]
  { state with receiverChains := chains.drop (chains.length - config.maxReceiverChains) }

def hasMessageKeys (state : SessionState) (key : PublicKey) (counter : UInt32) : Bool :=
  ((state.receiverChain? key).bind (·.cached? counter)).isSome

/-! ## Changes in place -/

def setSenderChainKey (chainKey : ChainKey) : Step SessionState Unit := do
  let chain ← requireSenderChain (← get)
  modify fun state => { state with senderChain := some { chain with chainKey := chainKey } }

/-- Refused if there is no chain of that key. -/
def changeReceiverChain (key : PublicKey) (change : ReceiverChain → ReceiverChain) :
    Step SessionState Unit := do
  let state ← get
  match ReceiverChain.changeFirst key change state.receiverChains with
  | none => throw (.invalidMessage .noReceiverChain)
  | some chains => set { state with receiverChains := chains }

def setReceiverChainKey (key : PublicKey) (chainKey : ChainKey) : Step SessionState Unit :=
  changeReceiverChain key fun chain => { chain with chainKey := chainKey }

def cacheMessageKeys (config : Config) (key : PublicKey) (keys : MessageKeys) :
    Step SessionState Unit :=
  changeReceiverChain key (ReceiverChain.cache config keys)

/-- Keys can be taken out once. -/
def takeMessageKeys (key : PublicKey) (counter : UInt32) :
    Step SessionState (Option MessageKeys) := do
  match ((← get).receiverChain? key).bind (·.cached? counter) with
  | none => pure none
  | some keys =>
      changeReceiverChain key (ReceiverChain.uncache counter)
      pure (some keys)

end SessionState
end DoubleRatchet
