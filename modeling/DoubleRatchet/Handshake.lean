import DoubleRatchet.Message.Envelope
import DoubleRatchet.Session.State

/-!
# Handshakes

Two sides agree on a first secret from identity, base and prekeys. The initiator
knows the responder's keys from a bundle and also takes the first step of the root
key; the responder learns the initiator's keys from the first message. When both
sides have exchanged base keys, the order of these keys decides who takes which
role. Alongside, a chain of hashes grows by one link for every ratchet key in use.
-/

namespace DoubleRatchet
namespace Handshake

structure Initiator where
  ourIdentity : KeyPair
  ourBase : KeyPair
  theirIdentity : PublicKey
  theirSignedPreKey : PublicKey
  theirOneTimePreKey : Option PublicKey
  theirRatchet : PublicKey

structure Responder where
  ourIdentity : KeyPair
  ourSignedPreKey : KeyPair
  ourOneTimePreKey : Option KeyPair
  ourRatchet : KeyPair
  theirIdentity : PublicKey
  theirBase : PublicKey

structure Symmetric where
  ourIdentity : KeyPair
  ourBase : KeyPair
  ourRatchet : KeyPair
  theirIdentity : PublicKey
  theirBase : PublicKey
  theirRatchet : PublicKey

def info : Bytes := Bytes.ofText "WhisperText"

/-- Stands in front of the agreements and is no agreement itself. -/
def discontinuity : Bytes := List.replicate 32 0xff

variable (suite : Suite)

/-- The agreements of the initiator, with the one-time prekey last if there is one. -/
def Initiator.secret (keys : Initiator) : Except Failure Bytes := do
  let first ← keys.ourIdentity.agreement suite keys.theirSignedPreKey
  let second ← keys.ourBase.agreement suite keys.theirIdentity
  let third ← keys.ourBase.agreement suite keys.theirSignedPreKey
  let last ← match keys.theirOneTimePreKey with
    | none => pure []
    | some key => Block.bytes <$> keys.ourBase.agreement suite key
  pure (discontinuity ++ first.bytes ++ second.bytes ++ third.bytes ++ last)

/-- The same agreements, seen from the responder. -/
def Responder.secret (keys : Responder) : Except Failure Bytes := do
  let first ← keys.ourSignedPreKey.agreement suite keys.theirIdentity
  let second ← keys.ourIdentity.agreement suite keys.theirBase
  let third ← keys.ourSignedPreKey.agreement suite keys.theirBase
  let last ← match keys.ourOneTimePreKey with
    | none => pure []
    | some pair => Block.bytes <$> pair.agreement suite keys.theirBase
  pure (discontinuity ++ first.bytes ++ second.bytes ++ third.bytes ++ last)

/-- The first keys of a session; `last` is the authentication key that they replace. -/
def firstStep (secret last : Bytes) : RootStep :=
  let secrets := RootSecrets.split (suite.derive secret none info 96)
  { root := ⟨secrets.root⟩
    chain := { key := secrets.chain, index := 0 }
    auth := { key := secrets.auth.bytes, lastKey := last, epoch := 0 } }

/-- The prekeys of the responder, then the identities, the initiator's first. -/
def initialHash (signedPreKey : PublicKey) (oneTimePreKey : Option PublicKey)
    (initiator responder : PublicKey) : Bytes :=
  let oneTime := match oneTimePreKey with
    | none => []
    | some key => key.encode
  (suite.hash (signedPreKey.encode ++ oneTime ++ initiator.encode ++ responder.encode)).bytes

/-- The next link of the hash chain. -/
def linkHash (hash : Bytes) (key : PublicKey) : Bytes :=
  (suite.hash (hash ++ key.encode)).bytes

/-- Starts a session: one receiving chain, and a sending chain under a fresh ratchet key. -/
def Initiator.establish (config : Config) (keys : Initiator) : Step SessionState Unit := do
  let secret ← keys.secret suite
  let first := firstStep suite secret (← get).authKey.key
  let ratchet ← KeyPair.generate suite
  let second ← first.root.step suite keys.theirRatchet ratchet
  let initial := initialHash suite keys.theirSignedPreKey keys.theirOneTimePreKey
    keys.ourIdentity.publicKey keys.theirIdentity
  let last := linkHash suite initial keys.theirRatchet
  modify fun state =>
    { state.addReceiverChain config keys.theirRatchet first.chain with
      version := Envelope.currentVersion
      remoteIdentity := some keys.theirIdentity
      localIdentity := some keys.ourIdentity.publicKey
      senderChain := some { ratchetKey := ratchet, chainKey := second.chain }
      rootKey := some second.root
      authKey := first.auth
      lastFingerprintHash := last
      fingerprintHash := linkHash suite last ratchet.publicKey }

/-- Joins a session: one sending chain, under the ratchet key that the initiator knows. -/
def Responder.establish (keys : Responder) : Step SessionState Unit := do
  let secret ← keys.secret suite
  let first := firstStep suite secret (← get).authKey.key
  let initial := initialHash suite keys.ourSignedPreKey.publicKey
    (keys.ourOneTimePreKey.map KeyPair.publicKey) keys.theirIdentity keys.ourIdentity.publicKey
  modify fun state =>
    { state with
      version := Envelope.currentVersion
      remoteIdentity := some keys.theirIdentity
      localIdentity := some keys.ourIdentity.publicKey
      senderChain := some { ratchetKey := keys.ourRatchet, chainKey := first.chain }
      rootKey := some first.root
      authKey := first.auth
      lastFingerprintHash := initial
      fingerprintHash := linkHash suite initial keys.ourRatchet.publicKey }

namespace Symmetric

/-- The side with the smaller base key is the initiator. -/
def isInitiator (keys : Symmetric) : Bool :=
  keys.ourBase.publicKey < keys.theirBase

/-- The other side's base key serves as its signed prekey. -/
def asInitiator (keys : Symmetric) : Initiator :=
  { ourIdentity := keys.ourIdentity
    ourBase := keys.ourBase
    theirIdentity := keys.theirIdentity
    theirSignedPreKey := keys.theirBase
    theirOneTimePreKey := none
    theirRatchet := keys.theirRatchet }

/-- Our base key serves as our signed prekey. -/
def asResponder (keys : Symmetric) : Responder :=
  { ourIdentity := keys.ourIdentity
    ourSignedPreKey := keys.ourBase
    ourOneTimePreKey := none
    ourRatchet := keys.ourRatchet
    theirIdentity := keys.theirIdentity
    theirBase := keys.theirBase }

def establish (config : Config) (keys : Symmetric) : Step SessionState Unit :=
  if keys.isInitiator then keys.asInitiator.establish suite config
  else keys.asResponder.establish suite

end Symmetric
end Handshake
end DoubleRatchet
