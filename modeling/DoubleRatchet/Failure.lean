import DoubleRatchet.Address
import DoubleRatchet.Bytes
import DoubleRatchet.Fingerprint.PayloadError

/-!
# Failures

An operation ends in one of two ways other than success. A refusal is an answer:
it has a cause, and the causes are listed here with their wording. An abort is not
an answer: the operation stopped in the middle, and whatever it held locked cannot
be used again.
-/

namespace DoubleRatchet

/-- What is wrong with a key, a signature by a key, or the nonce for a key. -/
inductive KeyError where
  | publicLength (length : Nat)
  | keyType (type : UInt8)
  | privateLength (length : Nat)
  | nonContributory
  | nonceLength (length : Nat)
  | shortInitialVector (length : Nat)
  | identityMismatch
  | noSignedPreKey
  | signedPreKeySignature
  | noSigningKey (keyId : UInt32)
  | noAuthKeys
  deriving DecidableEq

def KeyError.text : KeyError → String
  | publicLength length => s!"Bad public key length: {length}"
  | keyType type => "Bad key type: 0x" ++ Bytes.toHex [type]
  | privateLength length => s!"Bad private key length: {length}"
  | nonContributory => "Non-contributory key agreement"
  | nonceLength length => s!"Unsupported nonce length: {length} (expected 12)"
  | shortInitialVector length => s!"IV too short: {length}"
  | identityMismatch => "Identity private key does not match public key"
  | noSignedPreKey => "No signed prekey"
  | signedPreKeySignature => "Invalid signature on signed prekey"
  | noSigningKey keyId => s!"No signing key for sender key {keyId}"
  | noAuthKeys => "empty auth key list"

/-- Why a byte string is not the written form of a record. -/
inductive DecodeError where
  | endOfInput
  /-- A byte string announces more bytes than are left. -/
  | longString
  | optionTag (tag : UInt8)
  | key (error : KeyError)
  deriving DecidableEq

def DecodeError.text : DecodeError → String
  | endOfInput => "io error: unexpected end of file"
  | longString => "io error: "
  | optionTag tag => s!"tag for enum is not valid, found {tag}"
  | key error => "Invalid key: " ++ error.text

inductive MessageError where
  | tooShort (length : Nat)
  | malformedBody (error : DecodeError)
  | chainKeyLength (length : Nat)
  | encryption
  | uninitializedSession
  | versionMismatch (message session : UInt8)
  | noReceiverChain
  | tooFarAhead (limit : UInt32)
  | badMac
  | badSignature
  | noValidSession
  /-- The receiver of a plaintext did not take it. -/
  | notTaken (reason : String)
  deriving DecidableEq

def MessageError.text : MessageError → String
  | tooShort length => s!"Message too short: {length} bytes"
  | malformedBody error => "Malformed message body: " ++ error.text
  | chainKeyLength length => s!"Bad sender chain key length: {length}"
  | encryption => "AEAD failure: aead::Error"
  | uninitializedSession => "Uninitialized session"
  | versionMismatch message session =>
      s!"Message version {message}, but session version {session}"
  | noReceiverChain => "no receiver chain for key"
  | tooFarAhead limit => s!"Over {limit} messages into the future"
  | badMac => "Bad MAC"
  | badSignature => "Bad sender key signature"
  | noValidSession => "No valid sessions"
  | notTaken reason => reason

/-- What a session operation needed and did not find. -/
inductive MissingSession where
  | peer (address : Address)
  | senderKey (name : SenderKeyName)
  | senderKeyState (keyId : UInt32)
  | anySenderKeyState
  | rootKey
  | senderChain
  | localIdentity
  | remoteIdentity
  deriving DecidableEq

def MissingSession.text : MissingSession → String
  | peer address => address.text
  | senderKey name => "no sender key for " ++ name.text
  | senderKeyState keyId => s!"no sender key state for key id {keyId}"
  | anySenderKeyState => "empty sender key record"
  | rootKey => "root key not set"
  | senderChain => "sender chain not set"
  | localIdentity => "local identity key not set"
  | remoteIdentity => "remote identity key not set"

inductive Error where
  | invalidKey (error : KeyError)
  | unknownKeyId (id : UInt32)
  | untrustedIdentity (address : Address)
  | duplicateMessage (chainIndex counter : UInt32)
  | invalidMessage (error : MessageError)
  | legacyMessage (version : UInt8)
  | invalidVersion (version : UInt8)
  | noSession (missing : MissingSession)
  | fingerprintVersion (theirs ours : UInt32)
  | fingerprintParsing (error : PayloadError)
  | keyDerivation
  | serialization (error : DecodeError)
  | lockPoisoned
  deriving DecidableEq

def Error.text : Error → String
  | invalidKey error => "Invalid key: " ++ error.text
  | unknownKeyId id => s!"No local key with id {id}"
  | untrustedIdentity address => "Untrusted identity key for " ++ address.text
  | duplicateMessage chainIndex counter =>
      s!"Duplicate message: chain index {chainIndex}, counter {counter}"
  | invalidMessage error => "Invalid message: " ++ error.text
  | legacyMessage version => s!"Legacy message version: {version}"
  | invalidVersion version => s!"Unsupported message version: {version}"
  | noSession missing => "No session for " ++ missing.text
  | fingerprintVersion theirs ours =>
      s!"Fingerprint version mismatch: theirs {theirs}, ours {ours}"
  | fingerprintParsing error => "Fingerprint parsing error: " ++ error.text
  | keyDerivation => "Key derivation failed: invalid number of blocks, too large output"
  | serialization error => "Serialization error: " ++ error.text
  | lockPoisoned => "Store lock poisoned"

inductive Abort where
  /-- A counter, an iteration or an epoch would pass its largest value. -/
  | overflow
  /-- Code called in the middle of the operation did not return. -/
  | interrupted (reason : String)
  deriving DecidableEq

def Abort.text : Abort → String
  | overflow => "attempt to add with overflow"
  | interrupted reason => reason

inductive Failure where
  | refused (error : Error)
  | aborted (abort : Abort)
  deriving DecidableEq

namespace Failure

def text : Failure → String
  | refused error => error.text
  | aborted abort => abort.text

def invalidKey (error : KeyError) : Failure :=
  .refused (.invalidKey error)

def invalidMessage (error : MessageError) : Failure :=
  .refused (.invalidMessage error)

def noSession (missing : MissingSession) : Failure :=
  .refused (.noSession missing)

end Failure

/-- Whatever is wrong with a key is a reason to refuse. -/
instance : MonadLift (Except KeyError) (Except Error) where
  monadLift result := result.mapError .invalidKey

/-- Reading ends in answers only; inside an operation its refusals are failures. -/
instance : MonadLift (Except Error) (Except Failure) where
  monadLift result := result.mapError .refused

/-- The next number of a counter. -/
def successor (count : UInt32) : Except Failure UInt32 :=
  if count = 0xffffffff then .error (.aborted .overflow) else .ok (count + 1)

end DoubleRatchet
