import DoubleRatchet.Fingerprint.Payload
import DoubleRatchet.RootKey

/-!
# Fingerprints

Two parties compare fingerprints outside the protocol to make sure that they talk to
each other. A fingerprint is made of the authentication keys of both sides and of
what their session has hashed so far: digits to read aloud, the same for both, and a
payload to scan, in which the two sides are swapped.
-/

namespace DoubleRatchet

structure Fingerprint where
  version : UInt32
  localDigest : Block 32
  remoteDigest : Block 32
  deriving DecidableEq

namespace Fingerprint

/-! ## Digests -/

/-- Mixed into every digest. -/
def digestVersion : Bytes := Bytes.bigEndian 2 0

/-- Hashing is repeated to make the search for colliding keys slow. -/
def digest (suite : Suite) (iterations : UInt32) (key chainedHash : Bytes) : Block 32 :=
  let start := key ++ chainedHash ++ digestVersion
  suite.tag key (Nat.repeat (fun hash => (suite.hash (hash ++ key)).bytes) iterations.toNat start)

variable (suite : Suite) (iterations : UInt32)

/-- The fingerprint of one key a side, of the current or of the last epoch. -/
def create (version : UInt32) (ours theirs : AuthKey) (chainedHash : Bytes)
    (useLastEpoch : Bool) : Fingerprint :=
  let key (auth : AuthKey) : Bytes := if useLastEpoch then auth.lastKey else auth.key
  { version := version
    localDigest := digest suite iterations (key ours) chainedHash
    remoteDigest := digest suite iterations (key theirs) chainedHash }

/-- The key of a side with several devices: the largest one, and of equal ones the last. -/
def canonical : List AuthKey → Except Error AuthKey
  | [] => .error (.invalidKey .noAuthKeys)
  | first :: rest =>
      .ok (rest.foldl (fun best auth => if auth.key < best.key then best else auth) first)

def createForList (version : UInt32) (ours theirs : List AuthKey) (chainedHash : Bytes)
    (useLastEpoch : Bool) : Except Error Fingerprint := do
  let ours ← canonical ours
  let theirs ← canonical theirs
  pure (create suite iterations version ours theirs chainedHash useLastEpoch)

/-! ## Digits -/

/-- Five digits for five bytes. -/
def digits (bytes : Bytes) : String :=
  let text := toString (Bytes.ofBigEndian bytes % 100000)
  String.ofList (List.replicate (5 - text.length) '0') ++ text

/-- Thirty digits for the first thirty bytes. -/
def displaySide (digest : Block 32) : String :=
  String.join ((Bytes.pieces 5 (digest.bytes.take 30)).map digits)

/-- Both sides, the smaller one first. -/
def display (fingerprint : Fingerprint) : String :=
  let ours := displaySide fingerprint.localDigest
  let theirs := displaySide fingerprint.remoteDigest
  if theirs < ours then theirs ++ ours else ours ++ theirs

/-! ## Scanning -/

def scannable (fingerprint : Fingerprint) : Bytes :=
  Payload.Combined.encode
    { version := some fingerprint.version
      localFingerprint := some { content := some fingerprint.localDigest.bytes }
      remoteFingerprint := some { content := some fingerprint.remoteDigest.bytes } }

/-- The payload of older clients, which has our digest alone. -/
def legacy (fingerprint : Fingerprint) : Bytes :=
  Payload.varintField 1 fingerprint.version.toNat ++
    Payload.bytesField 2 fingerprint.localDigest.bytes

/-- Whether a scanned payload is ours with the sides swapped. A payload of another version, or
without a local side, cannot be compared. -/
def compareTo (fingerprint : Fingerprint) (scanned : Bytes) : Except Error Bool := do
  let scanned ← (Payload.Combined.decode scanned).mapError Error.fingerprintParsing
  let mismatch := Error.fingerprintVersion (scanned.version.getD 0) fingerprint.version
  match scanned.version, scanned.localFingerprint with
  | some version, some theirs =>
      if version ≠ fingerprint.version then throw mismatch
      else
        let theirRemote := (scanned.remoteFingerprint.bind (·.content)).getD []
        let theirLocal := theirs.content.getD []
        pure (fingerprint.localDigest.bytes == theirRemote &&
          fingerprint.remoteDigest.bytes == theirLocal)
  | _, _ => throw mismatch

end Fingerprint
end DoubleRatchet
