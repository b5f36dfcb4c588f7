/-!
# Refusals of a scanned payload

What can be wrong with the tagged fields of a scanned fingerprint, and where.
-/

namespace DoubleRatchet

/-- How the value of a field is delimited. -/
inductive WireType where
  | varint
  | sixtyFourBit
  | lengthDelimited
  | startGroup
  | endGroup
  | thirtyTwoBit
  deriving DecidableEq

namespace WireType

def ofNat? : Nat → Option WireType
  | 0 => some varint
  | 1 => some sixtyFourBit
  | 2 => some lengthDelimited
  | 3 => some startGroup
  | 4 => some endGroup
  | 5 => some thirtyTwoBit
  | _ => none

def text : WireType → String
  | varint => "Varint"
  | sixtyFourBit => "SixtyFourBit"
  | lengthDelimited => "LengthDelimited"
  | startGroup => "StartGroup"
  | endGroup => "EndGroup"
  | thirtyTwoBit => "ThirtyTwoBit"

end WireType

inductive PayloadFault where
  | varint
  | keyValue (value : Nat)
  | wireTypeValue (value : Nat)
  | zeroTag
  | wireType (actual expected : WireType)
  | underflow
  | lengthExceeded
  | endGroup
  | recursionLimit
  deriving DecidableEq

def PayloadFault.text : PayloadFault → String
  | varint => "invalid varint"
  | keyValue value => s!"invalid key value: {value}"
  | wireTypeValue value => s!"invalid wire type value: {value}"
  | zeroTag => "invalid tag value: 0"
  | wireType actual expected =>
      "invalid wire type: " ++ actual.text ++ " (expected " ++ expected.text ++ ")"
  | underflow => "buffer underflow"
  | lengthExceeded => "delimited length exceeded"
  | endGroup => "unexpected end group tag"
  | recursionLimit => "recursion limit reached"

/-- A known field, named with the message that it belongs to. -/
inductive PayloadField where
  | content
  | version
  | localFingerprint
  | remoteFingerprint
  deriving DecidableEq

def PayloadField.text : PayloadField → String
  | content => "LogicalFingerprint.content"
  | version => "CombinedFingerprints.version"
  | localFingerprint => "CombinedFingerprints.local_fingerprint"
  | remoteFingerprint => "CombinedFingerprints.remote_fingerprint"

/-- A fault and the fields around it, innermost first. -/
structure PayloadError where
  path : List PayloadField
  fault : PayloadFault
  deriving DecidableEq

namespace PayloadError

def inField (field : PayloadField) (error : PayloadError) : PayloadError :=
  { error with path := error.path ++ [field] }

def text (error : PayloadError) : String :=
  "failed to decode Protobuf message: " ++
    String.join (error.path.map fun field => field.text ++ ": ") ++ error.fault.text

end PayloadError
end DoubleRatchet
