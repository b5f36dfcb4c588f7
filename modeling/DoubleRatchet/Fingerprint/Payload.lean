import DoubleRatchet.Failure

/-!
# Payloads of scanned fingerprints

A payload is a sequence of tagged fields. The reader takes fields in any order, lets
the last number win, merges repeated messages, and skips fields that it does not
know. A nested message announces its length, but its fields are read from the whole
input, and only then is its end compared with the announced one.
-/

namespace DoubleRatchet
namespace Payload

/-! ## Writing -/

/-- Seven bits a byte, lowest first; the top bit says that more follow. -/
def varint (value : Nat) : Bytes :=
  if _h : value < 128 then [UInt8.ofNat value]
  else UInt8.ofNat (value % 128 + 128) :: varint (value / 128)
termination_by value

def varintField (tag value : Nat) : Bytes :=
  varint (8 * tag) ++ varint value

def bytesField (tag : Nat) (value : Bytes) : Bytes :=
  varint (8 * tag + 2) ++ varint value.length ++ value

/-! ## Reading -/

/-- Reads on from byte number `place`. A value has at most 64 bits. -/
def readVarintFrom : (place : Nat) → Bytes → Except PayloadFault (Nat × Bytes)
  | _, [] => .error .varint
  | place, byte :: rest =>
      if place = 9 ∧ 2 ≤ byte then .error .varint
      else if byte < 128 then .ok (byte.toNat, rest)
      else do
        let (high, rest) ← readVarintFrom (place + 1) rest
        pure (byte.toNat - 128 + 128 * high, rest)

def readVarint (input : Bytes) : Except PayloadFault (Nat × Bytes) :=
  readVarintFrom 0 input

structure Key where
  tag : Nat
  wireType : WireType

def readKey (input : Bytes) : Except PayloadFault (Key × Bytes) := do
  let (value, rest) ← readVarint input
  if 0x100000000 ≤ value then throw (.keyValue value)
  match WireType.ofNat? (value % 8) with
  | none => throw (.wireTypeValue (value % 8))
  | some wireType =>
      if value / 8 = 0 then throw .zeroTag
      else pure ({ tag := value / 8, wireType := wireType }, rest)

def advance (count : Nat) (input : Bytes) : Except PayloadFault Bytes :=
  if input.length < count then .error .underflow else .ok (input.drop count)

/-- Skips the value of a field that is no group. -/
def skipValue (wireType : WireType) (input : Bytes) : Except PayloadFault Bytes :=
  match wireType with
  | .varint => (readVarint input).map Prod.snd
  | .thirtyTwoBit => advance 4 input
  | .sixtyFourBit => advance 8 input
  | .lengthDelimited => do
      let (length, rest) ← readVarint input
      advance length rest
  | .startGroup => .ok input
  | .endGroup => .error .endGroup

/-- Skips to the ends of all open groups, innermost first. The budget bounds how deeply fields
may be nested; every step reads a key, so the length of the input is enough steps. -/
def skipGroups : (steps budget : Nat) → (tags : List Nat) → Bytes → Except PayloadFault Bytes
  | _, _, [], input => .ok input
  | 0, _, _ :: _, _ => .error .varint
  | steps + 1, budget, tag :: outer, input => do
      let (key, rest) ← readKey input
      if key.wireType = .endGroup then
        if key.tag = tag then skipGroups steps (budget + 1) outer rest else throw .endGroup
      else if budget = 0 then throw .recursionLimit
      else if key.wireType = .startGroup then
        skipGroups steps (budget - 1) (key.tag :: tag :: outer) rest
      else
        let rest ← skipValue key.wireType rest
        skipGroups steps budget (tag :: outer) rest

def skipField (budget : Nat) (key : Key) (input : Bytes) : Except PayloadFault Bytes :=
  if budget = 0 then .error .recursionLimit
  else if key.wireType = .startGroup then
    skipGroups (input.length + 1) (budget - 1) [key.tag] input
  else skipValue key.wireType input

def expect (expected : WireType) (key : Key) : Except PayloadFault Unit :=
  if key.wireType = expected then .ok ()
  else .error (.wireType key.wireType expected)

def readBytes (key : Key) (input : Bytes) : Except PayloadFault (Bytes × Bytes) := do
  expect .lengthDelimited key
  let (length, rest) ← readVarint input
  let after ← advance length rest
  pure (rest.take length, after)

def outside {α : Type} (result : Except PayloadFault α) : Except PayloadError α :=
  result.mapError fun fault => { path := [], fault := fault }

def within {α : Type} (field : PayloadField) (result : Except PayloadError α) :
    Except PayloadError α :=
  result.mapError fun error => error.inField field

/-- How deeply fields may be nested. -/
def maxDepth : Nat := 100

/-! ## One side's digest -/

structure Logical where
  content : Option Bytes := none
  deriving DecidableEq

namespace Logical

def encode (logical : Logical) : Bytes :=
  match logical.content with
  | none => []
  | some content => bytesField 1 content

/-- Reads fields until no more than `limit` bytes are left. -/
def readFields : (steps limit : Nat) → Logical → Bytes → Except PayloadError (Logical × Bytes)
  | 0, _, _, _ => .error { path := [], fault := .varint }
  | steps + 1, limit, logical, input =>
      if input.length = limit then .ok (logical, input)
      else if input.length < limit then .error { path := [], fault := .lengthExceeded }
      else do
        let (key, rest) ← outside (readKey input)
        if key.tag = 1 then
          let (content, rest) ← within .content (outside (readBytes key rest))
          readFields steps limit { content := some content } rest
        else
          let rest ← outside (skipField (maxDepth - 1) key rest)
          readFields steps limit logical rest

/-- Reads a nested message into what earlier ones have left. -/
def merge (key : Key) (logical : Logical) (input : Bytes) :
    Except PayloadError (Logical × Bytes) := do
  outside (expect .lengthDelimited key)
  let (length, rest) ← outside (readVarint input)
  if rest.length < length then throw { path := [], fault := .underflow }
  readFields (rest.length + 1) (rest.length - length) logical rest

end Logical

/-! ## Both sides' digests -/

structure Combined where
  version : Option UInt32 := none
  localFingerprint : Option Logical := none
  remoteFingerprint : Option Logical := none
  deriving DecidableEq

namespace Combined

def encode (combined : Combined) : Bytes :=
  (match combined.version with
    | none => []
    | some version => varintField 1 version.toNat) ++
  (match combined.localFingerprint with
    | none => []
    | some logical => bytesField 2 logical.encode) ++
  (match combined.remoteFingerprint with
    | none => []
    | some logical => bytesField 3 logical.encode)

def readVersion (key : Key) (input : Bytes) : Except PayloadFault (UInt32 × Bytes) := do
  expect .varint key
  let (value, rest) ← readVarint input
  pure (UInt32.ofNat value, rest)

def readField (key : Key) (combined : Combined) (input : Bytes) :
    Except PayloadError (Combined × Bytes) := do
  if key.tag = 1 then
    let (version, rest) ← within .version (outside (readVersion key input))
    pure ({ combined with version := some version }, rest)
  else if key.tag = 2 then
    let (logical, rest) ← within .localFingerprint
      (Logical.merge key (combined.localFingerprint.getD {}) input)
    pure ({ combined with localFingerprint := some logical }, rest)
  else if key.tag = 3 then
    let (logical, rest) ← within .remoteFingerprint
      (Logical.merge key (combined.remoteFingerprint.getD {}) input)
    pure ({ combined with remoteFingerprint := some logical }, rest)
  else
    let rest ← outside (skipField maxDepth key input)
    pure (combined, rest)

def readFields : (steps : Nat) → Combined → Bytes → Except PayloadError Combined
  | _, combined, [] => .ok combined
  | 0, _, _ :: _ => .error { path := [], fault := .varint }
  | steps + 1, combined, byte :: rest => do
      let (key, rest) ← outside (readKey (byte :: rest))
      let (combined, rest) ← readField key combined rest
      readFields steps combined rest

/-- Every field has a key, so the length of the input is enough steps. -/
def decode (input : Bytes) : Except PayloadError Combined :=
  readFields input.length {} input

end Combined
end Payload
end DoubleRatchet
