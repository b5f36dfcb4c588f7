/-!
# Configuration

The limits and lengths of a process. They have defaults, four of them can be
overridden by environment variables, and a process chooses them once.
-/

namespace DoubleRatchet

structure Config where
  /-- Skipped keys kept for one chain. -/
  maxMessageKeys : Nat := 2000
  /-- How far a counter may be ahead of its chain. -/
  maxForwardJumps : UInt32 := 2000
  /-- Receiver chains kept in one session state. -/
  maxReceiverChains : Nat := 5
  /-- Archived states kept in one session record. -/
  maxArchivedStates : Nat := 40
  /-- States kept in one sender key record. -/
  maxSenderKeyStates : Nat := 5
  fingerprintIterations : UInt32 := 5200
  fingerprintVersion : UInt32 := 1
  nonceLength : Nat := 12
  /-- Bytes of the authentication code that end a message. -/
  macLength : Nat := 8
  deriving DecidableEq

namespace Config

/-- Decimal digits, at least one, with an optional plus sign in front; a value above `limit` is
none. -/
def readNumber (limit : Nat) (text : String) : Option Nat :=
  let digits := match text.toList with
    | '+' :: rest => rest
    | all => all
  if digits.isEmpty || !digits.all Char.isDigit then none
  else
    let value := digits.foldl (fun value digit => 10 * value + (digit.toNat - 48)) 0
    if value ≤ limit then some value else none

/-- Variables that are missing or are no numbers leave the default. -/
def ofEnvironment (lookup : String → Option String) : Config :=
  let number (name : String) (limit : Nat) : Option Nat :=
    (lookup name).bind (readNumber limit)
  let word := 0xffffffff
  let size := 0xffffffffffffffff
  let default : Config := {}
  { default with
    maxMessageKeys := (number "MAX_MESSAGE_KEYS" size).getD default.maxMessageKeys
    maxForwardJumps :=
      ((number "MAX_FORWARD_JUMPS" word).map UInt32.ofNat).getD default.maxForwardJumps
    maxArchivedStates :=
      (number "ARCHIVED_STATES_MAX_LENGTH" size).getD default.maxArchivedStates
    fingerprintIterations :=
      ((number "FINGERPRINT_ITERATIONS" word).map UInt32.ofNat).getD
        default.fingerprintIterations }

/-- The place of a process's configuration. -/
structure Slot where
  chosen : Option Config := none

namespace Slot

def alreadyChosen : String := "Config already initialized"

/-- Only an empty slot takes a configuration. -/
def choose (slot : Slot) (config : Config) : Except String Slot :=
  match slot.chosen with
  | some _ => .error alreadyChosen
  | none => .ok { chosen := some config }

/-- Reading an empty slot settles it on the defaults. -/
def current (slot : Slot) : Config :=
  slot.chosen.getD {}

end Slot
end Config
end DoubleRatchet
