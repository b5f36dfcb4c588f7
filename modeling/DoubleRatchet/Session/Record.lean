import DoubleRatchet.Session.Receive

/-!
# Session records

All sessions with one address: the current one and an archive of earlier ones,
newest first. Messages of an archived session may still be on their way, so a message
is tried on every state, the current one first; the state that it belongs to becomes
the current one.
-/

namespace DoubleRatchet

structure SessionRecord where
  current : SessionState := {}
  archived : List SessionState := []
  deriving DecidableEq

namespace SessionRecord

def codec : Codec SessionRecord :=
  (SessionState.codec.pair SessionState.codec.list).map
    (fun (current, archived) => { current, archived })
    fun record => (record.current, record.archived)

def ofState (state : SessionState) : SessionRecord :=
  { current := state }

def isFresh (record : SessionRecord) : Bool :=
  !record.current.isInitialized

def states (record : SessionRecord) : List SessionState :=
  record.current :: record.archived

/-- Whether a session of this version was begun with this base key. -/
def hasSession (record : SessionRecord) (version : UInt8) (baseKey : PublicKey) : Bool :=
  record.states.any fun state =>
    state.version == version && state.initiatorBaseKey == some baseKey

/-- Makes a state the current one; the one before it leads the archive. -/
def promote (config : Config) (state : SessionState) (record : SessionRecord) : SessionRecord :=
  { current := state
    archived := (record.current :: record.archived).take config.maxArchivedStates }

/-- Leaves room for a new session. -/
def archiveCurrent (config : Config) (record : SessionRecord) : SessionRecord :=
  record.promote config {}

/-- Takes a state out of the archive and makes its new value the current one. -/
def promoteArchived (config : Config) (index : Nat) (state : SessionState)
    (record : SessionRecord) : SessionRecord :=
  { record with archived := record.archived.eraseIdx index }.promote config state

def setCurrent (state : SessionState) (record : SessionRecord) : SessionRecord :=
  { record with current := state }

def removeArchived (record : SessionRecord) : SessionRecord :=
  { record with archived := [] }

/-- A duplicate is the answer of the session that a message belongs to, and an abort ends
everything; any other failure leaves the message to the next state. -/
def isFinal : Failure → Bool
  | .refused (.duplicateMessage _ _) => true
  | .refused _ => false
  | .aborted _ => true

/-- What a state that answered a message has to say: its position, itself afterwards, and
the plaintext. -/
structure Answer where
  index : Nat
  state : SessionState
  plaintext : Bytes

variable (suite : Suite) (config : Config)

/-- The first answer, each state being tried on its own. -/
def firstAnswer (message : SignalMessage) : Nat → List SessionState → Draw (Except Failure Answer)
  | _, [] => pure (.error (.invalidMessage .noValidSession))
  | index, state :: rest => fun random =>
      match SessionState.decrypt suite config message state random with
      | ⟨.ok plaintext, state, random⟩ => (.ok { index, state, plaintext }, random)
      | ⟨.error failure, _, random⟩ =>
          if isFinal failure then (.error failure, random)
          else firstAnswer message (index + 1) rest random

def decrypt (message : SignalMessage) : Step SessionRecord Bytes := do
  let record ← get
  let answer ← firstAnswer suite config message 0 record.states
  match ← (answer : Except Failure Answer) with
  | { index := 0, state, plaintext } =>
      set (record.setCurrent state)
      pure plaintext
  | { index := position + 1, state, plaintext } =>
      set (record.promoteArchived config position state)
      pure plaintext

end SessionRecord
end DoubleRatchet
