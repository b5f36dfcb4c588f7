import DoubleRatchet.Group.State

/-!
# Sender key records

The sender keys of one sender in one group, newest first. A key received from
another device joins the ones that are there; a key of our own replaces them.
-/

namespace DoubleRatchet

structure SenderKeyRecord where
  states : List SenderKeyState := []
  deriving DecidableEq

namespace SenderKeyRecord

def codec : Codec SenderKeyRecord :=
  SenderKeyState.codec.list.map (fun states => { states }) SenderKeyRecord.states

def isEmpty (record : SenderKeyRecord) : Bool :=
  record.states.isEmpty

def newest (record : SenderKeyRecord) : Except Failure SenderKeyState :=
  match record.states with
  | [] => .error (.noSession .anySenderKeyState)
  | state :: _ => .ok state

/-- The newest state of a key id. -/
def withId (record : SenderKeyRecord) (keyId : UInt32) : Except Failure SenderKeyState :=
  match record.states.find? fun state => state.keyId = keyId with
  | none => .error (.noSession (.senderKeyState keyId))
  | some state => .ok state

def replaceFirst (state : SenderKeyState) : List SenderKeyState → List SenderKeyState
  | [] => []
  | first :: rest =>
      if first.keyId = state.keyId then state :: rest else first :: replaceFirst state rest

/-- Replaces the newest state of the same key id. -/
def update (state : SenderKeyState) (record : SenderKeyRecord) : SenderKeyRecord :=
  { states := replaceFirst state record.states }

/-- A key received from another device comes without its private half. -/
def add (config : Config) (keyId iteration : UInt32) (chainKey : Block 32)
    (signingKey : PublicKey) (record : SenderKeyRecord) : SenderKeyRecord :=
  let state : SenderKeyState :=
    { keyId := keyId
      chainKey := { iteration := iteration, seed := chainKey }
      signingKey := signingKey
      privateSigningKey := none }
  { states := (state :: record.states).take config.maxSenderKeyStates }

/-- A record of our own key alone. -/
def own (keyId iteration : UInt32) (chainKey : Block 32) (signingKey : KeyPair) :
    SenderKeyRecord :=
  { states :=
      [{ keyId := keyId
         chainKey := { iteration := iteration, seed := chainKey }
         signingKey := signingKey.publicKey
         privateSigningKey := some signingKey.privateKey }] }

end SenderKeyRecord
end DoubleRatchet
