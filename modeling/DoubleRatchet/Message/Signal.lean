import DoubleRatchet.Message.Envelope
import DoubleRatchet.Suite

/-!
# Session messages

A message of a session names the ratchet key and the counter that lead to its keys.
Its trailer authenticates everything before it, under the identities of sender and
receiver in this order.
-/

namespace DoubleRatchet

structure SignalMessage where
  version : UInt8
  ratchetKey : PublicKey
  counter : UInt32
  previousCounter : UInt32
  ciphertext : Bytes
  /-- The whole message, as it was made or received. -/
  serialized : Bytes
  deriving DecidableEq

namespace SignalMessage

structure Body where
  ratchetKey : PublicKey
  counter : UInt32
  previousCounter : UInt32
  ciphertext : Bytes
  deriving DecidableEq

def Body.codec : Codec Body :=
  (PublicKey.codec.pair <| Codec.word32.pair <| Codec.word32.pair Codec.string).map
    (fun (ratchetKey, counter, previousCounter, ciphertext) =>
      { ratchetKey, counter, previousCounter, ciphertext })
    fun body => (body.ratchetKey, body.counter, body.previousCounter, body.ciphertext)

/-- A code is never longer than the full one. -/
def mac (suite : Suite) (config : Config) (key : Bytes) (sender receiver : PublicKey)
    (covered : Bytes) : Bytes :=
  (suite.tag key (sender.encode ++ receiver.encode ++ covered)).bytes.take config.macLength

def make (suite : Suite) (config : Config) (version : UInt8) (macKey : Bytes) (body : Body)
    (sender receiver : PublicKey) : SignalMessage :=
  let covered := Envelope.pack Body.codec version body
  { version := version
    ratchetKey := body.ratchetKey
    counter := body.counter
    previousCounter := body.previousCounter
    ciphertext := body.ciphertext
    serialized := covered ++ mac suite config macKey sender receiver covered }

def parse (config : Config) (data : Bytes) : Except Error SignalMessage := do
  let parts ← Envelope.split data config.macLength
  let body ← Envelope.readBody Body.codec parts.body
  pure
    { version := parts.version
      ratchetKey := body.ratchetKey
      counter := body.counter
      previousCounter := body.previousCounter
      ciphertext := body.ciphertext
      serialized := data }

/-- The subtraction is exact for a message that was read, which is longer than its code. With a
`macLength` over 32, a message that was made and never read can be shorter, and must not be checked. -/
def verifyMac (suite : Suite) (config : Config) (message : SignalMessage)
    (sender receiver : PublicKey) (macKey : Bytes) : Bool :=
  let length := message.serialized.length - config.macLength
  mac suite config macKey sender receiver (message.serialized.take length) ==
    message.serialized.drop length

/-- What the encryption of a message covers besides its text. -/
def associatedData (version : UInt8) (ratchetKey : PublicKey) (counter : UInt32) : Bytes :=
  Envelope.versionByte version :: ratchetKey.encode ++ Bytes.bigEndian 4 counter.toNat

end SignalMessage
end DoubleRatchet
