import DoubleRatchet.Codec

/-!
# The outer form of messages

A message is a version byte, a body and a trailer of a known length: an
authentication code, a signature or nothing. The high half of the version byte is
the version of the message, the low half the version of its sender.
-/

namespace DoubleRatchet
namespace Envelope

def currentVersion : UInt8 := 3

def versionByte (version : UInt8) : UInt8 :=
  (version <<< 4) ||| currentVersion

/-- Only messages of the current version are read. -/
def checkVersion (byte : UInt8) : Except Error UInt8 :=
  let version := byte >>> 4
  if version < currentVersion then .error (.legacyMessage version)
  else if version > currentVersion then .error (.invalidVersion version)
  else .ok version

def pack {α : Type} (codec : Codec α) (version : UInt8) (body : α) : Bytes :=
  versionByte version :: codec.encode body

structure Parts where
  version : UInt8
  body : Bytes
  trailer : Bytes

/-- A message is longer than its trailer. -/
def split (data : Bytes) (trailerLength : Nat) : Except Error Parts :=
  match data with
  | [] => .error (.invalidMessage (.tooShort 0))
  | first :: rest =>
      if data.length ≤ trailerLength then .error (.invalidMessage (.tooShort data.length))
      else do
        let version ← checkVersion first
        let bodyLength := rest.length - trailerLength
        pure { version := version, body := rest.take bodyLength, trailer := rest.drop bodyLength }

/-- What follows a body inside the same part of a message is ignored. -/
def readBody {α : Type} (codec : Codec α) (body : Bytes) : Except Error α :=
  (codec.decodeFront body).mapError fun error => .invalidMessage (.malformedBody error)

end Envelope
end DoubleRatchet
