import DoubleRatchet.Codec

/-!
# Written forms of addresses

Names are written as byte strings in UTF-8.
-/

namespace DoubleRatchet

def Address.encode (address : Address) : Bytes :=
  Codec.string.encode (Bytes.ofText address.name) ++ Codec.word32.encode address.device

def SenderKeyName.encode (name : SenderKeyName) : Bytes :=
  Codec.string.encode (Bytes.ofText name.group) ++ name.sender.encode

end DoubleRatchet
