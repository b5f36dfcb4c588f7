/-!
# Addresses

A device is addressed by its owner's name and a number. A sender key belongs to one
sending device in one group.
-/

namespace DoubleRatchet

structure Address where
  name : String
  device : UInt32
  deriving DecidableEq

namespace Address

def text (address : Address) : String :=
  address.name ++ "." ++ toString address.device.toNat

/-- Names first, by code points, then device numbers. -/
instance : Ord Address where
  compare left right :=
    (compare left.name right.name).then (compare left.device right.device)

instance : Std.TransOrd Address :=
  inferInstanceAs (Std.TransCmp (compareLex (compareOn Address.name) (compareOn Address.device)))

instance : Std.LawfulEqOrd Address where
  compare_self := Std.ReflCmp.compare_self
  eq_of_compare {left right} equal := by
    have ⟨names, devices⟩ := Ordering.then_eq_eq.mp equal
    cases left
    cases right
    exact congr (congrArg mk (Std.LawfulEqCmp.eq_of_compare names))
      (Std.LawfulEqCmp.eq_of_compare devices)

end Address

structure SenderKeyName where
  group : String
  sender : Address
  deriving DecidableEq

namespace SenderKeyName

def text (name : SenderKeyName) : String :=
  name.group ++ "::" ++ name.sender.text

instance : Ord SenderKeyName where
  compare left right :=
    (compare left.group right.group).then (compare left.sender right.sender)

instance : Std.TransOrd SenderKeyName :=
  inferInstanceAs
    (Std.TransCmp (compareLex (compareOn SenderKeyName.group) (compareOn SenderKeyName.sender)))

instance : Std.LawfulEqOrd SenderKeyName where
  compare_self := Std.ReflCmp.compare_self
  eq_of_compare {left right} equal := by
    have ⟨groups, senders⟩ := Ordering.then_eq_eq.mp equal
    cases left
    cases right
    exact congr (congrArg mk (Std.LawfulEqCmp.eq_of_compare groups))
      (Std.LawfulEqCmp.eq_of_compare senders)

end SenderKeyName
end DoubleRatchet
