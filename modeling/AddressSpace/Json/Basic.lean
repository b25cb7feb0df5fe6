import AddressSpace.Double

namespace AddressSpace

inductive Json
  | null
  | bool (b : Bool)
  | int (n : Int)
  | real (x : Double)
  | string (s : String)
  | array (elements : List Json)
  | object (members : List (String × Json))
  | unreadable
  deriving BEq, Inhabited

namespace Json

instance : Coe String Json := ⟨string⟩
instance : Coe Bool Json := ⟨bool⟩

def nat (n : Nat) : Json := int n

def maxNesting : Nat := 127

mutual

def isReadable : Json → Bool
  | unreadable => false
  | array elements => allReadable elements
  | object members => allMembersReadable members
  | _ => true

def allReadable : List Json → Bool
  | [] => true
  | value :: rest => value.isReadable && allReadable rest

def allMembersReadable : List (String × Json) → Bool
  | [] => true
  | (_, value) :: rest => value.isReadable && allMembersReadable rest

end

end Json

end AddressSpace
