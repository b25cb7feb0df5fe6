import AddressSpace.Json.Basic

namespace AddressSpace.Json

variable {α : Type}

def string? : Json → Option String
  | string s => some s
  | _ => none

def bool? : Json → Option Bool
  | bool b => some b
  | _ => none

def array? : Json → Option (List Json)
  | array elements => some elements
  | _ => none

def natBelow? (limit : Nat) : Json → Option Nat
  | int n => if 0 ≤ n ∧ n.toNat < limit then some n.toNat else none
  | _ => none

def word8? (value : Json) : Option UInt8 := (value.natBelow? UInt8.size).map UInt8.ofNat

def word16? (value : Json) : Option UInt16 := (value.natBelow? UInt16.size).map UInt16.ofNat

def word32? (value : Json) : Option UInt32 := (value.natBelow? UInt32.size).map UInt32.ofNat

def count? (value : Json) : Option Nat := value.natBelow? UInt64.size

abbrev Fields := List (String × Json)

def knownMembers? (names : List String) (members : List (String × Json)) : Option Fields :=
  let known := members.filter (·.1 ∈ names)
  if (known.map (·.1)).Nodup then some known else none

/-- The fields of a record, from an object or from an array of at most as many elements. -/
def fields? (names : List String) : Json → Option Fields
  | object members => knownMembers? names members
  | array elements => if elements.length ≤ names.length then some (names.zip elements) else none
  | _ => none

def Fields.required? (fields : Fields) (name : String) (read : Json → Option α) : Option α :=
  (fields.lookup name).bind read

def Fields.optional? (fields : Fields) (name : String) (default : α) (read : Json → Option α) :
    Option α :=
  match fields.lookup name with
  | some value => read value
  | none => some default

def case? (cases : List (String × α)) : Json → Option α
  | string name => cases.lookup name
  | object [(name, null)] => cases.lookup name
  | _ => none

end AddressSpace.Json
