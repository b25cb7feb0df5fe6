import AddressSpace.Descriptor
import Std.Data.TreeMap

namespace AddressSpace

structure TypeMap where
  entries : Std.TreeMap String Descriptor

namespace TypeMap

def empty : TypeMap := ⟨∅⟩

instance : Inhabited TypeMap := ⟨empty⟩

def size (map : TypeMap) : Nat := map.entries.size

def isEmpty (map : TypeMap) : Bool := map.entries.isEmpty

def contains (map : TypeMap) (name : String) : Bool := map.entries.contains name

def get? (map : TypeMap) (name : String) : Option Descriptor := map.entries[name]?

/-- Whether a map has lacked a name, and the map with a descriptor under the name. -/
def insert (map : TypeMap) (name : String) (descriptor : Descriptor) : Bool × TypeMap :=
  if map.contains name then (false, map) else (true, ⟨map.entries.insert name descriptor⟩)

def names (map : TypeMap) : List String := map.entries.keys

def toList (map : TypeMap) : List (String × Descriptor) := map.entries.toList

def mapEntries (map : TypeMap) (f : String → Descriptor → Descriptor) : TypeMap :=
  ⟨map.entries.map f⟩

def toJson (map : TypeMap) : Json :=
  .object (map.toList.map fun (name, descriptor) => (name, descriptor.toJson))

def ofJson? : Json → Option TypeMap
  | .object members => do
    let entries ← members.mapM fun (name, value) => (Descriptor.ofJson? value).map (name, ·)
    some ⟨entries.foldl (fun entries entry => entries.insert entry.1 entry.2) ∅⟩
  | _ => none

end TypeMap

end AddressSpace
