import AddressSpace.Crawl.Arena
import AddressSpace.Error
import AddressSpace.TypeMap

namespace AddressSpace.Arena

def declarationsBelow (arena : Arena) (i : Nat) : List Nat :=
  match arena.node? i with
  | none => []
  | some node => node.children.toList.filter fun j =>
    (arena.node? j).any fun child => !child.declaration.nodeClass.isType

def treeWithin (arena : Arena) : (levels : Nat) → Nat → Descriptor
  | 0, i => ⟨((arena.node? i).map (·.declaration)).getD {}, []⟩
  | levels + 1, i =>
    ⟨((arena.node? i).map (·.declaration)).getD {},
      (arena.declarationsBelow i).map (arena.treeWithin levels)⟩

def tree (arena : Arena) (i : Nat) : Descriptor := arena.treeWithin arena.size i

def declarations (arena : Arena) (line : List Nat) : List Descriptor :=
  (line.reverse.flatMap arena.declarationsBelow).map arena.tree

/-- The type at a position, under the name that a failure reports, with its own declarations and
those of its supertypes. -/
def flatten (arena : Arena) (name : String) (i : Nat) : Except Error Descriptor :=
  match arena.line? i, arena.node? i with
  | some line, some node =>
    .ok ⟨node.declaration, Descriptor.mergeAll (arena.declarations line)⟩
  | _, _ => .error (SchemaError.brokenAncestry name)

def build (arena : Arena) (uri : String) (map : TypeMap) : Nat × TypeMap :=
  arena.registered.foldl (fun (count, map) (name, i, node) =>
    if node.declaration.node.uri = uri then
      match arena.flatten name i with
      | .ok descriptor =>
        let (inserted, map) := map.insert name descriptor
        (count + inserted.toNat, map)
      | .error _ => (count, map)
    else (count, map)) (0, map)

end AddressSpace.Arena
