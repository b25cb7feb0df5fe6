import AddressSpace.TypeMap
import Std.Data.HashMap

namespace AddressSpace

/-- The name under which each node id is registered, the last one in the order of names if there are
several. -/
def namesById (registry : Std.TreeMap String NodeId) : Std.HashMap NodeId String :=
  registry.foldl (fun names name id => names.insert id name) ∅

structure Expansion where
  names : Std.HashMap NodeId String
  staged : TypeMap

namespace Expansion

def target? (expansion : Expansion) (type : NodeId) : Option (String × Descriptor) := do
  let name ← expansion.names[type]?
  let entry ← expansion.staged.get? name
  some (name, entry)

/-- Some declarations with the children of their types.  Only the types in `free` are expanded; a
declaration of another staged type stays as it is. -/
def expandAll (expansion : Expansion) (free : List String) : List Descriptor → List Descriptor
  | [] => []
  | ⟨declaration, children⟩ :: rest =>
    let expanded : Descriptor :=
      match expansion.target? declaration.typeDefinition with
      | some (name, entry) =>
        if name ∈ free then
          ⟨{ declaration with
              ofBaseDataVariableType := entry.declaration.ofBaseDataVariableType },
            expansion.expandAll (free.erase name) entry.children⟩
        else ⟨declaration, children⟩
      | none => ⟨declaration, expansion.expandAll free children⟩
    expanded :: expansion.expandAll free rest
  termination_by ds => (free.length, sizeOf ds)
  -- A type that is expanded is free no longer, and otherwise there is less of the declarations.
  decreasing_by
    · apply Prod.Lex.left
      have positive := List.length_pos_of_mem ‹name ∈ free›
      rw [List.length_erase_of_mem ‹name ∈ free›]
      omega
    · apply Prod.Lex.right
      simp only [List.cons.sizeOf_spec, Descriptor.mk.sizeOf_spec]
      omega
    · apply Prod.Lex.right
      simp only [List.cons.sizeOf_spec]
      omega

def expandEntry (expansion : Expansion) (name : String) (entry : Descriptor) : Descriptor :=
  ⟨entry.declaration, expansion.expandAll (expansion.staged.names.erase name) entry.children⟩

end Expansion

def TypeMap.substitute (staged : TypeMap) (registry : Std.TreeMap String NodeId) : TypeMap :=
  staged.mapEntries (Expansion.expandEntry ⟨namesById registry, staged⟩)

end AddressSpace
