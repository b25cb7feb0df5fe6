import AddressSpace.Browse
import AddressSpace.Descriptor
import Std.Data.TreeMap

namespace AddressSpace

structure ArenaNode where
  declaration : Declaration
  parent : Option Nat := none
  children : Array Nat := #[]
  deriving Inhabited

structure Arena where
  nodes : Array ArenaNode
  types : Std.TreeMap String Nat

namespace Arena

def empty : Arena := ⟨#[], ∅⟩

instance : Inhabited Arena := ⟨empty⟩

def size (arena : Arena) : Nat := arena.nodes.size

def isEmpty (arena : Arena) : Bool := arena.nodes.isEmpty

def node? (arena : Arena) (i : Nat) : Option ArenaNode := arena.nodes[i]?

def push (arena : Arena) (parent : Option Nat) (declaration : Declaration) : Arena :=
  let nodes := arena.nodes.push { declaration, parent }
  { arena with
    nodes := match parent with
      | none => nodes
      | some p => nodes.modify p fun node =>
        { node with children := node.children.push arena.size } }

def typeName (declaration : Declaration) : String := toString declaration.browseName

def add (arena : Arena) (parent : Nat) (declaration : Declaration) : Arena :=
  let grown := arena.push (some parent) declaration
  let name := typeName declaration
  if declaration.nodeClass.isType ∧ !arena.types.contains name then
    { grown with types := arena.types.insert name arena.size }
  else grown

def typeIndex? (arena : Arena) (name : String) : Option Nat := arena.types[name]?

def isRegistered (arena : Arena) (i : Nat) : Bool :=
  match arena.node? i with
  | some node =>
    node.declaration.nodeClass.isType && arena.typeIndex? (typeName node.declaration) == some i
  | none => false

def registered (arena : Arena) : List (String × Nat × ArenaNode) :=
  arena.types.toList.filterMap fun (name, i) => (arena.node? i).map fun node => (name, i, node)

def registry (arena : Arena) : Std.TreeMap String NodeId :=
  arena.types.filterMap fun _ i => (arena.node? i).map (·.declaration.node)

def typeNamespaces (arena : Arena) : List String :=
  (arena.registered.foldl (fun uris (_, _, node) => uris.insert node.declaration.node.uri ())
    (∅ : Std.TreeMap String Unit)).keys

def lineWithin? (arena : Arena) : (fuel : Nat) → Nat → Option (List Nat)
  | 0, _ => none
  | fuel + 1, i => do
    let node ← arena.node? i
    match node.parent with
    | none => some [i]
    | some p => (arena.lineWithin? fuel p).map (i :: ·)

/-- A position and the positions of its parents up to a root.  A line that does not end within as
many steps as there are nodes is broken. -/
def line? (arena : Arena) (i : Nat) : Option (List Nat) := arena.lineWithin? (arena.size + 1) i

def lineHas (arena : Arena) (i : Nat) (id : NodeId) : Bool :=
  match arena.line? i with
  | none => true
  | some line => line.any fun j => (arena.node? j).any (·.declaration.node = id)

end Arena

end AddressSpace
