import AddressSpace.Standard
import AddressSpace.Transport
import Std.Data.TreeMap

/-!
The namespaces of a session.

A server numbers its namespaces anew in each session.  A `NamespaceTable` holds the numbers of the
current one, and `encode` and `decode` take node ids and names back and forth between the form with
a URI and the form with an index.  The empty URI and the standard URI always have index zero.
-/

namespace AddressSpace

structure NamespaceTable where
  indices : Std.TreeMap String UInt16
  uris : Std.TreeMap UInt16 String

namespace NamespaceTable

def empty : NamespaceTable := ⟨∅, ∅⟩

instance : Inhabited NamespaceTable := ⟨empty⟩

def add (table : NamespaceTable) (uri : String) (index : UInt16) : NamespaceTable :=
  if table.indices.contains uri then table
  else ⟨table.indices.insert uri index, table.uris.insert index uri⟩

def capacity : Nat := 65536

/-- The table of a namespace array: each URI has the first place at which it stands.  Places beyond
the last index do not count. -/
def ofList (uris : List String) : NamespaceTable :=
  (uris.take capacity).zipIdx.foldl (fun table entry => table.add entry.1 (UInt16.ofNat entry.2))
    empty

def size (table : NamespaceTable) : Nat := table.uris.size

def isEmpty (table : NamespaceTable) : Bool := table.uris.isEmpty

def toList (table : NamespaceTable) : List String := table.uris.toList.map (·.2)

def indexOf (table : NamespaceTable) (uri : String) : Except Error UInt16 :=
  if uri.isEmpty ∨ uri = Standard.namespaceUri then .ok 0
  else
    match table.indices[uri]? with
    | some index => .ok index
    | none => .error (SchemaError.unknownNamespaceUri uri)

def uriAt (table : NamespaceTable) (index : UInt16) : Except Error String :=
  match table.uris[index]? with
  | some uri => .ok uri
  | none => .error (SchemaError.unknownNamespaceIndex index)

def encode (table : NamespaceTable) (id : NodeId) : Except Error WireId :=
  if id.isNull then .ok .null
  else do
    let index ← table.indexOf id.uri
    let identifier ← (Identifier.ofText id.identifier).mapError Error.ofBadWireId
    .ok ⟨index, identifier⟩

def decode (table : NamespaceTable) (id : WireId) : Except Error NodeId :=
  if id.isNull then .ok .null
  else (table.uriAt id.index).map fun uri => ⟨uri, toString id.identifier⟩

def encodeName (table : NamespaceTable) (name : QualifiedName) : Except Error WireName :=
  (table.indexOf name.uri).map fun index => ⟨index, name.name⟩

def decodeName (table : NamespaceTable) (name : WireName) : Except Error QualifiedName :=
  (table.uriAt name.index).map fun uri => ⟨uri, name.name⟩

/-- A node id as the server would write it.  Ids of the same node have the same canonical form. -/
def canonical (table : NamespaceTable) (id : NodeId) : Except Error NodeId := do
  table.decode (← table.encode id)

def ofValue (node : String) (value : Value) : Except Error NamespaceTable :=
  match value.strings? with
  | some uris => .ok (ofList uris)
  | none => .error (SchemaError.unexpectedValueType node "String[]" value.typeName)

def fetch {σ : Type} (transport : Transport σ) : Exchange σ NamespaceTable := do
  let node := WireId.standard Standard.namespaceArray
  let answer ← transport.read [{ node }]
  let value ← Exchange.ofExcept (answer.single (toString node))
  Exchange.ofExcept (ofValue (toString node) value)

end NamespaceTable

end AddressSpace
