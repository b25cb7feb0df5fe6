import AddressSpace.Json.Fields
import AddressSpace.Malformed
import AddressSpace.Text.Cut
import Std.Data.TreeMap

namespace AddressSpace

def readPair (text : String) : Except PairFault (String × String) :=
  match Text.cutFirst? ';' text.toList with
  | none => .error .missingSeparator
  | some (_, []) => .error .emptyRest
  | some (uri, rest) => .ok (String.ofList uri, String.ofList rest)

/-- A node of any server, by the URI of its namespace and the text of its identifier. -/
structure NodeId where
  uri : String
  identifier : String
  deriving DecidableEq, Hashable, Repr

namespace NodeId

def null : NodeId := ⟨"", ""⟩

instance : Inhabited NodeId := ⟨null⟩

def isNull (id : NodeId) : Bool := id.identifier.isEmpty

instance : ToString NodeId := ⟨fun id => id.uri ++ ";" ++ id.identifier⟩

def ofText (text : String) : Except Malformed NodeId :=
  match readPair text with
  | .ok (uri, identifier) => .ok ⟨uri, identifier⟩
  | .error fault => .error (.nodeId text fault)

instance : Ord NodeId := ⟨fun a b => (compare a.uri b.uri).then (compare a.identifier b.identifier)⟩

def inOrder (ids : List NodeId) : List NodeId :=
  (ids.foldl (fun seen id => seen.insert id ()) (∅ : Std.TreeMap NodeId Unit)).keys

def toJson (id : NodeId) : Json := .object [("uri", id.uri), ("id", id.identifier)]

def ofJson? (value : Json) : Option NodeId := do
  let fields ← value.fields? ["uri", "id"]
  some ⟨← fields.required? "uri" Json.string?, ← fields.required? "id" Json.string?⟩

end NodeId

structure QualifiedName where
  uri : String
  name : String
  deriving DecidableEq, Repr

namespace QualifiedName

def null : QualifiedName := ⟨"", ""⟩

instance : Inhabited QualifiedName := ⟨null⟩

def isNull (name : QualifiedName) : Bool := name.name.isEmpty

instance : ToString QualifiedName := ⟨fun name => name.uri ++ ";" ++ name.name⟩

def ofText (text : String) : Except Malformed QualifiedName :=
  match readPair text with
  | .ok (uri, name) => .ok ⟨uri, name⟩
  | .error fault => .error (.qualifiedName text fault)

def toJson (name : QualifiedName) : Json := .object [("uri", name.uri), ("name", name.name)]

def ofJson? (value : Json) : Option QualifiedName := do
  let fields ← value.fields? ["uri", "name"]
  some ⟨← fields.required? "uri" Json.string?, ← fields.required? "name" Json.string?⟩

end QualifiedName

end AddressSpace
