import AddressSpace.Crawl.Arena
import AddressSpace.Text.Cut

namespace AddressSpace

structure NamespaceInformation where
  namespaceName : String
  uri : String
  machineType : String
  identificationType : String
  deriving DecidableEq

namespace NamespaceInformation

/-- The part of a URI behind its last slash, where slashes at the end do not count. -/
def shortName (uri : String) : String :=
  String.ofList (Text.behindLast '/' (Text.dropTrailing '/' uri.toList))

def toJson (info : NamespaceInformation) : Json :=
  .object [("namespace", info.namespaceName), ("namespace_uri", info.uri),
    ("namespace_type", info.machineType), ("identification_type", info.identificationType)]

def ofJson? (value : Json) : Option NamespaceInformation := do
  let fields ← value.fields?
    ["namespace", "namespace_uri", "namespace_type", "identification_type"]
  some ⟨← fields.required? "namespace" Json.string?,
    ← fields.required? "namespace_uri" Json.string?,
    ← fields.required? "namespace_type" Json.string?,
    ← fields.required? "identification_type" Json.string?⟩

end NamespaceInformation

namespace Arena

def typesIn (arena : Arena) (uri : String) : List ArenaNode :=
  (arena.registered.map (·.2.2)).filter (·.declaration.node.uri = uri)

def parent? (arena : Arena) (node : ArenaNode) : Option ArenaNode := node.parent.bind arena.node?

def isIdentificationType (arena : Arena) (node : ArenaNode) : Bool :=
  (arena.parent? node).any fun parent =>
    parent.declaration.node = ⟨Standard.machineryUri, Standard.machineIdentificationType⟩

def isObjectRoot (node : ArenaNode) : Bool :=
  node.parent.isNone &&
    node.declaration.node.identifier = (Standard.node Standard.baseObjectType).identifier

def isMachineType (arena : Arena) (node : ArenaNode) : Bool :=
  (arena.parent? node).any isObjectRoot &&
    node.declaration.node.identifier = Standard.companionMachineType

def namespaceInformation (arena : Arena) (uri : String) : NamespaceInformation :=
  let namespaceName := NamespaceInformation.shortName uri
  let nameOf (p : ArenaNode → Bool) (fallback : String) : String :=
    match (arena.typesIn uri).find? p with
    | some node => node.declaration.browseName.name
    | none => namespaceName ++ fallback
  { namespaceName, uri
    machineType := nameOf arena.isMachineType "Type"
    identificationType := nameOf arena.isIdentificationType "IdentificationType" }

end Arena

end AddressSpace
