import AddressSpace.NodeClass
import AddressSpace.NodeId

namespace AddressSpace

structure Declaration where
  node : NodeId := .null
  browseName : QualifiedName := .null
  typeDefinition : NodeId := .null
  nodeClass : NodeClass := .unspecified
  rule : ModellingRule := .optional
  ofBaseDataVariableType : Bool := false
  deriving DecidableEq, Inhabited

structure Descriptor where
  declaration : Declaration
  children : List Descriptor := []
  deriving Inhabited

inductive MergeOutcome
  | appended | replaced | kept
  deriving DecidableEq, Repr

def MergeOutcome.name : MergeOutcome → String
  | appended => "Appended"
  | replaced => "Replaced"
  | kept => "Kept"

namespace Descriptor

def null : Descriptor := ⟨{}, []⟩

def browseName (d : Descriptor) : QualifiedName := d.declaration.browseName

def child? (d : Descriptor) (name : QualifiedName) : Option Descriptor :=
  d.children.find? (·.browseName = name)

def childNamed? (d : Descriptor) (name : String) : Option Descriptor :=
  d.children.find? (·.browseName.name = name)

mutual

def treeSize : Descriptor → Nat
  | ⟨_, children⟩ => 1 + forestSize children

def forestSize : List Descriptor → Nat
  | [] => 0
  | d :: rest => d.treeSize + forestSize rest

end

/-- Some children with one more, and what has become of it.  A child of the same name that may be
overridden gives way, and any other stays in its place. -/
def mergeInto (children : List Descriptor) (child : Descriptor) : List Descriptor × MergeOutcome :=
  match children.find? (·.browseName = child.browseName) with
  | none => (children ++ [child], .appended)
  | some present =>
    if present.declaration.rule.isOverridable then
      (children.eraseP (·.browseName = child.browseName) ++ [child], .replaced)
    else (children, .kept)

def merge (d : Descriptor) (child : Descriptor) : Descriptor × MergeOutcome :=
  let (children, outcome) := mergeInto d.children child
  (⟨d.declaration, children⟩, outcome)

def mergeAll (children : List Descriptor) : List Descriptor :=
  children.foldl (fun merged child => (mergeInto merged child).1) []

mutual

def toJson : Descriptor → Json
  | ⟨declaration, children⟩ =>
    .object [("node_id", declaration.node.toJson),
      ("browse_name", declaration.browseName.toJson),
      ("type_definition", declaration.typeDefinition.toJson),
      ("node_class", declaration.nodeClass.toJson),
      ("modelling_rule", declaration.rule.toJson),
      ("of_base_data_variable_type", declaration.ofBaseDataVariableType),
      ("children", .array (forestToJson children))]

def forestToJson : List Descriptor → List Json
  | [] => []
  | d :: rest => d.toJson :: forestToJson rest

end

def ofJsonWithin? : (levels : Nat) → Json → Option Descriptor
  | 0, _ => none
  | levels + 1, value => do
    let fields ← value.fields? ["node_id", "browse_name", "type_definition", "node_class",
      "modelling_rule", "of_base_data_variable_type", "children"]
    let declaration : Declaration := {
      node := ← fields.required? "node_id" NodeId.ofJson?
      browseName := ← fields.required? "browse_name" QualifiedName.ofJson?
      typeDefinition := ← fields.required? "type_definition" NodeId.ofJson?
      nodeClass := ← fields.required? "node_class" NodeClass.ofJson?
      rule := ← fields.required? "modelling_rule" ModellingRule.ofJson?
      ofBaseDataVariableType := ← fields.required? "of_base_data_variable_type" Json.bool? }
    let children ← fields.required? "children" Json.array?
    some ⟨declaration, ← children.mapM (ofJsonWithin? levels)⟩

def ofJson? (value : Json) : Option Descriptor :=
  -- a text with more levels than this cannot be read
  ofJsonWithin? (Json.maxNesting + 1) value

end Descriptor

end AddressSpace
