import AddressSpace.NamespaceTable

namespace AddressSpace

structure BrowseContext where
  direction : Direction := .forward
  referenceType : NodeId := Standard.node Standard.hierarchicalReferences
  includeSubtypes : Bool := true
  classMask : ClassMask := .all
  resultMask : ResultMask := .all
  deriving DecidableEq

namespace BrowseContext

def hierarchical : BrowseContext := {}

instance : Inhabited BrowseContext := ⟨hierarchical⟩

def ofReference (referenceType : NodeId) : BrowseContext := { referenceType }

def hasComponent : BrowseContext := ofReference (Standard.node Standard.hasComponent)

def instancesAndTypes : BrowseContext := { classMask := .instancesAndTypes }

def toJson (context : BrowseContext) : Json :=
  .object [("direction", context.direction.toJson),
    ("reference_type", context.referenceType.toJson),
    ("include_subtypes", context.includeSubtypes),
    ("node_class_mask", .nat context.classMask.bits.toNat),
    ("result_mask", .nat context.resultMask.bits.toNat)]

def ofJson? (value : Json) : Option BrowseContext := do
  let fields ← value.fields?
    ["direction", "reference_type", "include_subtypes", "node_class_mask", "result_mask"]
  some {
    direction := ← fields.optional? "direction" .forward Direction.ofJson?
    referenceType := ← fields.required? "reference_type" NodeId.ofJson?
    includeSubtypes := ← fields.optional? "include_subtypes" true Json.bool?
    classMask :=
      ← fields.optional? "node_class_mask" .all fun value => value.word32?.map ClassMask.mk
    resultMask :=
      ← fields.optional? "result_mask" .all fun value => value.word32?.map ResultMask.mk }

end BrowseContext

structure Neighbour where
  node : NodeId
  nodeClass : NodeClass
  typeDefinition : NodeId
  referenceType : NodeId
  browseName : QualifiedName
  deriving DecidableEq

namespace Neighbour

def toJson (found : Neighbour) : Json :=
  .object [("node_id", found.node.toJson), ("node_class", found.nodeClass.toJson),
    ("type_definition", found.typeDefinition.toJson),
    ("reference_type", found.referenceType.toJson), ("browse_name", found.browseName.toJson)]

def ofJson? (value : Json) : Option Neighbour := do
  let fields ← value.fields?
    ["node_id", "node_class", "type_definition", "reference_type", "browse_name"]
  some ⟨← fields.required? "node_id" NodeId.ofJson?,
    ← fields.required? "node_class" NodeClass.ofJson?,
    ← fields.required? "type_definition" NodeId.ofJson?,
    ← fields.required? "reference_type" NodeId.ofJson?,
    ← fields.required? "browse_name" QualifiedName.ofJson?⟩

end Neighbour

structure IdentificationValue where
  key : String
  node : NodeId
  deriving DecidableEq

namespace IdentificationValue

def toJson (value : IdentificationValue) : Json :=
  .object [("key", value.key), ("node_id", value.node.toJson)]

def ofJson? (value : Json) : Option IdentificationValue := do
  let fields ← value.fields? ["key", "node_id"]
  some ⟨← fields.required? "key" Json.string?, ← fields.required? "node_id" NodeId.ofJson?⟩

end IdentificationValue

structure Browser (σ : Type) where
  transport : Transport σ
  namespaces : NamespaceTable
  maxPages : Nat

namespace Browser

variable {σ : Type}

def collectPages (browser : Browser σ) (start : NodeId) (left : Nat) (page : Page) :
    Exchange σ (List Reference) :=
  if page.status.isBad then Exchange.fail (.status "Browse" (toString start) page.status)
  else
    match page.next, left with
    | none, _ => pure page.references
    | some _, 0 => Exchange.fail (SchemaError.tooManyPages (toString start) browser.maxPages)
    | some point, left + 1 => do
      let page' ← browser.transport.browseNext point
      let behind ← browser.collectPages start left page'
      pure (page.references ++ behind)

def neighbour (browser : Browser σ) (reference : Reference) : Except Error Neighbour := do
  let node ← browser.namespaces.decode reference.node
  match NodeClass.ofValue? reference.nodeClass with
  | none =>
    .error (SchemaError.invalidNodeClass (toString node) (toString reference.nodeClass.toNat))
  | some nodeClass =>
    let typeDefinition ← browser.namespaces.decode reference.typeDefinition
    let referenceType ← browser.namespaces.decode reference.referenceType
    let browseName ← browser.namespaces.decodeName reference.browseName
    .ok { node, nodeClass, typeDefinition, referenceType, browseName }

def request (browser : Browser σ) (start : NodeId) (context : BrowseContext) :
    Except Error BrowseRequest := do
  let node ← browser.namespaces.encode start
  let referenceType ← browser.namespaces.encode context.referenceType
  .ok {
    node, referenceType
    direction := context.direction
    includeSubtypes := context.includeSubtypes
    classMask := context.classMask
    resultMask := context.resultMask }

def browse (browser : Browser σ) (start : NodeId) (context : BrowseContext) :
    Exchange σ (List Neighbour) := do
  let request ← Exchange.ofExcept (browser.request start context)
  let page ← browser.transport.browse request
  let references ← browser.collectPages start (browser.maxPages - 1) page
  Exchange.ofExcept (references.mapM browser.neighbour)

def readAttribute (browser : Browser σ) (node : NodeId) (attr : Attribute) : Exchange σ Value := do
  let id ← Exchange.ofExcept (browser.namespaces.encode node)
  let answer ← browser.transport.read [{ node := id, attr }]
  Exchange.ofExcept (answer.single (toString node))

def readNodeClass (browser : Browser σ) (node : NodeId) : Exchange σ NodeClass := do
  match ← browser.readAttribute node .nodeClass with
  | .int32 n =>
    match (Value.wordOfInt? n.toInt).bind NodeClass.ofValue? with
    | some nodeClass => pure nodeClass
    | none => Exchange.fail (SchemaError.invalidNodeClass (toString node) (toString n.toInt))
  | value =>
    Exchange.fail (SchemaError.unexpectedValueType (toString node) "Int32" value.typeName)

def readBrowseName (browser : Browser σ) (node : NodeId) : Exchange σ String := do
  match ← browser.readAttribute node .browseName with
  | .qualifiedName name =>
    let name ← Exchange.ofExcept (browser.namespaces.decodeName name)
    pure (toString name)
  | value =>
    Exchange.fail (SchemaError.unexpectedValueType (toString node) "QualifiedName" value.typeName)

def readValues (browser : Browser σ) (nodes : List NodeId) : Exchange σ (List Json) := do
  let ids ← Exchange.ofExcept (nodes.mapM browser.namespaces.encode)
  let answer ← browser.transport.read (ids.map fun node => { node })
  if answer.status.isBad then
    let first := (nodes.head?.map toString).getD ""
    Exchange.fail (.status "Read" first answer.status)
  if answer.values.length = nodes.length then
    pure (answer.values.map DataValue.toJson)
  else
    Exchange.fail
      (SchemaError.unexpectedResultCount "Read" nodes.length answer.values.length)

def modellingRuleContext : BrowseContext :=
  { BrowseContext.ofReference (Standard.node Standard.hasModellingRule) with
    classMask := .ofClass .object, resultMask := .browseName }

/-- The last modelling rule of a node with a known name, optional if there is none. -/
def modellingRule (browser : Browser σ) (node : NodeId) : Exchange σ ModellingRule := do
  let found ← browser.browse node modellingRuleContext
  let rules := found.filterMap fun neighbour => ModellingRule.ofName? neighbour.browseName.name
  pure (rules.getLast?.getD .optional)

def typeDefinitionContext : BrowseContext :=
  { BrowseContext.ofReference (Standard.node Standard.hasTypeDefinition) with
    includeSubtypes := false, classMask := .types, resultMask := .none }

def typeDefinition (browser : Browser σ) (node : NodeId) : Exchange σ NodeId := do
  match ← browser.browse node typeDefinitionContext with
  | [] => Exchange.fail (NotFoundError.reference (toString node) "HasTypeDefinition")
  | [found] => pure found.node
  | found =>
    Exchange.fail
      (SchemaError.unexpectedResultCount "Browse HasTypeDefinition" 1 found.length)

def implementedNamespace (browser : Browser σ) (machine : NodeId) : Exchange σ String := do
  pure (← browser.typeDefinition machine).uri

def machines (browser : Browser σ) (start : NodeId) : Exchange σ (List Neighbour) :=
  browser.browse start .instancesAndTypes

def identificationValues (browser : Browser σ) (identification : NodeId) :
    Exchange σ (List IdentificationValue) := do
  let found ← browser.browse identification .instancesAndTypes
  pure (found.map fun neighbour => ⟨neighbour.browseName.name, neighbour.node⟩)

end Browser

end AddressSpace
