import AddressSpace.Standard
import AddressSpace.Transport

namespace AddressSpace.Simulation

structure WorldNode where
  id : WireId
  name : WireName
  nodeClass : UInt32
  typeDefinition : WireId := .null

structure WorldReference where
  source : WireId
  type : UInt32
  target : WireId
  deriving DecidableEq

structure WorldAttribute where
  node : WireId
  attr : Attribute
  data : DataValue

/-- An address space.  Of nodes with the same id, and of attributes of the same node, the last one
counts. -/
structure World where
  namespaces : List String := ["ns0", "ns1"]
  nodes : List WorldNode := []
  references : List WorldReference := []
  attributes : List WorldAttribute := []
  pageSize : Nat := 0
  endpoints : List SecurityMode := [.none]

namespace World

def node? (world : World) (id : WireId) : Option WorldNode := world.nodes.findRev? (·.id = id)

def hierarchicalTypes : List UInt32 :=
  [Standard.hierarchicalReferences, Standard.organizes, Standard.hasSubtype, Standard.hasProperty,
    Standard.hasComponent]

def typeMatches (request : BrowseRequest) (type : UInt32) : Bool :=
  request.referenceType = .standard type ||
    (request.includeSubtypes &&
      request.referenceType = .standard Standard.hierarchicalReferences &&
      hierarchicalTypes.contains type)

def otherEnd? (request : BrowseRequest) (reference : WorldReference) : Option (WireId × Bool) :=
  if request.direction ≠ .backward ∧ reference.source = request.node then
    some (reference.target, true)
  else if request.direction ≠ .forward ∧ reference.target = request.node then
    some (reference.source, false)
  else none

def describe (mask : ResultMask) (type : UInt32) (isForward : Bool) (node : WorldNode) :
    Reference where
  node := node.id
  browseName := if mask.contains .browseName then node.name else .null
  nodeClass := if mask.contains .nodeClass then node.nodeClass else 0
  typeDefinition := if mask.contains .typeDefinition then node.typeDefinition else .null
  referenceType := if mask.contains .referenceType then .standard type else .null
  isForward := mask.contains .isForward && isForward
  displayName := if mask.contains .displayName then node.name.name else ""

def answer? (world : World) (request : BrowseRequest) (reference : WorldReference) :
    Option Reference := do
  if !typeMatches request reference.type then none
  let (id, isForward) ← otherEnd? request reference
  let node ← world.node? id
  if request.classMask.bits ≠ 0 ∧ request.classMask.bits &&& node.nodeClass = 0 then none
  some (describe request.resultMask reference.type isForward node)

def browse (world : World) (request : BrowseRequest) : List Reference :=
  world.references.filterMap (world.answer? request)

def usualAttribute (node : WorldNode) : Attribute → DataValue
  | .nodeClass => .good (.int32 (Int32.ofNat node.nodeClass.toNat))
  | .browseName => .good (.qualifiedName node.name)
  | .displayName => .good (.string node.name.name)
  | .value => .bad .badNotReadable

def read (world : World) (request : ReadRequest) : DataValue :=
  let own := world.attributes.findRev? fun entry =>
    entry.node = request.node ∧ entry.attr = request.attr
  match own with
  | some entry => entry.data
  | none =>
    if request.node = .standard Standard.namespaceArray then
      .good (.array (world.namespaces.map .string))
    else
      match world.node? request.node with
      | none => .bad .badNodeIdUnknown
      | some node => usualAttribute node request.attr

def children (world : World) (name : WireName) (start : WireId) : List WireId :=
  let below := world.references.filter fun reference =>
    reference.source = start ∧ hierarchicalTypes.contains reference.type
  (below.map (·.target)).filter fun target => (world.node? target).any (·.name = name)

def translate (world : World) (request : PathRequest) : PathTargets :=
  let targets := request.elements.foldl
    (fun starts element => starts.flatMap (world.children element.targetName)) [request.start]
  { status := if targets.isEmpty then .badNoMatch else .good, targets }

end World

end AddressSpace.Simulation
