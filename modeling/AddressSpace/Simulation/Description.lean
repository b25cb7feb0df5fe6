import AddressSpace.Simulation.Server

namespace AddressSpace.Simulation

namespace Description

variable {α : Type}

def member? (description : Json) (name : String) : Option Json :=
  match description with
  | .object members => (members.lookup name).filter (· != .null)
  | _ => none

def required? (description : Json) (name : String) (read : Json → Option α) : Option α :=
  (member? description name).bind read

def optional? (description : Json) (name : String) (default : α) (read : Json → Option α) :
    Option α :=
  match member? description name with
  | some value => read value
  | none => some default

def list? (read : Json → Option α) (value : Json) : Option (List α) :=
  value.array?.bind (·.mapM read)

def wireId? (value : Json) : Option WireId :=
  value.string?.bind fun text => (WireId.ofText text).toOption

def wireName? : Json → Option WireName
  | .array [index, .string name] => index.word16?.map (⟨·, name⟩)
  | _ => none

def status? (value : Json) : Option Status := value.word32?.map Status.mk

def attribute? (value : Json) : Option Attribute := do
  let number ← value.count?
  (Attribute.cases.map (·.2)).find? (·.number = number)

def integer? (low high : Int) : Json → Option Int
  | .int n => if low ≤ n ∧ n ≤ high then some n else none
  | _ => none

def double? (value : Json) : Option Double := do
  let digits := (← value.string?).toList
  if digits.length = 16 then (Text.natural? 16 digits).map fun n => ⟨UInt64.ofNat n⟩ else none

mutual

def value? : Json → Option Value
  | .array [.string "Empty"] => some .empty
  | .array [.string "Boolean", .bool b] => some (.boolean b)
  | .array [.string "Int32", n] =>
    (integer? Int32.minValue.toInt Int32.maxValue.toInt n).map fun n => .int32 (Int32.ofInt n)
  | .array [.string "UInt32", n] => n.word32?.map .uint32
  | .array [.string "Int64", n] =>
    (integer? Int64.minValue.toInt Int64.maxValue.toInt n).map fun n => .int64 (Int64.ofInt n)
  | .array [.string "Double", digits] => (double? digits).map .double
  | .array [.string "String", .string s] => some (.string s)
  | .array [.string "DateTime", .int seconds, nanoseconds] =>
    nanoseconds.word32?.map fun n => .dateTime ⟨seconds, n.toNat⟩
  | .array [.string "Guid", .string text] => (Guid.ofChars? text.toList).map .guid
  | .array [.string "ByteString", bytes] => (list? Json.word8? bytes).map .byteString
  | .array [.string "NodeId", id] => (wireId? id).map .nodeId
  | .array [.string "QualifiedName", name] => (wireName? name).map .qualifiedName
  | .array [.string "Array", .array items] => (values? items).map .array
  | _ => none

def values? : List Json → Option (List Value)
  | [] => some []
  | item :: rest => do
    let value ← value? item
    some (value :: (← values? rest))

end

def dataValue? (description : Json) : Option DataValue := do
  some {
    status := ← optional? description "s" .good status?
    value := ← optional? description "v" .empty value? }

def faultOf (reason : String) : IdFault :=
  if reason.startsWith (IdFault.badGuid.message ++ ": ") then .badGuid
  else if reason.startsWith (IdFault.badBase64.message ++ ": ") then .badBase64
  else .described reason

def error? (description : Json) : Option Error := do
  let text (name : String) := required? description name Json.string?
  let count (name : String) := required? description name Json.count?
  match ← text "kind" with
  | "Connection.NotConnected" => some ConnectionError.notConnected
  | "Connection.NoSuitableEndpoint" =>
    some (ConnectionError.noSuitableEndpoint (← text "security_mode"))
  | "Connection.ConnectFailed" =>
    some (ConnectionError.connectFailed (← text "endpoint") (← text "message"))
  | "Connection.Closed" => some (ConnectionError.closed (← text "reason"))
  | "Connection.ShuttingDown" => some ConnectionError.shuttingDown
  | "Status" =>
    some (.status (← text "operation") (← text "node") (← required? description "status" status?))
  | "Schema.UnexpectedResultCount" =>
    some (SchemaError.unexpectedResultCount (← text "operation") (← count "expected")
      (← count "actual"))
  | "Schema.UnexpectedValueType" =>
    some (SchemaError.unexpectedValueType (← text "node") (← text "expected") (← text "actual"))
  | "Schema.InvalidNodeClass" =>
    some (SchemaError.invalidNodeClass (← text "node") (← text "node_class"))
  | "Schema.UnknownNamespaceUri" => some (SchemaError.unknownNamespaceUri (← text "uri"))
  | "Schema.UnknownNamespaceIndex" =>
    some (SchemaError.unknownNamespaceIndex (← required? description "index" Json.word16?))
  | "Schema.NullArgument" => some (SchemaError.nullArgument (← text "argument"))
  | "Schema.InvalidNodeId" =>
    some (SchemaError.invalidNodeId (← text "node_id") (faultOf (← text "reason")))
  | "Schema.TooManyPages" => some (SchemaError.tooManyPages (← text "node") (← count "max_pages"))
  | "Schema.BrokenAncestry" => some (SchemaError.brokenAncestry (← text "type_name"))
  | "NotFound.NoTarget" => some (NotFoundError.noTarget (← text "start") (← text "name"))
  | "NotFound.TypeNotFound" => some (NotFoundError.typeNotFound (← text "type_name"))
  | "NotFound.Reference" => some (NotFoundError.reference (← text "node") (← text "reference"))
  | "NotFound.Subscription" => some (NotFoundError.subscription (← text "id"))
  | "Configuration.MissingField" => some (ConfigError.missingField (← text "field"))
  | "Configuration.InvalidEndpoint" =>
    some (ConfigError.invalidEndpoint (← text "url") (← text "reason"))
  | "Configuration.InvalidValue" =>
    some (ConfigError.invalidValue (← text "field") (← text "reason"))
  | _ => none

def reference? (description : Json) : Option Reference := do
  some {
    node := ← optional? description "id" .null wireId?
    browseName := ← optional? description "name" .null wireName?
    nodeClass := ← optional? description "class" 0 Json.word32?
    typeDefinition := ← optional? description "td" .null wireId?
    referenceType := ← optional? description "rt" .null wireId? }

def pathTargets? (description : Json) : Option PathTargets := do
  some {
    status := ← optional? description "status" .good status?
    targets := ← optional? description "targets" [] (list? wireId?) }

def answer? (description : Json) : Option Answer := do
  some {
    status := ← optional? description "status" .good status?
    endpoints := ← optional? description "endpoints" [] (list? Endpoint.ofJson?)
    references := ← optional? description "refs" [] (list? reference?)
    next := ← optional? description "cp" none fun point =>
      point.string?.map fun token => some ⟨token⟩
    values := ← optional? description "values" [] (list? dataValue?)
    results := ← optional? description "results" [] (list? pathTargets?)
    item := ← optional? description "item" 0 Json.word32? }

def reply? (description : Json) : Option Reply :=
  match member? description "err" with
  | some cause => (error? cause).map .fail
  | none => (answer? description).map .answer

def script? (description : Json) : Option Script := do
  some {
    mark := ← optional? description "match" "" Json.string?
    skip := ← optional? description "skip" 0 Json.count?
    times := ← optional? description "times" none fun n => n.count?.map some
    drop := ← optional? description "drop" false Json.bool?
    reply := ← optional? description "reply" none fun reply => (reply? reply).map some }

def worldNode? : Json → Option WorldNode
  | .array (id :: name :: nodeClass :: rest) => do
    let typeDefinition ← match rest with
      | [] => some .null
      | [type] => wireId? type
      | _ => none
    some ⟨← wireId? id, ← wireName? name, ← nodeClass.word32?, typeDefinition⟩
  | _ => none

def worldReference? : Json → Option WorldReference
  | .array [source, type, target] => do
    some ⟨← wireId? source, ← type.word32?, ← wireId? target⟩
  | _ => none

def worldAttribute? : Json → Option WorldAttribute
  | .array [node, attr, data] => do
    some ⟨← wireId? node, ← attribute? attr, ← dataValue? data⟩
  | _ => none

def world? (description : Json) : Option World := do
  let usual : World := {}
  some {
    namespaces := ← optional? description "namespaces" usual.namespaces (list? Json.string?)
    nodes := ← optional? description "nodes" usual.nodes (list? worldNode?)
    references := ← optional? description "refs" usual.references (list? worldReference?)
    attributes := ← optional? description "attrs" usual.attributes (list? worldAttribute?)
    pageSize := ← optional? description "page_size" usual.pageSize Json.count?
    endpoints := ← optional? description "endpoints" usual.endpoints (list? SecurityMode.ofJson?) }

end Description

namespace Server

def redescribe? (description : Json) (server : Server) : Option Server := do
  let scripts ← Description.optional? description "scripts" []
    (Description.list? Description.script?)
  some (server.setWorld (← Description.world? description) scripts)

def ofDescription? (description : Json) : Option Server :=
  ({} : Server).redescribe? description

end Server

end AddressSpace.Simulation
