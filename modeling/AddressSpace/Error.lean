import AddressSpace.Status
import AddressSpace.WireId

namespace AddressSpace

structure ErrorCode where
  category : UInt8
  number : UInt8
  deriving DecidableEq

instance : ToString ErrorCode where
  toString code :=
    "UA-" ++ String.ofList
      (Text.upperHex 2 code.category.toNat ++ Text.upperHex 2 code.number.toNat)

def ErrorCode.word (code : ErrorCode) : UInt16 :=
  (code.category.toUInt16 <<< 8) ||| code.number.toUInt16

inductive Severity
  | info | warning | error | critical
  deriving DecidableEq, Repr

def Severity.name : Severity → String
  | info => "info"
  | warning => "warning"
  | error => "error"
  | critical => "critical"

inductive LogLevel
  | info | warn | error
  deriving DecidableEq, Repr

def LogLevel.name : LogLevel → String
  | info => "INFO"
  | warn => "WARN"
  | error => "ERROR"

def Severity.logLevel : Severity → LogLevel
  | info => .info
  | warning => .warn
  | error | critical => .error

inductive ConnectionError
  | notConnected
  | noSuitableEndpoint (securityMode : String)
  | connectFailed (endpoint reason : String)
  | closed (reason : String)
  | shuttingDown
  deriving DecidableEq

inductive SchemaError
  | unexpectedResultCount (operation : String) (expected actual : Nat)
  | unexpectedValueType (node expected actual : String)
  | invalidNodeClass (node nodeClass : String)
  | unknownNamespaceUri (uri : String)
  | unknownNamespaceIndex (index : UInt16)
  | nullArgument (argument : String)
  | invalidNodeId (text : String) (fault : IdFault)
  | tooManyPages (node : String) (maxPages : Nat)
  | brokenAncestry (typeName : String)
  deriving DecidableEq

inductive NotFoundError
  | noTarget (start name : String)
  | typeNotFound (typeName : String)
  | reference (node reference : String)
  | subscription (id : String)
  deriving DecidableEq

inductive ConfigError
  | missingField (field : String)
  | invalidEndpoint (url reason : String)
  | invalidValue (field reason : String)
  deriving DecidableEq

inductive Error
  | connection (cause : ConnectionError)
  | status (operation node : String) (status : Status)
  | schema (cause : SchemaError)
  | notFound (cause : NotFoundError)
  | configuration (cause : ConfigError)
  deriving DecidableEq

instance : Coe ConnectionError Error := ⟨.connection⟩
instance : Coe SchemaError Error := ⟨.schema⟩
instance : Coe NotFoundError Error := ⟨.notFound⟩
instance : Coe ConfigError Error := ⟨.configuration⟩

def ConnectionError.message : ConnectionError → String
  | notConnected => "Not connected to OPC UA server"
  | noSuitableEndpoint mode => s!"No suitable endpoint found with security mode '{mode}'"
  | connectFailed endpoint reason => s!"Failed to connect to '{endpoint}': {reason}"
  | closed reason => s!"Connection closed: {reason}"
  | shuttingDown => "Connection manager is shutting down"

def SchemaError.message : SchemaError → String
  | unexpectedResultCount operation expected actual =>
    s!"{operation} returned {actual} results, expected {expected}"
  | unexpectedValueType node expected actual =>
    s!"Unexpected value type for '{node}': expected {expected}, got {actual}"
  | invalidNodeClass node nodeClass => s!"Invalid node class {nodeClass} for '{node}'"
  | unknownNamespaceUri uri => s!"Namespace URI '{uri}' is not known to the server"
  | unknownNamespaceIndex index =>
    "Namespace index " ++ toString index.toNat ++ " is not known to the server"
  | nullArgument argument => s!"Argument '{argument}' must not be null"
  | invalidNodeId text fault => "Invalid node id '" ++ text ++ "': " ++ fault.message
  | tooManyPages node maxPages => s!"Browse of '{node}' exceeded {maxPages} continuation pages"
  | brokenAncestry typeName => s!"Broken ancestry for type '{typeName}'"

def NotFoundError.message : NotFoundError → String
  | noTarget start name => s!"No node named '{name}' below '{start}'"
  | typeNotFound typeName => s!"Type '{typeName}' is not in the type map"
  | .reference node kind => s!"Node '{node}' has no {kind} reference"
  | subscription id => s!"Unknown subscription {id}"

def ConfigError.message : ConfigError → String
  | missingField field => s!"Missing required field: {field}"
  | invalidEndpoint url reason => s!"Invalid endpoint URL '{url}': {reason}"
  | invalidValue field reason => s!"Invalid value for '{field}': {reason}"

namespace Error

def message : Error → String
  | connection cause => cause.message
  | status operation node code => operation ++ " on '" ++ node ++ "' failed with " ++ toString code
  | schema cause => cause.message
  | notFound cause => cause.message
  | configuration cause => cause.message

def isConnection : Error → Bool
  | connection _ => true
  | _ => false

def status? : Error → Option Status
  | status _ _ code => some code
  | _ => none

def isRetryable : Error → Bool
  | connection .shuttingDown => false
  | connection _ => true
  | status _ _ code =>
    code ∈ [Status.badTimeout, Status.badTooManyOperations, Status.badResourceUnavailable,
      Status.badServerHalted]
  | _ => false

def severity : Error → Severity
  | connection .notConnected | connection (.closed _) => .warning
  | connection .shuttingDown => .info
  | connection _ => .error
  | status .. => .error
  | schema _ => .error
  | notFound _ => .warning
  | configuration _ => .critical

def category : Error → String
  | connection _ => "connection"
  | status .. => "status"
  | schema _ => "schema"
  | notFound _ => "not_found"
  | configuration _ => "configuration"

def kind : Error → String
  | connection .notConnected => "Connection.NotConnected"
  | connection (.noSuitableEndpoint _) => "Connection.NoSuitableEndpoint"
  | connection (.connectFailed ..) => "Connection.ConnectFailed"
  | connection (.closed _) => "Connection.Closed"
  | connection .shuttingDown => "Connection.ShuttingDown"
  | status .. => "Status"
  | schema (.unexpectedResultCount ..) => "Schema.UnexpectedResultCount"
  | schema (.unexpectedValueType ..) => "Schema.UnexpectedValueType"
  | schema (.invalidNodeClass ..) => "Schema.InvalidNodeClass"
  | schema (.unknownNamespaceUri _) => "Schema.UnknownNamespaceUri"
  | schema (.unknownNamespaceIndex _) => "Schema.UnknownNamespaceIndex"
  | schema (.nullArgument _) => "Schema.NullArgument"
  | schema (.invalidNodeId ..) => "Schema.InvalidNodeId"
  | schema (.tooManyPages ..) => "Schema.TooManyPages"
  | schema (.brokenAncestry _) => "Schema.BrokenAncestry"
  | notFound (.noTarget ..) => "NotFound.NoTarget"
  | notFound (.typeNotFound _) => "NotFound.TypeNotFound"
  | notFound (.reference ..) => "NotFound.Reference"
  | notFound (.subscription _) => "NotFound.Subscription"
  | configuration (.missingField _) => "Configuration.MissingField"
  | configuration (.invalidEndpoint ..) => "Configuration.InvalidEndpoint"
  | configuration (.invalidValue ..) => "Configuration.InvalidValue"

def code : Error → ErrorCode
  | connection .notConnected => ⟨1, 1⟩
  | connection (.noSuitableEndpoint _) => ⟨1, 2⟩
  | connection (.connectFailed ..) => ⟨1, 3⟩
  | connection (.closed _) => ⟨1, 4⟩
  | connection .shuttingDown => ⟨1, 5⟩
  | status .. => ⟨2, 1⟩
  | schema (.unexpectedResultCount ..) => ⟨3, 1⟩
  | schema (.unexpectedValueType ..) => ⟨3, 2⟩
  | schema (.invalidNodeClass ..) => ⟨3, 3⟩
  | schema (.unknownNamespaceUri _) => ⟨3, 4⟩
  | schema (.unknownNamespaceIndex _) => ⟨3, 5⟩
  | schema (.nullArgument _) => ⟨3, 6⟩
  | schema (.invalidNodeId ..) => ⟨3, 7⟩
  | schema (.tooManyPages ..) => ⟨3, 8⟩
  | schema (.brokenAncestry _) => ⟨3, 9⟩
  | notFound (.noTarget ..) => ⟨4, 1⟩
  | notFound (.typeNotFound _) => ⟨4, 2⟩
  | notFound (.reference ..) => ⟨4, 3⟩
  | notFound (.subscription _) => ⟨4, 4⟩
  | configuration (.missingField _) => ⟨5, 1⟩
  | configuration (.invalidEndpoint ..) => ⟨5, 2⟩
  | configuration (.invalidValue ..) => ⟨5, 3⟩

def ofBadWireId (bad : BadWireId) : Error := SchemaError.invalidNodeId bad.text bad.fault

end Error

end AddressSpace
