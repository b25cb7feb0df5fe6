import AddressSpace.Duration.Written
import AddressSpace.Error
import AddressSpace.Text.Quoted

namespace AddressSpace

inductive SecurityMode
  | none | sign | signAndEncrypt
  deriving DecidableEq, Repr

namespace SecurityMode

instance : Inhabited SecurityMode := ⟨none⟩

def value : SecurityMode → Nat
  | none => 1
  | sign => 2
  | signAndEncrypt => 3

def name : SecurityMode → String
  | none => "None"
  | sign => "Sign"
  | signAndEncrypt => "SignAndEncrypt"

def cases : List (String × SecurityMode) :=
  [("none", none), ("sign", sign), ("sign_and_encrypt", signAndEncrypt)]

def toJson : SecurityMode → Json
  | none => "none"
  | sign => "sign"
  | signAndEncrypt => "sign_and_encrypt"

def ofJson? (value : Json) : Option SecurityMode := value.case? cases

def policyUri : SecurityMode → String
  | none => "http://opcfoundation.org/UA/SecurityPolicy#None"
  | _ => "http://opcfoundation.org/UA/SecurityPolicy#Basic256Sha256"

end SecurityMode

structure Endpoint where
  url : String
  mode : SecurityMode
  policyUri : String
  deriving DecidableEq

namespace Endpoint

def ofMode (url : String) (mode : SecurityMode) : Endpoint := ⟨url, mode, mode.policyUri⟩

def toJson (endpoint : Endpoint) : Json :=
  .object [("url", endpoint.url), ("security_mode", endpoint.mode.toJson),
    ("security_policy_uri", endpoint.policyUri)]

def ofJson? (value : Json) : Option Endpoint := do
  let fields ← value.fields? ["url", "security_mode", "security_policy_uri"]
  some ⟨← fields.required? "url" Json.string?,
    ← fields.required? "security_mode" SecurityMode.ofJson?,
    ← fields.required? "security_policy_uri" Json.string?⟩

end Endpoint

inductive Identity
  | anonymous
  | user (name password : String)
  deriving DecidableEq

namespace Identity

instance : Inhabited Identity := ⟨anonymous⟩

def describe : Identity → String
  | anonymous => "Anonymous"
  | user name _ =>
    "UserName \x7b username: " ++ Text.Quoted.literal name ++ ", password: \"***\" \x7d"

def toJson : Identity → Json
  | anonymous => .object [("type", "anonymous")]
  | user name password =>
    .object [("type", "user_name"), ("username", name), ("password", password)]

def readers : List (String × (Json → Option Identity)) :=
  [("anonymous", fun
      | .object _ | .array [] => some anonymous
      | _ => none),
    ("user_name", fun value => do
      let fields ← value.fields? ["username", "password"]
      some (user (← fields.required? "username" Json.string?)
        (← fields.required? "password" Json.string?)))]

/-- The kind of a tagged record and the record without it: the kind is a member of an object or the
first element of an array.  Nothing in the record may be unreadable. -/
def cutKind? : Json → Option (String × Json)
  | .object members =>
    match members.partition (·.1 = "type") with
    | ([(_, .string kind)], rest) =>
      if Json.allMembersReadable rest then some (kind, .object rest) else none
    | _ => none
  | .array (.string kind :: rest) =>
    if Json.allReadable rest then some (kind, .array rest) else none
  | _ => none

def ofJson? (value : Json) : Option Identity := do
  let (kind, rest) ← cutKind? value
  (← readers.lookup kind) rest

end Identity

structure Config where
  endpoint : String
  securityMode : SecurityMode := .none
  identity : Identity := .anonymous
  requestTimeout : Duration := ⟨10 * nanosPerSecond, by decide⟩
  reconnectInterval : Duration := ⟨nanosPerSecond, by decide⟩
  retryDelay : Duration := ⟨nanosPerSecond, by decide⟩
  maxTypeDepth : UInt64 := 100
  maxCrawlDepth : UInt64 := 64
  maxPages : UInt64 := 64
  /-- The namespaces whose types are collected, all if there are none. -/
  typeNamespaces : List String := []
  deriving DecidableEq

namespace Config

def ofEndpoint (endpoint : String) : Config := { endpoint }

def scheme : String := "opc.tcp://"

def notPositive (field : String) : ConfigError := .invalidValue field "must be greater than 0"

def fault? (config : Config) : Option ConfigError :=
  if config.endpoint.isEmpty then some (.missingField "endpoint")
  else if !config.endpoint.startsWith scheme then
    some (.invalidEndpoint config.endpoint "Endpoint must start with opc.tcp://")
  else if (match config.identity with | .user name _ => name.isEmpty | .anonymous => false) then
    some (.missingField "user_identity.username")
  else if config.maxTypeDepth = 0 then some (notPositive "max_type_depth")
  else if config.maxCrawlDepth = 0 then some (notPositive "max_crawl_depth")
  else if config.maxPages = 0 then some (notPositive "max_continuation_pages")
  else if config.requestTimeout = .zero then some (notPositive "request_timeout")
  else if config.reconnectInterval = .zero then some (notPositive "reconnect_interval")
  else none

def validate (config : Config) : Except ConfigError Config :=
  match config.fault? with
  | some fault => .error fault
  | none => .ok config

def durationToJson (d : Duration) : Json := d.toText

def durationOfJson? (value : Json) : Option Duration :=
  value.string?.bind fun s => Duration.ofChars? s.toList

def boundToJson (n : UInt64) : Json := .nat n.toNat

def boundOfJson? (value : Json) : Option UInt64 := value.count?.map UInt64.ofNat

def toJson (config : Config) : Json :=
  .object [("endpoint", config.endpoint),
    ("security_mode", config.securityMode.toJson),
    ("user_identity", config.identity.toJson),
    ("request_timeout", durationToJson config.requestTimeout),
    ("reconnect_interval", durationToJson config.reconnectInterval),
    ("retry_delay", durationToJson config.retryDelay),
    ("max_type_depth", boundToJson config.maxTypeDepth),
    ("max_crawl_depth", boundToJson config.maxCrawlDepth),
    ("max_continuation_pages", boundToJson config.maxPages),
    ("expected_type_namespaces", .array (config.typeNamespaces.map .string))]

def ofJson? (value : Json) : Option Config := do
  let fields ← value.fields? ["endpoint", "security_mode", "user_identity", "request_timeout",
    "reconnect_interval", "retry_delay", "max_type_depth", "max_crawl_depth",
    "max_continuation_pages", "expected_type_namespaces"]
  let usual := ofEndpoint (← fields.required? "endpoint" Json.string?)
  some {
    endpoint := usual.endpoint
    securityMode :=
      ← fields.optional? "security_mode" usual.securityMode SecurityMode.ofJson?
    identity := ← fields.optional? "user_identity" usual.identity Identity.ofJson?
    requestTimeout := ← fields.optional? "request_timeout" usual.requestTimeout durationOfJson?
    reconnectInterval :=
      ← fields.optional? "reconnect_interval" usual.reconnectInterval durationOfJson?
    retryDelay := ← fields.optional? "retry_delay" usual.retryDelay durationOfJson?
    maxTypeDepth := ← fields.optional? "max_type_depth" usual.maxTypeDepth boundOfJson?
    maxCrawlDepth := ← fields.optional? "max_crawl_depth" usual.maxCrawlDepth boundOfJson?
    maxPages := ← fields.optional? "max_continuation_pages" usual.maxPages boundOfJson?
    typeNamespaces :=
      ← fields.optional? "expected_type_namespaces" [] fun value =>
        value.array?.bind fun uris => uris.mapM Json.string? }

structure Draft where
  endpoint : Option String := none
  securityMode : Option SecurityMode := none
  identity : Option Identity := none
  requestTimeout : Option Duration := none
  reconnectInterval : Option Duration := none
  retryDelay : Option Duration := none
  maxTypeDepth : Option UInt64 := none
  maxCrawlDepth : Option UInt64 := none
  maxPages : Option UInt64 := none
  typeNamespaces : List String := []

def Draft.addTypeNamespace (draft : Draft) (uri : String) : Draft :=
  { draft with typeNamespaces := draft.typeNamespaces ++ [uri] }

def Draft.build (draft : Draft) : Except ConfigError Config :=
  match draft.endpoint with
  | none => .error (.missingField "endpoint")
  | some endpoint =>
    let usual := ofEndpoint endpoint
    validate {
      endpoint
      securityMode := draft.securityMode.getD usual.securityMode
      identity := draft.identity.getD usual.identity
      requestTimeout := draft.requestTimeout.getD usual.requestTimeout
      reconnectInterval := draft.reconnectInterval.getD usual.reconnectInterval
      retryDelay := draft.retryDelay.getD usual.retryDelay
      maxTypeDepth := draft.maxTypeDepth.getD usual.maxTypeDepth
      maxCrawlDepth := draft.maxCrawlDepth.getD usual.maxCrawlDepth
      maxPages := draft.maxPages.getD usual.maxPages
      typeNamespaces := draft.typeNamespaces }

end Config

structure SessionOptions where
  identity : Identity
  timeout : Duration
  deriving DecidableEq

def Config.sessionOptions (config : Config) : SessionOptions :=
  ⟨config.identity, config.requestTimeout⟩

end AddressSpace
