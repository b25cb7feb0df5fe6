import AddressSpace.Config
import AddressSpace.NodeClass
import AddressSpace.Value

/-!
Requests to a server and its answers.

A `Transport` is everything that can be asked of a server.  The server has a state of any type, and
each call may change it, whether it succeeds or fails.
-/

namespace AddressSpace

inductive Direction
  | forward | backward | both
  deriving DecidableEq, Repr

namespace Direction

instance : Inhabited Direction := ⟨forward⟩

def value : Direction → Nat
  | forward => 0
  | backward => 1
  | both => 2

def cases : List (String × Direction) :=
  [("forward", forward), ("backward", backward), ("both", both)]

def toJson : Direction → Json
  | forward => "forward"
  | backward => "backward"
  | both => "both"

def ofJson? (value : Json) : Option Direction := value.case? cases

end Direction

structure BrowseRequest where
  node : WireId
  direction : Direction
  referenceType : WireId
  includeSubtypes : Bool
  classMask : ClassMask
  resultMask : ResultMask
  deriving DecidableEq

structure Reference where
  node : WireId
  browseName : WireName := .null
  nodeClass : UInt32 := 0
  typeDefinition : WireId := .null
  referenceType : WireId := .null
  isForward : Bool := false
  displayName : String := ""
  deriving DecidableEq

structure ContinuationPoint where
  token : String
  deriving DecidableEq

structure Page where
  status : Status := .good
  references : List Reference := []
  next : Option ContinuationPoint := none

inductive Attribute
  | nodeClass | browseName | displayName | value
  deriving DecidableEq, Repr

namespace Attribute

instance : Inhabited Attribute := ⟨value⟩

def number : Attribute → Nat
  | nodeClass => 2
  | browseName => 3
  | displayName => 4
  | value => 13

def cases : List (String × Attribute) :=
  [("node_class", nodeClass), ("browse_name", browseName), ("display_name", displayName),
    ("value", value)]

def toJson : Attribute → Json
  | nodeClass => "node_class"
  | browseName => "browse_name"
  | displayName => "display_name"
  | value => "value"

def ofJson? (value : Json) : Option Attribute := value.case? cases

end Attribute

structure ReadRequest where
  node : WireId
  attr : Attribute := .value
  deriving DecidableEq

structure ReadAnswer where
  status : Status := .good
  values : List DataValue := []

def ReadAnswer.single (node : String) (answer : ReadAnswer) : Except Error Value :=
  if answer.status.isBad then .error (.status "Read" node answer.status)
  else
    match answer.values with
    | [data] =>
      if data.status.isBad then .error (.status "Read" node data.status) else .ok data.value
    | values => .error (SchemaError.unexpectedResultCount "Read" 1 values.length)

structure PathElement where
  referenceType : WireId
  isInverse : Bool
  includeSubtypes : Bool
  targetName : WireName
  deriving DecidableEq

structure PathRequest where
  start : WireId
  elements : List PathElement
  deriving DecidableEq

structure PathTargets where
  status : Status := .good
  targets : List WireId := []
  deriving DecidableEq

structure PathAnswer where
  status : Status := .good
  results : List PathTargets := []
  deriving DecidableEq

structure Listener where
  number : Nat
  deriving DecidableEq, Inhabited

/-- A conversation with a server whose state has type `σ`: it ends with a result or an error, and
with a new state either way. -/
abbrev Exchange (σ α : Type) := EStateM Error σ α

namespace Exchange

variable {σ τ α : Type}

def fail (cause : Error) : Exchange σ α := throw cause

def ofExcept : Except Error α → Exchange σ α
  | .ok a => pure a
  | .error cause => fail cause

def within (part : τ → σ) (put : σ → τ → τ) (exchange : Exchange σ α) : Exchange τ α := fun whole =>
  match exchange (part whole) with
  | .ok a new => .ok a (put new whole)
  | .error cause new => .error cause (put new whole)

def result (exchange : Exchange σ α) (state : σ) : Except Error α × σ :=
  match exchange state with
  | .ok a new => (.ok a, new)
  | .error cause new => (.error cause, new)

end Exchange

structure Transport (σ : Type) where
  isConnected : σ → Bool
  endpoints : String → Exchange σ (List Endpoint)
  connect : Endpoint → SessionOptions → Exchange σ Unit
  disconnect : Exchange σ Unit
  browse : BrowseRequest → Exchange σ Page
  browseNext : ContinuationPoint → Exchange σ Page
  read : List ReadRequest → Exchange σ ReadAnswer
  translate : PathRequest → Exchange σ PathAnswer
  subscribe : WireId → Listener → Exchange σ UInt32
  unsubscribe : UInt32 → Exchange σ Unit

end AddressSpace
