import AddressSpace.Json.Fields
import AddressSpace.Malformed

namespace AddressSpace

inductive NodeClass
  | unspecified | object | var | method | objectType | variableType | referenceType | dataType
  | view
  deriving DecidableEq, Inhabited, Repr

namespace NodeClass

def cases : List (String × NodeClass) :=
  [("unspecified", unspecified), ("object", object), ("variable", var), ("method", method),
    ("object_type", objectType), ("variable_type", variableType),
    ("reference_type", referenceType), ("data_type", dataType), ("view", view)]

def value : NodeClass → UInt32
  | unspecified => 0
  | object => 1
  | var => 2
  | method => 4
  | objectType => 8
  | variableType => 16
  | referenceType => 32
  | dataType => 64
  | view => 128

def ofValue? (n : UInt32) : Option NodeClass := (cases.map (·.2)).find? (·.value = n)

def ofValue (n : UInt32) : Except Malformed NodeClass :=
  match ofValue? n with
  | some nodeClass => .ok nodeClass
  | none => .error (.nodeClass n)

theorem ofValue?_value (c : NodeClass) : ofValue? c.value = some c := by cases c <;> rfl

def name : NodeClass → String
  | unspecified => "Unspecified"
  | object => "Object"
  | var => "Variable"
  | method => "Method"
  | objectType => "ObjectType"
  | variableType => "VariableType"
  | referenceType => "ReferenceType"
  | dataType => "DataType"
  | view => "View"

def isType : NodeClass → Bool
  | objectType | variableType => true
  | _ => false

def toJson (c : NodeClass) : Json :=
  match c with
  | unspecified => "unspecified"
  | object => "object"
  | var => "variable"
  | method => "method"
  | objectType => "object_type"
  | variableType => "variable_type"
  | referenceType => "reference_type"
  | dataType => "data_type"
  | view => "view"

def ofJson? (value : Json) : Option NodeClass := value.case? cases

end NodeClass

inductive ModellingRule
  | mandatory | optional | mandatoryPlaceholder | optionalPlaceholder
  deriving DecidableEq, Repr

namespace ModellingRule

instance : Inhabited ModellingRule := ⟨optional⟩

def name : ModellingRule → String
  | mandatory => "Mandatory"
  | optional => "Optional"
  | mandatoryPlaceholder => "MandatoryPlaceholder"
  | optionalPlaceholder => "OptionalPlaceholder"

instance : ToString ModellingRule := ⟨name⟩

def ofName? (s : String) : Option ModellingRule :=
  [mandatory, optional, mandatoryPlaceholder, optionalPlaceholder].find? (·.name = s)

/-- The rule that a browse name stands for: any name that no rule has stands for optional. -/
def ofBrowseName (s : String) : ModellingRule := (ofName? s).getD optional

def isOverridable : ModellingRule → Bool
  | optional | optionalPlaceholder => true
  | _ => false

def isPlaceholder : ModellingRule → Bool
  | mandatoryPlaceholder | optionalPlaceholder => true
  | _ => false

def cases : List (String × ModellingRule) :=
  [("mandatory", mandatory), ("optional", optional),
    ("mandatory_placeholder", mandatoryPlaceholder), ("optional_placeholder", optionalPlaceholder)]

def toJson : ModellingRule → Json
  | mandatory => "mandatory"
  | optional => "optional"
  | mandatoryPlaceholder => "mandatory_placeholder"
  | optionalPlaceholder => "optional_placeholder"

def ofJson? (value : Json) : Option ModellingRule := value.case? cases

end ModellingRule

structure ClassMask where
  bits : UInt32
  deriving DecidableEq, Inhabited, Repr

namespace ClassMask

def ofClass (c : NodeClass) : ClassMask := ⟨c.value⟩

def union (a b : ClassMask) : ClassMask := ⟨a.bits ||| b.bits⟩

instance : OrOp ClassMask := ⟨union⟩

def contains (mask : ClassMask) (c : NodeClass) : Bool := mask.bits &&& c.value != 0

def all : ClassMask := ⟨255⟩

def types : ClassMask := ofClass .objectType ||| ofClass .variableType

def instancesAndTypes : ClassMask := ofClass .object ||| ofClass .var ||| types

end ClassMask

structure ResultMask where
  bits : UInt32
  deriving DecidableEq, Inhabited, Repr

namespace ResultMask

def union (a b : ResultMask) : ResultMask := ⟨a.bits ||| b.bits⟩

instance : OrOp ResultMask := ⟨union⟩

def contains (mask field : ResultMask) : Bool := mask.bits &&& field.bits != 0

def none : ResultMask := ⟨0x00⟩
def referenceType : ResultMask := ⟨0x01⟩
def isForward : ResultMask := ⟨0x02⟩
def nodeClass : ResultMask := ⟨0x04⟩
def browseName : ResultMask := ⟨0x08⟩
def displayName : ResultMask := ⟨0x10⟩
def typeDefinition : ResultMask := ⟨0x20⟩

def all : ResultMask := ⟨0x3F⟩

end ResultMask

end AddressSpace
