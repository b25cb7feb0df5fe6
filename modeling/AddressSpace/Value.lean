import AddressSpace.Json.Writer
import AddressSpace.Status
import AddressSpace.Timestamp
import AddressSpace.WireId

namespace AddressSpace

inductive Value
  | empty
  | boolean (b : Bool)
  | int32 (n : Int32)
  | uint32 (n : UInt32)
  | int64 (n : Int64)
  | double (x : Double)
  | string (s : String)
  | dateTime (t : Timestamp)
  | guid (g : Guid)
  | byteString (bs : List UInt8)
  | nodeId (id : WireId)
  | qualifiedName (name : WireName)
  | array (items : List Value)

namespace Value

instance : Inhabited Value := ⟨empty⟩

def typeName : Value → String
  | empty => "Empty"
  | boolean _ => "Boolean"
  | int32 _ => "Int32"
  | uint32 _ => "UInt32"
  | int64 _ => "Int64"
  | double _ => "Double"
  | string _ => "String"
  | dateTime _ => "DateTime"
  | guid _ => "Guid"
  | byteString _ => "ByteString"
  | nodeId _ => "NodeId"
  | qualifiedName _ => "QualifiedName"
  | array _ => "Array"

def wordOfInt? (n : Int) : Option UInt32 :=
  if 0 ≤ n ∧ n.toNat < UInt32.size then some (UInt32.ofNat n.toNat) else none

def word? : Value → Option UInt32
  | uint32 n => some n
  | int32 n => wordOfInt? n.toInt
  | int64 n => wordOfInt? n.toInt
  | _ => none

def string? : Value → Option String
  | string s => some s
  | _ => none

def strings? : Value → Option (List String)
  | array items => items.mapM string?
  | _ => none

mutual

/-- A value as JSON.  What JSON has no number for is written as a string, and infinities and NaN as
`null`. -/
def toJson : Value → Json
  | empty => .null
  | boolean b => .bool b
  | int32 n => .int n.toInt
  | uint32 n => .nat n.toNat
  | int64 n => .int n.toInt
  | double x => if x.isFinite then .real x else .null
  | string s => .string s
  | dateTime t => .string (toString t)
  | guid g => .string (toString g)
  | byteString bs => .string (String.ofList (Text.Base64.encode bs))
  | nodeId id => .string (toString id)
  | qualifiedName name =>
    .object [("name", name.name), ("namespaceIndex", .nat name.index.toNat)]
  | array items => .array (listToJson items)

def listToJson : List Value → List Json
  | [] => []
  | value :: rest => value.toJson :: listToJson rest

end

def describe (value : Value) : String :=
  match value with
  | empty => "empty"
  | byteString bs => s!"<{bs.length} bytes>"
  | array items => s!"[{items.length} items]"
  | _ => value.toJson.toText

end Value

structure DataValue where
  status : Status := .good
  value : Value := .empty
  deriving Inhabited

namespace DataValue

def good (value : Value) : DataValue := { value }

def bad (status : Status) : DataValue := { status }

def toJson (data : DataValue) : Json := if data.status.isBad then .null else data.value.toJson

end DataValue

end AddressSpace
