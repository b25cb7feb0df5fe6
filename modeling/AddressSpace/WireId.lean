import AddressSpace.Json.Fields
import AddressSpace.Text.Base64
import AddressSpace.Text.Blank
import AddressSpace.Text.Cut
import AddressSpace.Text.Digits
import AddressSpace.Text.Guid

namespace AddressSpace

inductive IdFault
  | missingIdentifier
  | badIndex
  | badNumber
  | badGuid
  | badBase64
  | unknownKind
  | described (reason : String)
  deriving DecidableEq

def IdFault.message : IdFault → String
  | missingIdentifier => "Missing identifier after namespace"
  | badIndex => "Invalid namespace index"
  | badNumber => "Invalid numeric identifier"
  | badGuid => "Invalid GUID"
  | badBase64 => "Invalid base64"
  | unknownKind => "Unknown identifier type. Expected i=, s=, g=, or b="
  | described reason => reason

structure BadWireId where
  text : String
  fault : IdFault
  deriving DecidableEq

inductive Identifier
  | number (n : UInt32)
  | text (s : String)
  | guid (g : Guid)
  | bytes (bs : List UInt8)
  deriving DecidableEq, Inhabited

namespace Identifier

def toChars : Identifier → List Char
  | number n => 'i' :: '=' :: (toString n.toNat).toList
  | text s => 's' :: '=' :: s.toList
  | guid g => 'g' :: '=' :: g.toChars
  | bytes bs => 'b' :: '=' :: Text.Base64.encode bs

instance : ToString Identifier := ⟨fun identifier => String.ofList identifier.toChars⟩

def ofChars (cs : List Char) : Except BadWireId Identifier :=
  let orFault (fault : IdFault) : Option Identifier → Except BadWireId Identifier
    | some identifier => .ok identifier
    | none => .error ⟨String.ofList cs, fault⟩
  match cs with
  | 'i' :: '=' :: rest =>
    orFault .badNumber ((Text.unsigned? UInt32.size rest).map fun n => number (UInt32.ofNat n))
  | 's' :: '=' :: rest => .ok (text (String.ofList rest))
  | 'g' :: '=' :: rest => orFault .badGuid ((Guid.ofChars? rest).map guid)
  | 'b' :: '=' :: rest => orFault .badBase64 ((Text.Base64.decode? rest).map bytes)
  | _ => .error ⟨String.ofList cs, .unknownKind⟩

def ofText (s : String) : Except BadWireId Identifier := ofChars s.toList

def toJson : Identifier → Json
  | number n => .object [("type", "Numeric"), ("value", .nat n.toNat)]
  | text s => .object [("type", "String"), ("value", s)]
  | guid g => .object [("type", "Guid"), ("value", toString g)]
  | bytes bs =>
    .object [("type", "Opaque"), ("value", .array (bs.map fun b => .nat b.toNat))]

def readers : List (String × (Json → Option Identifier)) :=
  [("Numeric", fun value => value.word32?.map number),
    ("String", fun value => value.string?.map text),
    ("Guid", fun value => value.string?.bind fun s => (Guid.ofChars? s.toList).map guid),
    ("Opaque", fun value => value.array?.bind fun vs => (vs.mapM Json.word8?).map bytes)]

/-- How the value of a kind is read.  Only as a member of an object may a kind be written in both
ways in which cases are; as an element of an array it is its name. -/
def readerOf? (record kind : Json) : Option (Json → Option Identifier) :=
  match record with
  | .array _ => kind.string?.bind (readers.lookup ·)
  | _ => kind.case? readers

def ofJson? (value : Json) : Option Identifier := do
  let fields ← value.fields? ["type", "value"]
  let read ← fields.required? "type" (readerOf? value)
  fields.required? "value" read

end Identifier

/-- A node of the server at hand. -/
structure WireId where
  index : UInt16
  identifier : Identifier
  deriving DecidableEq

namespace WireId

def null : WireId := ⟨0, .number 0⟩

instance : Inhabited WireId := ⟨null⟩

def standard (n : UInt32) : WireId := ⟨0, .number n⟩

def isNull (id : WireId) : Bool := id = null

def toChars (id : WireId) : List Char :=
  if id.index = 0 then id.identifier.toChars
  else 'n' :: 's' :: '=' :: (toString id.index.toNat).toList ++ ';' :: id.identifier.toChars

instance : ToString WireId := ⟨fun id => String.ofList id.toChars⟩

def ofTrimmed (cs : List Char) : Except BadWireId WireId :=
  match cs with
  | 'n' :: 's' :: '=' :: rest =>
    match Text.cutFirst? ';' rest with
    | none => .error ⟨String.ofList cs, .missingIdentifier⟩
    | some (index, identifier) =>
      match Text.unsigned? UInt16.size index with
      | none => .error ⟨String.ofList cs, .badIndex⟩
      | some n => (Identifier.ofChars identifier).map fun identifier => ⟨UInt16.ofNat n, identifier⟩
  | _ => (Identifier.ofChars cs).map fun identifier => ⟨0, identifier⟩

def ofText (s : String) : Except BadWireId WireId := ofTrimmed (Text.trim s.toList)

def toJson (id : WireId) : Json :=
  .object [("namespace_index", .nat id.index.toNat), ("identifier", id.identifier.toJson)]

def ofJson? (value : Json) : Option WireId := do
  let fields ← value.fields? ["namespace_index", "identifier"]
  some ⟨← fields.required? "namespace_index" Json.word16?,
    ← fields.required? "identifier" Identifier.ofJson?⟩

end WireId

structure WireName where
  index : UInt16
  name : String
  deriving DecidableEq

namespace WireName

def null : WireName := ⟨0, ""⟩

instance : Inhabited WireName := ⟨null⟩

instance : ToString WireName := ⟨fun name => toString name.index.toNat ++ ":" ++ name.name⟩

def toJson (name : WireName) : Json :=
  .object [("namespace_index", .nat name.index.toNat), ("name", name.name)]

def ofJson? (value : Json) : Option WireName := do
  let fields ← value.fields? ["namespace_index", "name"]
  some ⟨← fields.required? "namespace_index" Json.word16?,
    ← fields.required? "name" Json.string?⟩

end WireName

end AddressSpace
