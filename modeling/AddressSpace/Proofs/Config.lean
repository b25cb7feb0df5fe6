import AddressSpace.Config
import AddressSpace.Proofs.Duration
import AddressSpace.Proofs.Json

namespace AddressSpace

namespace Json

theorem fields?_object {names : List String} {members : List (String × Json)}
    (named : members.map (·.1) = names) (distinct : names.Nodup) :
    fields? names (object members) = some members := by
  have known : members.filter (·.1 ∈ names) = members := by
    rw [List.filter_eq_self]
    intro member listed
    rw [decide_eq_true_eq, ← named]
    exact List.mem_map_of_mem listed
  simp only [fields?, knownMembers?, known, named, if_pos distinct]

variable {α : Type}

theorem Fields.required?_cons (shown : String) (value : Json) (fields : Fields) (name : String)
    (read : Json → Option α) : Fields.required? ((shown, value) :: fields) name read =
      if name = shown then read value else fields.required? name read := by
  by_cases same : name = shown
  · simp [required?, same]
  · have other : (name == shown) = false := beq_false_of_ne same
    simp only [required?, List.lookup_cons, other, if_neg same]

theorem Fields.optional?_cons (shown : String) (value : Json) (fields : Fields) (name : String)
    (default : α) (read : Json → Option α) : Fields.optional? ((shown, value) :: fields) name default read =
      if name = shown then read value else fields.optional? name default read := by
  by_cases same : name = shown
  · simp [optional?, same]
  · have other : (name == shown) = false := beq_false_of_ne same
    simp only [optional?, List.lookup_cons, other, if_neg same]

theorem mapM_string? (texts : List String) : texts.mapM (string? ∘ string) = some texts := by
  induction texts with
  | nil => rfl
  | cons text texts ih =>
      rw [List.mapM_cons, ih]
      rfl

theorem allPlain_string (texts : List String) (room : Nat) : AllPlain room (texts.map string) := by
  induction texts with
  | nil => trivial
  | cons text texts ih => exact ⟨trivial, ih⟩

end Json

namespace SecurityMode

theorem ofJson?_toJson (mode : SecurityMode) : ofJson? mode.toJson = some mode := by
  cases mode <;> rfl

theorem isPlain_toJson (mode : SecurityMode) (room : Nat) : mode.toJson.IsPlain room := by
  cases mode <;> trivial

end SecurityMode

namespace Identity

theorem ofJson?_toJson (identity : Identity) : ofJson? identity.toJson = some identity := by
  cases identity with
  | anonymous => rfl
  | user name password =>
      have shown : Json.fields? ["username", "password"]
          (.object [("username", .string name), ("password", .string password)]) =
            some [("username", .string name), ("password", .string password)] :=
        Json.fields?_object rfl (by decide)
      simp [ofJson?, toJson, cutKind?, readers, shown, Json.allMembersReadable, Json.isReadable,
        Json.Fields.required?_cons, Json.string?, List.lookup_cons]

theorem isPlain_toJson {room : Nat} (nested : 0 < room) (identity : Identity) :
    identity.toJson.IsPlain room := by
  cases identity <;> simp [toJson, Json.IsPlain, Json.AllMembersPlain, nested]

end Identity

namespace Config

theorem durationOfJson?_durationToJson (d : Duration) :
    durationOfJson? (durationToJson d) = some d :=
  d.ofChars?_toText

theorem boundOfJson?_boundToJson (n : UInt64) : boundOfJson? (boundToJson n) = some n := by
  have small : n.toNat < UInt64.size := n.toNat_lt_size
  simp [boundOfJson?, boundToJson, Json.nat, Json.count?, Json.natBelow?, small]

theorem isPlain_boundToJson (n : UInt64) (room : Nat) : (boundToJson n).IsPlain room := by
  have small : n.toNat < UInt64.size := n.toNat_lt_size
  rw [boundToJson, Json.nat, Json.IsPlain]
  omega

theorem ofJson?_toJson (config : Config) : ofJson? config.toJson = some config := by
  rw [ofJson?, toJson, Json.fields?_object]
  · simp [Json.Fields.required?_cons, Json.Fields.optional?_cons, Json.string?, Json.array?, ofEndpoint,
      config.securityMode.ofJson?_toJson, config.identity.ofJson?_toJson,
      durationOfJson?_durationToJson, boundOfJson?_boundToJson, Json.mapM_string?]
  · rfl
  · decide

theorem isPlain_toJson (config : Config) : config.toJson.IsPlain Json.maxNesting := by
  simp [toJson, Json.IsPlain, Json.AllMembersPlain, Json.maxNesting, Json.allPlain_string,
    durationToJson, isPlain_boundToJson, config.securityMode.isPlain_toJson,
    config.identity.isPlain_toJson]

def text (config : Config) : String := config.toJson.toText

def ofText? (text : String) : Option Config := (Json.ofText? text).bind ofJson?

theorem ofText?_text (config : Config) : ofText? config.text = some config := by
  rw [ofText?, text, Json.ofText?_toText config.isPlain_toJson]
  exact config.ofJson?_toJson

/-- A configuration is read back from its JSON and from the text of its JSON, and the check says of
what is read what it says of the configuration. -/
theorem reloads (config : Config) :
    ofJson? config.toJson = some config ∧ ofText? config.text = some config ∧
      (ofText? config.text).map validate = some config.validate := by
  have read := config.ofText?_text
  refine ⟨config.ofJson?_toJson, read, ?_⟩
  rw [read, Option.map_some]

end Config

end AddressSpace
