import AddressSpace.Proofs.Exchange
import AddressSpace.Proofs.NamespaceTable
import Mathlib.Logic.Equiv.Defs

/-!
# Renamed namespaces

What a server says with its namespace indices renamed by a permutation.  `renamed_ofList` says that
the tables of a namespace array and of a permuted one take ids and names back and forth alike, up to
the renaming.
-/

namespace AddressSpace

section Renaming

variable (ρ : Equiv.Perm UInt16)

def WireId.rename (id : WireId) : WireId := { id with index := ρ id.index }

def WireName.rename (name : WireName) : WireName := { name with index := ρ name.index }

def BrowseRequest.rename (request : BrowseRequest) : BrowseRequest :=
  { request with
    node := request.node.rename ρ
    referenceType := request.referenceType.rename ρ }

def Reference.rename (reference : Reference) : Reference :=
  { reference with
    node := reference.node.rename ρ
    browseName := reference.browseName.rename ρ
    typeDefinition := reference.typeDefinition.rename ρ
    referenceType := reference.referenceType.rename ρ }

def Page.rename (page : Page) : Page :=
  { page with references := page.references.map (·.rename ρ) }

def ReadRequest.rename (request : ReadRequest) : ReadRequest :=
  { request with node := request.node.rename ρ }

mutual

def Value.rename : Value → Value
  | .nodeId id => .nodeId (id.rename ρ)
  | .qualifiedName name => .qualifiedName (name.rename ρ)
  | .array items => .array (Value.renameAll items)
  | value => value

def Value.renameAll : List Value → List Value
  | [] => []
  | value :: rest => value.rename :: renameAll rest

end

def DataValue.rename (data : DataValue) : DataValue := { data with value := data.value.rename ρ }

def ReadAnswer.rename (answer : ReadAnswer) : ReadAnswer :=
  { answer with values := answer.values.map (·.rename ρ) }

def PathElement.rename (element : PathElement) : PathElement :=
  { element with
    referenceType := element.referenceType.rename ρ
    targetName := element.targetName.rename ρ }

def PathRequest.rename (request : PathRequest) : PathRequest :=
  { start := request.start.rename ρ, elements := request.elements.map (·.rename ρ) }

def PathTargets.rename (result : PathTargets) : PathTargets :=
  { result with targets := result.targets.map (·.rename ρ) }

def PathAnswer.rename (answer : PathAnswer) : PathAnswer :=
  { answer with results := answer.results.map (·.rename ρ) }

end Renaming

variable {ρ : Equiv.Perm UInt16}

theorem WireId.rename_standard (zero : ρ 0 = 0) (n : UInt32) :
    (standard n).rename ρ = standard n := by
  rw [rename, standard, zero]

theorem WireId.rename_eq_standard (zero : ρ 0 = 0) {id : WireId} {n : UInt32} :
    id.rename ρ = standard n ↔ id = standard n := by
  constructor
  · intro renamed
    rw [← rename_standard zero n] at renamed
    have index := ρ.injective (congrArg WireId.index renamed)
    have identifier : id.identifier = .number n := congrArg WireId.identifier renamed
    exact (WireId.mk.injEq ..).mpr ⟨index, identifier⟩
  · rintro rfl
    exact rename_standard zero n

theorem WireId.isNull_rename (zero : ρ 0 = 0) (id : WireId) : (id.rename ρ).isNull = id.isNull := by
  have first : ρ id.index = 0 ↔ id.index = 0 := by
    rw [← zero, ρ.apply_eq_iff_eq, zero]
  have same : id.rename ρ = null ↔ id = null := by
    rw [WireId.mk.injEq, WireId.mk.injEq]
    exact and_congr_left' first
  exact decide_eq_decide.2 same

theorem Value.typeName_rename (value : Value) : (value.rename ρ).typeName = value.typeName := by
  cases value <;> rfl

/-- The second namespace array has each URI of the first one at the renamed index.  No other index
is renamed. -/
structure Permuted (ρ : Equiv.Perm UInt16) (uris uris' : List String) : Prop where
  zero : ρ 0 = 0
  room : uris.length ≤ NamespaceTable.capacity
  length : uris'.length = uris.length
  distinct : uris.Nodup
  moved : ∀ index : UInt16, uris'[(ρ index).toNat]? = uris[index.toNat]?
  kept : ∀ index : UInt16, uris.length ≤ index.toNat → ρ index = index

namespace NamespaceTable

structure Renamed (ρ : Equiv.Perm UInt16) (table table' : NamespaceTable) : Prop where
  zero : ρ 0 = 0
  index : ∀ uri, table'.indexOf uri = (table.indexOf uri).map ρ
  uri : ∀ index, table'.uriAt (ρ index) = table.uriAt index
  listed : ∀ uri, uri ∈ table'.toList ↔ uri ∈ table.toList

theorem idxOf?_eq_some_iff_of_nodup {uris : List String} (distinct : uris.Nodup) (uri : String)
    (i : Nat) : uris.idxOf? uri = some i ↔ uris[i]? = some uri := by
  rw [List.idxOf?_eq_some_iff, List.getElem?_eq_some_iff]
  constructor
  · rintro ⟨inside, here, -⟩
    exact ⟨inside, here⟩
  · rintro ⟨inside, here⟩
    refine ⟨inside, here, fun j before same => ?_⟩
    have equal := (List.getElem_inj distinct).1 (same.trans here.symm)
    omega

theorem getElem?_uris {uris : List String} (room : uris.length ≤ capacity) (distinct : uris.Nodup)
    (index : UInt16) : (ofList uris).uris[index]? = uris[index.toNat]? := by
  have lists := lists_ofList uris
  rw [List.take_of_length_le room] at lists
  ext uri
  rw [lists.uris, idxOf?_eq_some_iff_of_nodup distinct]

end NamespaceTable

namespace Permuted

variable {uris uris' : List String}

theorem nodup (permuted : Permuted ρ uris uris') : uris'.Nodup := by
  have back : ∀ i, i < uris'.length → ∃ index : UInt16, (ρ index).toNat = i := by
    intro i inside
    have room : i < UInt16.size :=
      Nat.lt_of_lt_of_le inside (permuted.length ▸ permuted.room)
    have whole : (UInt16.ofNat i).toNat = i := UInt16.toNat_ofNat_of_lt room
    exact ⟨ρ.symm (UInt16.ofNat i), by rw [ρ.apply_symm_apply, whole]⟩
  -- Equal URIs at two places of the second array come from equal ones of the first.
  refine List.pairwise_iff_getElem.2 fun i j inside inside' before same => ?_
  have same' : uris'[i]? = uris'[j]? := by
    rw [List.getElem?_eq_getElem inside, List.getElem?_eq_getElem inside', same]
  obtain ⟨first, rfl⟩ := back i inside
  obtain ⟨second, rfl⟩ := back j inside'
  rw [permuted.moved, permuted.moved] at same'
  have there : first.toNat < uris.length := by
    have found := permuted.moved first
    rw [List.getElem?_eq_getElem inside] at found
    exact (List.getElem?_eq_some_iff.1 found.symm).1
  have equal := (List.getElem?_inj there permuted.distinct).1 same'
  rw [UInt16.toNat_inj.1 equal] at before
  exact Nat.lt_irrefl _ before

open NamespaceTable

theorem uris_ofList (permuted : Permuted ρ uris uris') (index : UInt16) :
    (ofList uris').uris[ρ index]? = (ofList uris).uris[index]? := by
  rw [getElem?_uris (permuted.length ▸ permuted.room) permuted.nodup,
    getElem?_uris permuted.room permuted.distinct, permuted.moved]

theorem indices_ofList (permuted : Permuted ρ uris uris') (uri : String) :
    (ofList uris').indices[uri]? = (ofList uris).indices[uri]?.map ρ := by
  -- Without repetitions the two maps of a table are inverse to each other.
  have back : ∀ (uris : List String), uris.length ≤ capacity → uris.Nodup → ∀ index,
      (ofList uris).indices[uri]? = some index ↔ (ofList uris).uris[index]? = some uri := by
    intro uris room distinct index
    have lists := lists_ofList uris
    rw [List.take_of_length_le room] at lists
    rw [lists.uris, lists.indices, Option.map_eq_some_iff]
    constructor
    · rintro ⟨i, found, rfl⟩
      have inside := (List.idxOf?_eq_some_iff.1 found).1
      have whole : (UInt16.ofNat i).toNat = i :=
        UInt16.toNat_ofNat_of_lt (Nat.lt_of_lt_of_le inside room)
      rw [found, whole]
    · intro found
      exact ⟨_, found, UInt16.ofNat_toNat⟩
  ext index
  rw [back uris' (permuted.length ▸ permuted.room) permuted.nodup, Option.map_eq_some_iff]
  constructor
  · intro found
    rw [← ρ.apply_symm_apply index, permuted.uris_ofList] at found
    exact ⟨ρ.symm index, (back uris permuted.room permuted.distinct _).2 found,
      ρ.apply_symm_apply index⟩
  · rintro ⟨index, found, rfl⟩
    rw [permuted.uris_ofList]
    exact (back uris permuted.room permuted.distinct _).1 found

theorem renamed_ofList (permuted : Permuted ρ uris uris') :
    Renamed ρ (ofList uris) (ofList uris') := by
  refine ⟨permuted.zero, fun uri => ?_, fun index => ?_, fun uri => ?_⟩
  · unfold indexOf
    by_cases standard : uri.isEmpty ∨ uri = Standard.namespaceUri
    · rw [if_pos standard, if_pos standard, Except.map, permuted.zero]
    · rw [if_neg standard, if_neg standard, permuted.indices_ofList]
      cases (ofList uris).indices[uri]? <;> rfl
  · unfold uriAt
    rw [permuted.uris_ofList]
    cases found : (ofList uris).uris[index]? with
    | some uri => rfl
    | none =>
        rw [getElem?_uris permuted.room permuted.distinct] at found
        rw [permuted.kept index (List.getElem?_eq_none_iff.1 found)]
  · rw [mem_toList, mem_toList]
    constructor
    · rintro ⟨index, found⟩
      rw [← ρ.apply_symm_apply index, permuted.uris_ofList] at found
      exact ⟨_, found⟩
    · rintro ⟨index, found⟩
      exact ⟨ρ index, by rw [permuted.uris_ofList]; exact found⟩

end Permuted

namespace NamespaceTable.Renamed

variable {table table' : NamespaceTable} (renamed : Renamed ρ table table')
include renamed

theorem encode (id : NodeId) : table'.encode id = (table.encode id).map (·.rename ρ) := by
  unfold NamespaceTable.encode
  by_cases null : id.isNull
  · rw [if_pos null, if_pos null, Except.map, WireId.null, WireId.rename, renamed.zero]
  · rw [if_neg null, if_neg null, renamed.index]
    cases table.indexOf id.uri with
    | error cause => rfl
    | ok index =>
        cases (Identifier.ofText id.identifier).mapError Error.ofBadWireId <;> rfl

theorem decode (id : WireId) : table'.decode (id.rename ρ) = table.decode id := by
  unfold NamespaceTable.decode
  rw [WireId.isNull_rename renamed.zero, WireId.rename, renamed.uri]

theorem encodeName (name : QualifiedName) :
    table'.encodeName name = (table.encodeName name).map (·.rename ρ) := by
  unfold NamespaceTable.encodeName
  rw [renamed.index]
  cases table.indexOf name.uri <;> rfl

theorem decodeName (name : WireName) :
    table'.decodeName (name.rename ρ) = table.decodeName name := by
  unfold NamespaceTable.decodeName
  rw [WireName.rename, renamed.uri]

theorem canonical (id : NodeId) : table'.canonical id = table.canonical id := by
  unfold NamespaceTable.canonical
  rw [renamed.encode]
  cases table.encode id with
  | error cause => rfl
  | ok wire => exact renamed.decode wire

end NamespaceTable.Renamed

end AddressSpace
