import AddressSpace.NamespaceTable
import AddressSpace.Proofs.Exchange
import AddressSpace.Proofs.Identifier

namespace AddressSpace

theorem Value.strings?_eq_some_iff {value : Value} {texts : List String} :
    value.strings? = some texts ↔ value = .array (texts.map .string) := by
  have strings (items : List Value) (texts : List String) :
      items.mapM string? = some texts ↔ items = texts.map .string := by
    induction items generalizing texts with
    | nil => cases texts <;> simp
    | cons item rest ih =>
        rw [List.mapM_cons]
        cases item with
        | string s =>
            cases texts with
            | nil => simp [string?, Option.bind_eq_some_iff]
            | cons text texts => simpa [string?, Option.bind_eq_some_iff, ih] using and_comm
        | _ => cases texts <;> simp [string?]
  cases value <;> simp [strings?, strings]

namespace NamespaceTable

structure Lists (table : NamespaceTable) (uris : List String) : Prop where
  indices : ∀ uri, table.indices[uri]? = (uris.idxOf? uri).map UInt16.ofNat
  uris : ∀ (index : UInt16) uri, table.uris[index]? = some uri ↔ uris.idxOf? uri = some index.toNat

theorem lists_empty : empty.Lists [] := by
  refine ⟨fun uri => ?_, fun index uri => ?_⟩ <;> simp [empty]

theorem idxOf?_append_singleton (uris : List String) (last uri : String) :
    (uris ++ [last]).idxOf? uri =
      (uris.idxOf? uri).or (if last = uri then some uris.length else none) := by
  induction uris with
  | nil => simp
  | cons first rest ih =>
      rw [List.cons_append, List.idxOf?_cons, List.idxOf?_cons, ih]
      by_cases here : first = uri
      · simp [here]
      · by_cases same : last = uri <;> simp [here, same]

theorem Lists.add {table : NamespaceTable} {uris : List String} (lists : table.Lists uris)
    (last : String) (room : uris.length < capacity) :
    (table.add last (UInt16.ofNat uris.length)).Lists (uris ++ [last]) := by
  have small : (UInt16.ofNat uris.length).toNat = uris.length := UInt16.toNat_ofNat_of_lt room
  unfold NamespaceTable.add
  by_cases present : last ∈ uris
  · -- The URI keeps the place where it stood first.
    have there : table.indices.contains last = true := by
      rw [← Std.TreeMap.isSome_getElem?_eq_contains, lists.indices]
      simp [present]
    have same : ∀ uri, (uris ++ [last]).idxOf? uri = uris.idxOf? uri := by
      intro uri
      rw [idxOf?_append_singleton]
      by_cases equal : last = uri
      · subst equal
        obtain ⟨i, found⟩ := Option.isSome_iff_exists.1 (List.isSome_idxOf?.2 present)
        rw [found, Option.some_or]
      · simp [equal]
    rw [if_pos there]
    exact ⟨fun uri => by rw [same, lists.indices], fun index uri => by rw [same, lists.uris]⟩
  · have absent : table.indices.contains last = false := by
      rw [← Std.TreeMap.isSome_getElem?_eq_contains, lists.indices]
      simp [List.idxOf?_eq_none_iff.2 present]
    rw [if_neg (Bool.eq_false_iff.1 absent)]
    refine ⟨fun uri => ?_, fun index uri => ?_⟩
    · rw [idxOf?_append_singleton, Std.TreeMap.getElem?_insert, lists.indices]
      by_cases equal : last = uri
      · subst equal
        simp [List.idxOf?_eq_none_iff.2 present]
      · simp [equal]
    · rw [idxOf?_append_singleton, Std.TreeMap.getElem?_insert]
      -- No URI of before has the new index, as that is beyond the places of all of them.
      have inside : ∀ i, uris.idxOf? uri = some i → i < uris.length := by
        intro i found
        exact (List.idxOf?_eq_some_iff.1 found).1
      by_cases here : UInt16.ofNat uris.length = index
      · subst here
        rw [if_pos (by simp), small]
        by_cases equal : last = uri
        · subst equal
          simp [List.idxOf?_eq_none_iff.2 present]
        · have elsewhere : uris.idxOf? uri ≠ some uris.length :=
            fun found => Nat.lt_irrefl _ (inside _ found)
          simp [equal, elsewhere]
      · rw [if_neg (by simpa using here), lists.uris]
        by_cases equal : last = uri
        · subst equal
          have other : uris.length ≠ index.toNat := by
            intro same
            rw [same, UInt16.ofNat_toNat] at here
            exact here rfl
          simp [List.idxOf?_eq_none_iff.2 present, other]
        · simp [equal]

theorem Lists.foldl_add (rest : List String) {front : List String} {table : NamespaceTable}
    (lists : table.Lists front) (room : (front ++ rest).length ≤ capacity) :
    ((rest.zipIdx front.length).foldl
      (fun table entry => table.add entry.1 (UInt16.ofNat entry.2)) table).Lists (front ++ rest) := by
  induction rest generalizing front table with
  | nil =>
      rw [List.append_nil]
      exact lists
  | cons last rest ih =>
      have room' : (front ++ [last] ++ rest).length ≤ capacity := by simpa using room
      have grown := lists.add last (by simp at room; omega)
      have listed := ih grown room'
      simpa using listed

theorem lists_ofList (uris : List String) : (ofList uris).Lists (uris.take capacity) :=
  lists_empty.foldl_add (uris.take capacity) (List.length_take_le _ _)

def IsHome (uri : String) : Prop := uri.isEmpty ∨ uri = Standard.namespaceUri

/-- A table in which the URIs that always have the index zero do not have another one. -/
def Regular (table : NamespaceTable) : Prop :=
  ∀ (index : UInt16) uri, table.uris[index]? = some uri →
    uri.isEmpty ∨ uri = Standard.namespaceUri → index = 0

variable {table : NamespaceTable} {uris : List String}

theorem regular_ofList
    (away : ∀ uri ∈ uris.tail, ¬ (uri.isEmpty ∨ uri = Standard.namespaceUri)) :
    (ofList uris).Regular := by
  intro index uri known home
  have listed := ((lists_ofList uris).uris index uri).1 known
  obtain ⟨inside, same, -⟩ := List.idxOf?_eq_some_iff.1 listed
  rw [List.getElem_take] at same
  cases place : index.toNat with
  | zero => exact UInt16.toNat_inj.1 place
  | succ i =>
      rw [List.length_take] at inside
      have later : uris.tail[i]? = some uri := by
        rw [List.getElem?_tail, ← place, List.getElem?_eq_getElem (by omega), same]
      exact absurd home (away uri (List.mem_of_getElem? later))

theorem indexOf_home {uri : String} (home : IsHome uri) : table.indexOf uri = .ok 0 := if_pos home

theorem Lists.indexOf_away (lists : table.Lists uris) {index : UInt16} {uri : String}
    (away : ¬ IsHome uri) (known : table.uris[index]? = some uri) :
    table.indexOf uri = .ok index := by
  have listed := (lists.uris index uri).1 known
  refine (if_neg away).trans ?_
  rw [lists.indices, listed, Option.map_some, UInt16.ofNat_toNat]

theorem Lists.indexOf (lists : table.Lists uris) (regular : table.Regular) {index : UInt16}
    {uri : String} (known : table.uris[index]? = some uri) : table.indexOf uri = .ok index := by
  by_cases home : IsHome uri
  · rw [indexOf_home home, regular index uri known home]
  · exact lists.indexOf_away home known

theorem decode_eq_ok {wire : WireId} {id : NodeId} (proper : wire.isNull = false)
    (decoded : table.decode wire = .ok id) :
    ∃ uri, table.uris[wire.index]? = some uri ∧ id = ⟨uri, toString wire.identifier⟩ := by
  unfold decode uriAt at decoded
  rw [if_neg (Bool.eq_false_iff.1 proper)] at decoded
  cases found : table.uris[wire.index]? with
  | none => rw [found] at decoded; cases decoded
  | some uri =>
      rw [found] at decoded
      cases decoded
      exact ⟨uri, rfl, rfl⟩

theorem proper_of_decode {wire : WireId} {id : NodeId} (decoded : table.decode wire = .ok id)
    (whole : id.isNull = false) : wire.isNull = false := by
  refine Bool.eq_false_iff.2 fun null => ?_
  obtain rfl : NodeId.null = id := Except.ok.inj ((if_pos null).symm.trans decoded)
  cases whole

theorem decode_ne_notFound {wire : WireId} {cause : NotFoundError} :
    table.decode wire ≠ .error (.notFound cause) := by
  unfold decode uriAt
  split
  · nofun
  · cases table.uris[wire.index]? <;> nofun

theorem encode_toString (identifier : Identifier) {uri : String} {index : UInt16}
    (found : table.indexOf uri = .ok index) :
    table.encode ⟨uri, toString identifier⟩ = .ok ⟨index, identifier⟩ := by
  have whole : (⟨uri, toString identifier⟩ : NodeId).isNull = false :=
    Identifier.toString_ne_empty identifier
  unfold encode
  rw [if_neg (Bool.eq_false_iff.1 whole), found, Identifier.ofText_toString]
  rfl

theorem encode_decode (lists : table.Lists uris) (regular : table.Regular) {wire : WireId}
    {id : NodeId} (proper : wire.isNull = false) (decoded : table.decode wire = .ok id) :
    table.encode id = .ok wire := by
  obtain ⟨uri, known, rfl⟩ := decode_eq_ok proper decoded
  exact encode_toString wire.identifier (lists.indexOf regular known)

theorem encode_of_decode (lists : table.Lists uris) (regular : table.Regular) {wire : WireId}
    {id : NodeId} (decoded : table.decode wire = .ok id) : table.encode id = .ok wire := by
  cases proper : wire.isNull with
  | true =>
      obtain rfl : wire = .null := of_decide_eq_true proper
      obtain rfl : NodeId.null = id := Except.ok.inj decoded
      rfl
  | false => exact encode_decode lists regular proper decoded

theorem decode_inj (lists : table.Lists uris) (regular : table.Regular) {wire other : WireId}
    {id : NodeId} (proper : wire.isNull = false) (proper' : other.isNull = false)
    (decoded : table.decode wire = .ok id) (decoded' : table.decode other = .ok id) :
    wire = other := by
  have there := encode_decode lists regular proper decoded
  rw [encode_decode lists regular proper' decoded'] at there
  cases there
  rfl

theorem decode_eq_iff (lists : table.Lists uris) (regular : table.Regular) {wire other : WireId}
    {id id' : NodeId} (proper : wire.isNull = false) (proper' : other.isNull = false)
    (decoded : table.decode wire = .ok id) (decoded' : table.decode other = .ok id') :
    id = id' ↔ wire = other := by
  constructor
  · rintro rfl
    exact decode_inj lists regular proper proper' decoded decoded'
  · rintro rfl
    rw [decoded] at decoded'
    exact Except.ok.inj decoded'

theorem mem_toList {uri : String} :
    uri ∈ table.toList ↔ ∃ index : UInt16, table.uris[index]? = some uri := by
  rw [toList, List.mem_map]
  constructor
  · rintro ⟨⟨index, _⟩, member, rfl⟩
    exact ⟨index, Std.TreeMap.mem_toList_iff_getElem?_eq_some.1 member⟩
  · rintro ⟨index, found⟩
    exact ⟨(index, uri), Std.TreeMap.mem_toList_iff_getElem?_eq_some.2 found, rfl⟩

theorem uriAt_known {index : UInt16} (known : index ∈ table.uris) :
    ∃ uri, table.uriAt index = .ok uri := by
  refine ⟨table.uris[index], ?_⟩
  rw [uriAt, Std.TreeMap.getElem?_eq_some_getElem known]

theorem decode_known {wire : WireId} (known : wire.index ∈ table.uris) :
    ∃ id, table.decode wire = .ok id := by
  obtain ⟨uri, found⟩ := uriAt_known known
  unfold decode
  rw [found]
  split
  · exact ⟨_, rfl⟩
  · exact ⟨_, rfl⟩

theorem decodeName_known {name : WireName} (known : name.index ∈ table.uris) :
    ∃ id, table.decodeName name = .ok id := by
  obtain ⟨uri, found⟩ := uriAt_known known
  rw [decodeName, found]
  exact ⟨_, rfl⟩

theorem encode_standard (n : UInt32) : table.encode (Standard.node n) = .ok (.standard n) := by
  have text : (Standard.node n).identifier = toString (Identifier.number n) := by
    refine String.toList_inj.1 ?_
    have chars : (toString (Identifier.number n)).toList = (Identifier.number n).toChars :=
      String.toList_ofList
    rw [chars, Standard.node, String.toList_append]
    rfl
  have whole : (Standard.node n).isNull = false := by
    rw [NodeId.isNull, text]
    exact Identifier.toString_ne_empty _
  unfold encode
  rw [if_neg (Bool.eq_false_iff.1 whole), text, Identifier.ofText_toString]
  rfl

theorem fetch_eq_ok {σ : Type} {transport : Transport σ} {server new : σ}
    (fetched : fetch transport server = .ok table new) : ∃ uris, table = ofList uris := by
  obtain ⟨answer, between, -, rest⟩ := Exchange.bind_eq_ok fetched
  obtain ⟨value, between, -, rest⟩ := Exchange.bind_eq_ok rest
  unfold ofValue at rest
  cases listed : value.strings? with
  | none => rw [listed] at rest; cases rest
  | some uris =>
      rw [listed] at rest
      cases rest
      exact ⟨uris, rfl⟩

end NamespaceTable

end AddressSpace
