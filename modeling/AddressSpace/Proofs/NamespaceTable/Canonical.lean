import AddressSpace.Proofs.Identifier.Spelling
import AddressSpace.Proofs.NamespaceTable.RoundTrip

namespace AddressSpace.NamespaceTable
open Exchange

variable {table : NamespaceTable} {uris : List String} {uri uri' : String} {index index' : UInt16}
  {id other canon : NodeId} {wire : WireId}

theorem encode_null (null : id.isNull) : table.encode id = .ok .null := if_pos null

theorem encode_eq_ok_iff (whole : id.isNull = false) : table.encode id = .ok wire ↔
    table.indexOf id.uri = .ok wire.index ∧
      Identifier.ofText id.identifier = .ok wire.identifier := by
  obtain ⟨index, identifier⟩ := wire
  unfold encode
  rw [if_neg (Bool.eq_false_iff.1 whole)]
  cases table.indexOf id.uri with
  | error cause => simp [bind, Except.bind]
  | ok found =>
      cases Identifier.ofText id.identifier with
      | error fault =>
          show (.error (.ofBadWireId fault) : Except Error WireId) = .ok ⟨index, identifier⟩ ↔ _
          simp
      | ok read =>
          show (.ok ⟨found, read⟩ : Except Error WireId) = .ok ⟨index, identifier⟩ ↔ _
          simp

theorem Lists.uris_of_indexOf (lists : table.Lists uris) (room : uris.length ≤ capacity)
    (away : ¬ IsHome uri) (found : table.indexOf uri = .ok index) :
    table.uris[index]? = some uri := by
  replace found := (if_neg away).symm.trans found
  rw [lists.indices] at found
  rw [lists.uris]
  cases listed : uris.idxOf? uri with
  | none =>
      rw [listed] at found
      cases found
  | some i =>
      rw [listed] at found
      cases found
      have inside := (List.idxOf?_eq_some_iff.1 listed).1
      have small : (UInt16.ofNat i).toNat = i :=
        UInt16.toNat_ofNat_of_lt (Nat.lt_of_lt_of_le inside room)
      rw [small]

theorem Lists.indexOf_reported (lists : table.Lists uris) (room : uris.length ≤ capacity)
    (found : table.indexOf uri = .ok index) (reported : table.uris[index]? = some uri') :
    table.indexOf uri' = .ok index := by
  by_cases home' : IsHome uri'
  · by_cases home : IsHome uri
    · rw [indexOf_home home']
      rwa [indexOf_home home] at found
    · obtain rfl := Option.some.inj ((lists.uris_of_indexOf room home found).symm.trans reported)
      exact absurd home' home
  · exact lists.indexOf_away home' reported

/-- The URIs of the namespace with index zero: the aliases that it always has, and the one that the
server reports for it. -/
def IsZeroth (uris : List String) (uri : String) : Prop := IsHome uri ∨ uris.head? = some uri

theorem Lists.indexOf_zeroth (lists : table.Lists uris) (zeroth : IsZeroth uris uri) :
    table.indexOf uri = .ok 0 := by
  by_cases home : IsHome uri
  · exact indexOf_home home
  · apply lists.indexOf_away home
    rw [← uriAt_eq_ok_iff, lists.uriAt_zero]
    exact zeroth.resolve_left home

theorem Lists.zeroth_of_indexOf (lists : table.Lists uris) (room : uris.length ≤ capacity)
    (found : table.indexOf uri = .ok 0) : IsZeroth uris uri := by
  by_cases home : IsHome uri
  · exact .inl home
  · have reported := lists.uris_of_indexOf room home found
    rw [← uriAt_eq_ok_iff, lists.uriAt_zero] at reported
    exact .inr reported

def SameNamespace (uris : List String) (uri uri' : String) : Prop :=
  uri = uri' ∨ IsZeroth uris uri ∧ IsZeroth uris uri'

theorem Lists.index_eq_iff (lists : table.Lists uris) (room : uris.length ≤ capacity)
    (found : table.indexOf uri = .ok index) (found' : table.indexOf uri' = .ok index') :
    index = index' ↔ SameNamespace uris uri uri' := by
  constructor
  · rintro rfl
    by_cases zero : index = 0
    · subst zero
      exact .inr ⟨lists.zeroth_of_indexOf room found, lists.zeroth_of_indexOf room found'⟩
    · have away {uri : String} (found : table.indexOf uri = .ok index) : ¬ IsHome uri := by
        intro home
        rw [indexOf_home home] at found
        cases found
        exact zero rfl
      have known := lists.uris_of_indexOf room (away found) found
      rw [lists.uris_of_indexOf room (away found') found'] at known
      exact .inl (Option.some.inj known).symm
  · rintro (rfl | ⟨zeroth, zeroth'⟩)
    · exact Except.ok.inj (found.symm.trans found')
    · rw [lists.indexOf_zeroth zeroth] at found
      rw [lists.indexOf_zeroth zeroth'] at found'
      cases found
      cases found'
      rfl

theorem Lists.encode_canonical (lists : table.Lists uris) (room : uris.length ≤ capacity)
    (told : table.canonical id = .ok canon) : table.encode canon = table.encode id := by
  obtain ⟨wire, encoded, decoded⟩ := bind_except_eq_ok told
  rw [encoded]
  cases proper : wire.isNull with
  | true =>
      obtain rfl : wire = .null := of_decide_eq_true proper
      cases decoded
      exact encode_null rfl
  | false =>
      have whole : id.isNull = false := by
        rw [← Bool.not_eq_true]
        intro null
        rw [encode_null null] at encoded
        cases encoded
        cases proper
      obtain ⟨uri, reported, rfl⟩ := decode_eq_ok proper decoded
      have found := ((encode_eq_ok_iff whole).1 encoded).1
      exact encode_toString wire.identifier (lists.indexOf_reported room found reported)

theorem canonical_of_encode (same : table.encode id = table.encode other) :
    table.canonical id = table.canonical other := by
  rw [canonical, canonical, same]

theorem exists_encode_of_canonical (told : table.canonical id = .ok canon) :
    ∃ wire, table.encode id = .ok wire := by
  obtain ⟨wire, encoded, -⟩ := bind_except_eq_ok told
  exact ⟨wire, encoded⟩

theorem Lists.exists_canonical (lists : table.Lists uris) (room : uris.length ≤ capacity)
    (listed : uris ≠ []) (encoded : table.encode id = .ok wire) :
    ∃ canon, table.canonical id = .ok canon := by
  have known : wire.isNull ∨ wire.index ∈ table.uris := by
    cases whole : id.isNull with
    | true =>
        rw [encode_null whole] at encoded
        cases encoded
        exact .inl rfl
    | false =>
        have found := ((encode_eq_ok_iff whole).1 encoded).1
        right
        rw [Std.TreeMap.mem_iff_isSome_getElem?]
        by_cases home : IsHome id.uri
        · rw [indexOf_home home] at found
          obtain ⟨first, rest, rfl⟩ := List.exists_cons_of_ne_nil listed
          rw [← Except.ok.inj found, uriAt_eq_ok_iff.1 (lists.uriAt_zero.2 rfl)]
          rfl
        · rw [lists.uris_of_indexOf room home found]
          rfl
  rw [canonical, encoded]
  cases proper : wire.isNull with
  | true => exact ⟨.null, if_pos proper⟩
  | false => exact decode_known (known.resolve_left (Bool.eq_false_iff.1 proper))

theorem Lists.encode_eq_iff (lists : table.Lists uris) (room : uris.length ≤ capacity)
    (whole : id.isNull = false) (whole' : other.isNull = false)
    (encodes : ∃ wire, table.encode id = .ok wire)
    (encodes' : ∃ wire, table.encode other = .ok wire) :
    table.encode id = table.encode other ↔ SameNamespace uris id.uri other.uri ∧
      Identifier.ofText id.identifier = Identifier.ofText other.identifier := by
  obtain ⟨⟨index, identifier⟩, encoded⟩ := encodes
  obtain ⟨⟨index', identifier'⟩, encoded'⟩ := encodes'
  obtain ⟨found, read⟩ := (encode_eq_ok_iff whole).1 encoded
  obtain ⟨found', read'⟩ := (encode_eq_ok_iff whole').1 encoded'
  rw [encoded, encoded', ← lists.index_eq_iff room found found', read, read']
  simp

/-- The form that the server reports is its own canonical form and addresses the same node, and two
ids have the same form just if they address the same node.  So the URIs of the namespace with index
zero are not told apart, nor are the spellings of one identifier, and everything else is. -/
theorem canonical_identifies (uris : List String) {id other canon canon' : NodeId}
    (told : (ofList uris).canonical id = .ok canon)
    (told' : (ofList uris).canonical other = .ok canon') :
    (ofList uris).canonical canon = .ok canon ∧
    (ofList uris).encode canon = (ofList uris).encode id ∧
    (canon = canon' ↔ (ofList uris).encode id = (ofList uris).encode other) ∧
    (id.isNull = false → other.isNull = false → (canon = canon' ↔
      SameNamespace uris id.uri other.uri ∧
        Identifier.ofText id.identifier = Identifier.ofText other.identifier)) ∧
    ∀ identifier identifier', Identifier.Spells id.identifier.toList identifier →
      Identifier.Spells other.identifier.toList identifier' →
      (canon = canon' ↔ SameNamespace uris id.uri other.uri ∧ identifier = identifier') := by
  have lists := lists_ofList uris
  have room : (uris.take capacity).length ≤ capacity := List.length_take_le _ _
  have head : (uris.take capacity).head? = uris.head? := by
    rw [List.head?_take, if_neg (by decide)]
  have namespaces : SameNamespace (uris.take capacity) id.uri other.uri ↔
      SameNamespace uris id.uri other.uri := by
    simp only [SameNamespace, IsZeroth, head]
  have encoded := lists.encode_canonical room told
  have encoded' := lists.encode_canonical room told'
  have same : canon = canon' ↔ (ofList uris).encode id = (ofList uris).encode other := by
    constructor
    · rintro rfl
      exact encoded.symm.trans encoded'
    · intro same
      have forms := canonical_of_encode same
      rw [told, told'] at forms
      exact Except.ok.inj forms
  have parts (whole : id.isNull = false) (whole' : other.isNull = false) := lists.encode_eq_iff
    room whole whole' (exists_encode_of_canonical told) (exists_encode_of_canonical told')
  refine ⟨(canonical_of_encode encoded).trans told, encoded, same, ?_, ?_⟩
  · intro whole whole'
    rw [same, parts whole whole', namespaces]
  · intro identifier identifier' spells spells'
    rw [same, parts spells.ne_empty spells'.ne_empty, namespaces]
    simp [Identifier.ofText, spells.ofChars, spells'.ofChars]

theorem canonical_identifies_spellings :
    let table := ofList ["urn:server", "urn:machines"]
    (∃ canon, table.canonical ⟨"", "i=+007"⟩ = .ok canon ∧
      table.canonical ⟨Standard.namespaceUri, "i=7"⟩ = .ok canon) ∧
    ∃ canon, table.canonical
        ⟨"urn:machines", "g={550E8400-E29B-41D4-A716-446655440000}"⟩ = .ok canon ∧
      table.canonical ⟨"urn:machines", "g=550e8400e29b41d4a716446655440000"⟩ = .ok canon := by
  let table := ofList ["urn:server", "urn:machines"]
  constructor
  · have told : table.canonical ⟨"", "i=+007"⟩ = .ok ⟨"urn:server", "i=7"⟩ := rfl
    have told' : table.canonical ⟨Standard.namespaceUri, "i=7"⟩ = .ok ⟨"urn:server", "i=7"⟩ := rfl
    have zeros : Text.Decimal 7 ['0', '0', '7'] := ⟨[0, 0, 7], by decide, by decide, rfl, rfl⟩
    have plain : Text.Decimal 7 ['7'] := ⟨[7], by decide, by decide, rfl, rfl⟩
    obtain ⟨-, -, -, -, spelled⟩ := canonical_identifies _ told told'
    have same := (spelled (.number 7) (.number 7) (.signed zeros) (.number plain)).2
      ⟨.inr ⟨.inl (.inl rfl), .inl (.inr rfl)⟩, rfl⟩
    exact ⟨_, told, told'.trans (congrArg Except.ok same.symm)⟩
  · have encoded : table.encode ⟨"urn:machines", "g={550E8400-E29B-41D4-A716-446655440000}"⟩ =
        .ok ⟨1, .guid ⟨0x550e8400e29b41d4a716446655440000⟩⟩ := by with_unfolding_all rfl
    have encoded' : table.encode ⟨"urn:machines", "g=550e8400e29b41d4a716446655440000"⟩ =
        .ok ⟨1, .guid ⟨0x550e8400e29b41d4a716446655440000⟩⟩ := by with_unfolding_all rfl
    have lists := lists_ofList ["urn:server", "urn:machines"]
    obtain ⟨canon, told⟩ := lists.exists_canonical (by decide) (by decide) encoded
    obtain ⟨canon', told'⟩ := lists.exists_canonical (by decide) (by decide) encoded'
    obtain ⟨-, -, same, -⟩ := canonical_identifies _ told told'
    have same := same.2 (encoded.trans encoded'.symm)
    exact ⟨canon, told, told'.trans (congrArg Except.ok same.symm)⟩

end AddressSpace.NamespaceTable
