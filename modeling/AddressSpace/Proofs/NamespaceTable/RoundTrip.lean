import AddressSpace.Proofs.NamespaceTable

namespace AddressSpace.NamespaceTable

variable {table : NamespaceTable} {uris : List String} {uri : String}

theorem uriAt_eq_ok_iff {index : UInt16} :
    table.uriAt index = .ok uri ↔ table.uris[index]? = some uri := by
  unfold uriAt
  cases table.uris[index]? <;> simp

theorem Lists.uriAt_zero (lists : table.Lists uris) :
    table.uriAt 0 = .ok uri ↔ uris.head? = some uri := by
  rw [uriAt_eq_ok_iff, lists.uris]
  cases uris with
  | nil => simp
  | cons first rest =>
      rw [List.idxOf?_cons, List.head?_cons]
      by_cases same : first = uri
      · simp [same]
      · simp [same]

theorem Lists.uriAt_indexOf (lists : table.Lists uris) (listed : uri ∈ table.toList) :
    (table.indexOf uri >>= table.uriAt) = .ok uri ↔ (IsHome uri → uris.head? = some uri) := by
  obtain ⟨index, known⟩ := mem_toList.1 listed
  by_cases home : IsHome uri
  · rw [indexOf_home home]
    show table.uriAt 0 = .ok uri ↔ _
    rw [lists.uriAt_zero]
    exact ⟨fun first _ => first, fun first => first home⟩
  · rw [lists.indexOf_away home known]
    show table.uriAt index = .ok uri ↔ _
    exact ⟨fun _ never => absurd never home, fun _ => uriAt_eq_ok_iff.2 known⟩

theorem Lists.decode_encode (lists : table.Lists uris) {wire : WireId}
    (known : wire.index ∈ table.uris) :
    (table.decode wire >>= table.encode) = .ok wire ↔
      (wire.index ≠ 0 → ∀ uri, table.uriAt wire.index = .ok uri → ¬ IsHome uri) := by
  cases proper : wire.isNull with
  | true =>
      obtain rfl : wire = .null := of_decide_eq_true proper
      exact ⟨fun _ other => absurd rfl other, fun _ => rfl⟩
  | false =>
      obtain ⟨id, decoded⟩ := decode_known known
      obtain ⟨uri, found, rfl⟩ := decode_eq_ok proper decoded
      have only (uri' : String) (there : table.uriAt wire.index = .ok uri') : uri' = uri :=
        Option.some.inj ((uriAt_eq_ok_iff.1 there).symm.trans found)
      rw [decoded]
      show table.encode ⟨uri, toString wire.identifier⟩ = .ok wire ↔ _
      by_cases home : IsHome uri
      · rw [encode_toString wire.identifier (indexOf_home home)]
        constructor
        · intro same other
          have zero : (0 : UInt16) = wire.index := congrArg WireId.index (Except.ok.inj same)
          exact absurd zero.symm other
        · intro away
          have zero : wire.index = 0 := Decidable.byContradiction fun other =>
            away other uri (uriAt_eq_ok_iff.2 found) home
          rw [← zero]
      · rw [encode_toString wire.identifier (lists.indexOf_away home found)]
        refine ⟨fun _ _ uri' there => ?_, fun _ => rfl⟩
        rw [only uri' there]
        exact home

/-- Each listed URI comes back from its index, and each wire id of a known index from its URI, unless
the URI is the empty or the standard one and has another place than the first. -/
theorem round_trips (uris : List String) :
    (∀ uri ∈ (ofList uris).toList, ((ofList uris).indexOf uri >>= (ofList uris).uriAt) = .ok uri ↔
      (IsHome uri → uris.head? = some uri)) ∧
    (∀ wire : WireId, wire.index ∈ (ofList uris).uris →
      (((ofList uris).decode wire >>= (ofList uris).encode) = .ok wire ↔
        (wire.index ≠ 0 → ∀ uri, (ofList uris).uriAt wire.index = .ok uri → ¬ IsHome uri))) := by
  have lists := lists_ofList uris
  have first : (uris.take capacity).head? = uris.head? := by
    rw [List.head?_take, if_neg (by decide)]
  refine ⟨fun uri listed => ?_, fun wire known => lists.decode_encode known⟩
  rw [lists.uriAt_indexOf listed, first]

theorem round_trips_repeated :
    let table := ofList ["ns0", "urn:a", "urn:b", "urn:a", "urn:c"]
    (table.indexOf "urn:c" >>= table.uriAt) = .ok "urn:c" ∧
    (table.decode ⟨4, .text "x"⟩ >>= table.encode) = .ok ⟨4, .text "x"⟩ := by
  let table := ofList ["ns0", "urn:a", "urn:b", "urn:a", "urn:c"]
  have listed : "urn:c" ∈ table.toList := by decide +kernel
  have known : (4 : UInt16) ∈ table.uris := by decide +kernel
  have away : ¬ IsHome "urn:c" := by
    unfold IsHome
    decide
  have there : table.uriAt 4 = .ok "urn:c" := rfl
  obtain ⟨uris, wires⟩ := round_trips ["ns0", "urn:a", "urn:b", "urn:a", "urn:c"]
  refine ⟨(uris "urn:c" listed).2 fun home => absurd home away, (wires ⟨4, .text "x"⟩ known).2 ?_⟩
  intro _ uri found
  cases there.symm.trans found
  exact away

/-- The standard URI behind another one does not come back. -/
theorem standard_not_first :
    let table := ofList ["ns0", Standard.namespaceUri]
    (Standard.namespaceUri ∈ table.toList ∧
      (table.indexOf Standard.namespaceUri >>= table.uriAt) ≠ .ok Standard.namespaceUri) ∧
    ((1 : UInt16) ∈ table.uris ∧
      (table.decode ⟨1, .number 5⟩ >>= table.encode) ≠ .ok ⟨1, .number 5⟩) := by
  let table := ofList ["ns0", Standard.namespaceUri]
  have uri : (table.indexOf Standard.namespaceUri >>= table.uriAt) = .ok "ns0" := rfl
  have wire : (table.decode ⟨1, .number 5⟩ >>= table.encode) = .ok ⟨0, .number 5⟩ := rfl
  refine ⟨⟨by decide +kernel, fun same => ?_⟩, by decide +kernel, fun same => ?_⟩
  · exact absurd (Except.ok.inj (uri.symm.trans same)) (by decide)
  · cases wire.symm.trans same

end AddressSpace.NamespaceTable
