import AddressSpace.Proofs.Space.Answers

namespace AddressSpace
open Descriptor

theorem Chart.mem_branches (chart : Chart) (ofVariableType : Bool) (maxDepth depth : Nat)
    (above : List NodeId) {id : NodeId} {found : List Neighbour}
    (answered : chart.found id = .ok found) (declaration : Declaration) :
    declaration ∈ forestDeclared (chart.branches ofVariableType maxDepth depth above id) ↔
      depth < maxDepth ∧ id ∉ above ∧ ∃ neighbour ∈ found,
        declaration = neighbour.declaration (chart.ruleOf neighbour) ofVariableType ∨
        declaration ∈ forestDeclared
          (chart.branches ofVariableType maxDepth (depth + 1) (id :: above) neighbour.node) := by
  have listed : ∀ (tree : Neighbour → Descriptor) (found : List Neighbour),
      declaration ∈ forestDeclared (found.map tree) ↔
        ∃ neighbour ∈ found, declaration ∈ (tree neighbour).declared := by
    intro tree found
    induction found with
    | nil => simp [forestDeclared]
    | cons first rest ih => simp [forestDeclared, ih]
  rw [Chart.branches]
  by_cases deeper : depth < maxDepth
  · by_cases present : id ∈ above
    · simp [deeper, present, forestDeclared]
    · rw [if_pos deeper, if_neg present, answered]
      simp [deeper, present, listed, declared, Except.toOption]
  · simp [deeper, forestDeclared]

namespace Space.Serves

variable {σ : Type} {steady : σ → Prop} {space : Space} {browser : Browser σ}
  {answers : BrowseRequest → List Reference} {uris : List String}
  (serves : space.Serves browser.namespaces browser.transport browser.maxPages steady answers)
  (lists : browser.namespaces.Lists uris) (regular : browser.namespaces.Regular)
  (ofVariableType : Bool) (maxDepth : Nat)
include serves lists regular

theorem shows_of_declared {base wire : WireId} {depth : Nat} {above : List NodeId} {id : NodeId}
    (proper : wire.isNull = false) (decoded : browser.namespaces.decode wire = .ok id)
    (path : space.Path base depth wire) {declaration : Declaration}
    (declared : declaration ∈ forestDeclared
      ((browser.chart answers).branches ofVariableType maxDepth depth above id)) :
    ∃ n next neighbour, space.Path base (n + 1) next ∧
      space.Shows browser.namespaces .all next neighbour ∧
      declaration = neighbour.declaration ((browser.chart answers).ruleOf neighbour)
        ofVariableType := by
  obtain ⟨found, answered, contained, -⟩ :=
    serves.found (NamespaceTable.encode_decode lists regular proper decoded)
  obtain ⟨deeper, -, neighbour, listed, here | further⟩ :=
    (Chart.mem_branches _ ofVariableType maxDepth depth above answered declaration).1 declared
  · obtain ⟨next, contains, shows⟩ := contained neighbour listed
    exact ⟨depth, next, neighbour, path.step contains, shows, here⟩
  · obtain ⟨next, contains, shows⟩ := contained neighbour listed
    exact shows_of_declared shows.proper shows.node (path.step contains) further
termination_by maxDepth - depth

theorem descends (orderly : space.Orderly browser.namespaces maxDepth) {base : WireId}
    (isBase : base ∈ bases) {wire next : WireId} (derives : space.Derives wire next) {depth : Nat}
    {above : List NodeId} {id : NodeId} (proper : wire.isNull = false)
    (decoded : browser.namespaces.decode wire = .ok id) (path : space.Path base depth wire)
    (origins : ∀ other ∈ above, ∃ node n, node.isNull = false ∧
      browser.namespaces.decode node = .ok other ∧ space.Path node (n + 1) wire) :
    depth < maxDepth ∧ id ∉ above ∧ ∃ found, (browser.chart answers).found id = .ok found ∧
      ∃ neighbour ∈ found, space.Shows browser.namespaces .all next neighbour := by
  refine ⟨orderly.shallow base isBase _ _ (path.step derives.contains), fun present => ?_, ?_⟩
  · -- A node that comes again below itself would lie on a cycle.
    obtain ⟨node, n, proper', decoded', cycle⟩ := origins id present
    obtain rfl := NamespaceTable.decode_inj lists regular proper proper' decoded decoded'
    exact orderly.acyclic isBase path cycle
  · obtain ⟨found, answered, -, contains⟩ :=
      serves.found (NamespaceTable.encode_decode lists regular proper decoded)
    exact ⟨found, answered, contains next derives.contains derives.2⟩

theorem declared_of_subtype (orderly : space.Orderly browser.namespaces maxDepth) {base : WireId}
    (isBase : base ∈ bases) {wire type : WireId} (subtype : space.Subtype wire type) {depth : Nat}
    {above : List NodeId} {id : NodeId} (proper : wire.isNull = false)
    (decoded : browser.namespaces.decode wire = .ok id) (path : space.Path base depth wire)
    (origins : ∀ other ∈ above, ∃ node n, node.isNull = false ∧
      browser.namespaces.decode node = .ok other ∧ space.Path node (n + 1) wire) :
    ∃ neighbour, space.Shows browser.namespaces .all type neighbour ∧
      neighbour.declaration ((browser.chart answers).ruleOf neighbour) ofVariableType ∈
        forestDeclared ((browser.chart answers).branches ofVariableType maxDepth depth above id) := by
  -- The chain is taken apart at its head, since the tree opens from its root.
  induction subtype using Relation.TransGen.head_induction_on generalizing depth above id with
  | single derives =>
      obtain ⟨deeper, absent, found, answered, neighbour, listed, shows⟩ :=
        serves.descends lists regular maxDepth orderly isBase derives proper decoded path origins
      refine ⟨neighbour, shows, ?_⟩
      exact (Chart.mem_branches _ ofVariableType maxDepth depth above answered _).2
        ⟨deeper, absent, neighbour, listed, .inl rfl⟩
  | @head wire next derives _ ih =>
      obtain ⟨deeper, absent, found, answered, neighbour, listed, shows⟩ :=
        serves.descends lists regular maxDepth orderly isBase derives proper decoded path origins
      have origins' : ∀ other ∈ id :: above, ∃ node n, node.isNull = false ∧
          browser.namespaces.decode node = .ok other ∧ space.Path node (n + 1) next := by
        intro other member
        rcases List.mem_cons.1 member with rfl | higher
        · exact ⟨wire, 0, proper, decoded, .step .here derives.contains⟩
        · obtain ⟨node, n, proper', decoded', path'⟩ := origins other higher
          exact ⟨node, n + 1, proper', decoded', path'.step derives.contains⟩
      obtain ⟨neighbour', shows', declared⟩ :=
        ih shows.proper shows.node (path.step derives.contains) origins'
      refine ⟨neighbour', shows', ?_⟩
      exact (Chart.mem_branches _ ofVariableType maxDepth depth above answered _).2
        ⟨deeper, absent, neighbour, listed, .inr declared⟩

end Space.Serves

end AddressSpace
