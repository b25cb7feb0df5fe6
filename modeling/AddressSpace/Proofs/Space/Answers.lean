import AddressSpace.Hierarchy
import AddressSpace.Proofs.Crawl.Chart
import AddressSpace.Proofs.Space

namespace AddressSpace

variable {σ : Type} {steady : σ → Prop} {space : Space}

theorem Transport.Delivers.collectPages {browser : Browser σ} {pages : Nat}
    {run : EStateM.Result Error σ Page} {references : List Reference}
    (delivers : browser.transport.Delivers steady pages run references) (start : NodeId) {left : Nat}
    (room : pages ≤ left + 1) : ∃ page server new, run = .ok page server ∧ steady new ∧
      browser.collectPages start left page server = .ok references new := by
  induction delivers generalizing left with
  | @last pages page server good ends kept =>
      refine ⟨page, server, server, rfl, kept, ?_⟩
      unfold Browser.collectPages
      rw [if_neg (Bool.eq_false_iff.1 good), ends]
      rfl
  | @more pages page server point behind good goesOn rest ih =>
      obtain ⟨left, rfl⟩ : ∃ l, left = l + 1 := by
        have another : pages ≠ 0 := by
          rintro rfl
          cases rest
        exact Nat.exists_eq_add_one_of_ne_zero (by omega)
      obtain ⟨page', server', new, asked, kept, collects⟩ := ih (show pages ≤ left + 1 by omega)
      refine ⟨page, server, new, rfl, kept, ?_⟩
      unfold Browser.collectPages
      rw [if_neg (Bool.eq_false_iff.1 good), goesOn]
      dsimp only
      rw [Exchange.bind_ok asked, Exchange.bind_ok collects]
      rfl

structure Space.Shows (space : Space) (table : NamespaceTable) (mask : ResultMask) (wire : WireId)
    (found : Neighbour) : Prop where
  proper : wire.isNull = false
  node : table.decode wire = .ok found.node
  nodeClass : mask.contains .nodeClass → found.nodeClass = space.nodeClass wire
  browseName : mask.contains .browseName →
    table.decodeName (space.browseName wire) = .ok found.browseName

theorem Browser.neighbour_legible (browser : Browser σ) {mask : ResultMask} {wire : WireId}
    {reference : Reference} (tells : space.Tells mask wire reference)
    (legible : reference.Legible browser.namespaces) :
    ∃ found, browser.neighbour reference = .ok found ∧
      space.Shows browser.namespaces mask wire found := by
  obtain ⟨node, decoded⟩ := NamespaceTable.decode_known legible.node
  obtain ⟨typeDefinition, defined⟩ := NamespaceTable.decode_known legible.typeDefinition
  obtain ⟨referenceType, referred⟩ := NamespaceTable.decode_known legible.referenceType
  obtain ⟨browseName, named⟩ := NamespaceTable.decodeName_known legible.browseName
  obtain ⟨nodeClass, classed⟩ := Option.isSome_iff_exists.1 legible.nodeClass
  refine ⟨⟨node, nodeClass, typeDefinition, referenceType, browseName⟩, ?_, ?_, ?_, ?_, ?_⟩
  · unfold neighbour
    simp only [decoded, classed, defined, referred, named, bind, Except.bind]
  · rw [← tells.about]
    exact legible.proper
  · rw [← tells.about]
    exact decoded
  · intro asked
    rw [tells.nodeClass asked, NodeClass.ofValue?_value] at classed
    exact (Option.some.inj classed).symm
  · intro asked
    rw [← tells.browseName asked]
    exact named

theorem exists_mem_of_forall₂ {α β : Type} {R : α → β → Prop} {as : List α} {bs : List β}
    (related : List.Forall₂ R as bs) {b : β} (listed : b ∈ bs) : ∃ a ∈ as, R a b := by
  induction related with
  | nil => cases listed
  | @cons a' b' as bs first rest ih =>
      rcases List.mem_cons.1 listed with rfl | behind
      · exact ⟨a', List.mem_cons_self .., first⟩
      · obtain ⟨a, listed', same⟩ := ih behind
        exact ⟨a, List.mem_cons_of_mem _ listed', same⟩

def Browser.answer (browser : Browser σ) (answers : BrowseRequest → List Reference) (start : NodeId)
    (context : BrowseContext) : Except Error (List Neighbour) := do
  let request ← browser.request start context
  (answers request).mapM browser.neighbour

def BrowseContext.request (context : BrowseContext) (wire referenceType : WireId) : BrowseRequest :=
  { node := wire
    referenceType
    direction := context.direction
    includeSubtypes := context.includeSubtypes
    classMask := context.classMask
    resultMask := context.resultMask }

namespace Space.Serves

variable {browser : Browser σ} {answers : BrowseRequest → List Reference}
  (serves : space.Serves browser.namespaces browser.transport browser.maxPages steady answers)
include serves

theorem browse (start : NodeId) (context : BrowseContext) {server : σ} (kept : steady server) :
    ∃ new, steady new ∧
      (browser.browse start context).result server = (browser.answer answers start context, new) := by
  unfold Browser.browse Browser.answer
  cases browser.request start context with
  | error cause => exact ⟨server, kept, rfl⟩
  | ok request =>
      obtain ⟨page, between, new, asked, kept', collects⟩ :=
        (serves.browses request server kept).collectPages start
          (show browser.maxPages ≤ browser.maxPages - 1 + 1 by omega)
      refine ⟨new, kept', ?_⟩
      unfold Exchange.result
      rw [Exchange.bind_ok (Exchange.ofExcept_ok request server), Exchange.bind_ok asked,
        Exchange.bind_ok collects]
      show _ = ((answers request).mapM browser.neighbour, new)
      cases (answers request).mapM browser.neighbour <;> rfl

theorem answer_ok {start : NodeId} (context : BrowseContext) {wire referenceType : WireId}
    (encoded : browser.namespaces.encode start = .ok wire)
    (kind : browser.namespaces.encode context.referenceType = .ok referenceType) :
    ∃ found ends, browser.answer answers start context = .ok found ∧
      ends.Perm (space.ends (context.request wire referenceType)) ∧
      List.Forall₂ (space.Shows browser.namespaces context.resultMask) ends found := by
  have shown : ∀ (ends : List WireId) (references : List Reference),
      List.Forall₂ (space.Tells context.resultMask) ends references →
      (∀ reference ∈ references, reference.Legible browser.namespaces) →
      ∃ found, references.mapM browser.neighbour = .ok found ∧
        List.Forall₂ (space.Shows browser.namespaces context.resultMask) ends found := by
    intro ends references tells
    induction tells with
    | nil => exact fun _ => ⟨[], rfl, .nil⟩
    | @cons wire reference ends references tells _ ih =>
        intro legible
        obtain ⟨first, read, shows⟩ :=
          browser.neighbour_legible tells (legible reference (List.mem_cons_self ..))
        obtain ⟨rest, readRest, showsRest⟩ :=
          ih fun reference listed => legible reference (List.mem_cons_of_mem _ listed)
        refine ⟨first :: rest, ?_, .cons shows showsRest⟩
        rw [List.mapM_cons, read, readRest]
        rfl
  obtain ⟨ends, same, tells⟩ := serves.tells (context.request wire referenceType)
  obtain ⟨found, read, shows⟩ := shown ends _ tells (serves.legible _)
  refine ⟨found, ends, ?_, same, shows⟩
  unfold Browser.answer Browser.request
  rw [encoded, kind]
  exact read

end Space.Serves

def Browser.chart (browser : Browser σ) (answers : BrowseRequest → List Reference) : Chart where
  found node := browser.answer answers node .instancesAndTypes
  rule node := (browser.answer answers node modellingRuleContext).map fun found =>
    (found.filterMap fun neighbour => ModellingRule.ofName? neighbour.browseName.name).getLast?.getD
      .optional

theorem Browser.not_loses_chart (browser : Browser σ) (answers : BrowseRequest → List Reference)
    (cause : Error) : ¬ (browser.chart answers).Loses cause := by
  have harmless : ∀ start context, Harmless (browser.answer answers start context) :=
    fun start context => (browser.harmless_request start context).bind fun _ =>
      harmless_mapM browser.harmless_neighbour _
  rintro ⟨lost, node, fails | fails⟩
  · rw [harmless _ _ cause fails] at lost
    cases lost
  · rw [(harmless node modellingRuleContext).map _ cause fails] at lost
    cases lost

namespace Space.Serves

variable {browser : Browser σ} {answers : BrowseRequest → List Reference}
  (serves : space.Serves browser.namespaces browser.transport browser.maxPages steady answers)
include serves

theorem charted : Charted browser steady (browser.chart answers) := by
  refine ⟨fun node server kept => serves.browse node .instancesAndTypes kept,
    fun node server kept => ?_⟩
  obtain ⟨new, kept', browses⟩ := serves.browse node Browser.modellingRuleContext kept
  refine ⟨new, kept', ?_⟩
  unfold Browser.modellingRule Browser.chart
  dsimp only
  cases answered : browser.answer answers node Browser.modellingRuleContext with
  | ok found =>
      rw [answered] at browses
      unfold Exchange.result
      rw [Exchange.bind_ok (Exchange.result_eq_ok.1 browses)]
      rfl
  | error cause =>
      rw [answered] at browses
      unfold Exchange.result
      rw [Exchange.bind_error (Exchange.result_eq_error.1 browses)]
      rfl

theorem found {id : NodeId} {wire : WireId} (encoded : browser.namespaces.encode id = .ok wire) :
    ∃ found, (browser.chart answers).found id = .ok found ∧
      (∀ neighbour ∈ found, ∃ next, space.Contains wire next ∧
        space.Shows browser.namespaces .all next neighbour) ∧
      (∀ next, space.Contains wire next → (space.nodeClass next).isType →
        ∃ neighbour ∈ found, space.Shows browser.namespaces .all next neighbour) := by
  obtain ⟨found, ends, answered, same, shows⟩ :=
    serves.answer_ok .instancesAndTypes encoded
      (NamespaceTable.encode_standard Standard.hierarchicalReferences)
  have asked : ∀ next, next ∈ ends ↔ space.Contains wire next ∧
      space.admits .instancesAndTypes next := by
    intro next
    rw [same.mem_iff, space.mem_ends rfl]
    rfl
  refine ⟨found, answered, fun neighbour listed => ?_, fun next contains isType => ?_⟩
  · obtain ⟨next, listed', shows'⟩ := exists_mem_of_forall₂ shows listed
    exact ⟨next, ((asked next).1 listed').1, shows'⟩
  · have admitted : space.admits .instancesAndTypes next := by
      have types : ∀ c : NodeClass, c.isType → ClassMask.instancesAndTypes.contains c := by
        intro c isType
        cases c <;> first | rfl | cases isType
      rw [Space.admits, types _ isType, Bool.or_true]
    exact exists_mem_of_forall₂ shows.flip ((asked next).2 ⟨contains, admitted⟩)

end Space.Serves

end AddressSpace
