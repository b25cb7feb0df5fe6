import AddressSpace.Proofs.Crawl.Lineage
import AddressSpace.Proofs.Keeping.Crawl

/-!
# The tree that a crawl finds

A `Chart` says what a server answers about each node, and `Chart.branches` what lies below a node by
recursion on the depth.  A crawl of a charted server plants just the tree of its chart,
`Charted.discover`, and `discover_charted` says what the arena then looks like.
-/

namespace AddressSpace

/-- What a server answers about each node: what is found below it, and its modelling rule. -/
structure Chart where
  found : NodeId → Except Error (List Neighbour)
  rule : NodeId → Except Error ModellingRule

structure Charted {σ : Type} (browser : Browser σ) (steady : σ → Prop) (chart : Chart) : Prop where
  found : ∀ node server, steady server → ∃ new, steady new ∧
    (browser.browse node .instancesAndTypes).result server = (chart.found node, new)
  rule : ∀ node server, steady server → ∃ new, steady new ∧
    (browser.modellingRule node).result server = (chart.rule node, new)

namespace Chart

variable (chart : Chart) (ofVariableType : Bool) (maxDepth : Nat)

def Loses (cause : Error) : Prop :=
  cause.isConnection ∧ ∃ node, chart.found node = .error cause ∨ chart.rule node = .error cause

def ruleOf (found : Neighbour) : ModellingRule :=
  if found.nodeClass.isType then .optional
  else (chart.rule found.node).toOption.getD .optional

/-- The trees below a node that is `depth` levels below the root, with the ids `above` it.  There
are none at the depth bound, none where the id is above already, and none where the server does not
answer. -/
def branches (depth : Nat) (above : List NodeId) (node : NodeId) : List Descriptor :=
  if depth < maxDepth then
    if node ∈ above then []
    else ((chart.found node).toOption.getD []).map fun found =>
      ⟨found.declaration (chart.ruleOf found) ofVariableType,
        branches (depth + 1) (node :: above) found.node⟩
  else []
termination_by maxDepth - depth

def tree (depth : Nat) (above : List NodeId) (found : Neighbour) : Descriptor :=
  ⟨found.declaration (chart.ruleOf found) ofVariableType,
    chart.branches ofVariableType maxDepth depth above found.node⟩

def rootTree (root : NodeId) : Descriptor :=
  ⟨Browser.rootDeclaration root ofVariableType, chart.branches ofVariableType maxDepth 0 [] root⟩

end Chart

variable {σ : Type} {browser : Browser σ} {steady : σ → Prop} {chart : Chart}

/-- The end of a part of a crawl that has either lost the connection or answered `a` and left `arena`
behind. -/
inductive Ends {α : Type} (chart : Chart) (steady : σ → Prop) (a : α) (arena : Arena) :
    EStateM.Result Error (Crawl σ) α → Prop
  | ok {server : σ} (kept : steady server) : Ends chart steady a arena (.ok a ⟨arena, server⟩)
  | lost {cause : Error} {crawl : Crawl σ} (lost : chart.Loses cause) :
      Ends chart steady a arena (.error cause crawl)

theorem Ends.bind {α β : Type} {a : α} {b : β} {arena last : Arena} {first : Crawling σ α}
    {next : α → Crawling σ β} {crawl : Crawl σ} (ends : Ends chart steady a arena (first crawl))
    (goesOn : ∀ server, steady server → Ends chart steady b last (next a ⟨arena, server⟩)) :
    Ends chart steady b last ((first >>= next) crawl) := by
  generalize same : first crawl = result at ends
  cases ends with
  | ok kept =>
      rw [Exchange.bind_ok same]
      exact goesOn _ kept
  | lost lost =>
      rw [Exchange.bind_error same]
      exact .lost lost

theorem ends_tolerate {α : Type} {exchange : Exchange σ α} {answer : Except Error α} {server new : σ}
    (told : ∀ cause, answer = .error cause → cause.isConnection → chart.Loses cause)
    (kept : steady new) (answered : exchange.result server = (answer, new)) (fallback : α)
    (arena : Arena) : Ends chart steady (answer.toOption.getD fallback) arena
      (Crawling.onServer (exchange.tolerate fallback) ⟨arena, server⟩) := by
  unfold Crawling.onServer Exchange.within Exchange.tolerate
  cases answer with
  | ok a =>
      rw [Exchange.result_eq_ok.1 answered]
      exact .ok kept
  | error cause =>
      rw [Exchange.result_eq_error.1 answered]
      dsimp only
      by_cases lost : cause.isConnection
      · rw [if_pos lost]
        exact .lost (told cause rfl lost)
      · rw [if_neg lost]
        exact .ok kept

namespace Charted
open Browser

variable (charted : Charted browser steady chart) (ofVariableType : Bool) (maxDepth : Nat)
include charted

theorem enter {arena : Arena} {server : σ} (kept : steady server) (parent : Nat)
    (found : Neighbour) : Ends chart steady arena.size
      (arena.add parent (found.declaration (chart.ruleOf found) ofVariableType))
      (browser.enter ofVariableType parent found ⟨arena, server⟩) := by
  have ruled : Ends chart steady (chart.ruleOf found) arena
      (Crawling.onServer (browser.ruleOf found) ⟨arena, server⟩) := by
    unfold Browser.ruleOf Chart.ruleOf
    split
    · exact .ok kept
    · obtain ⟨new, kept', answered⟩ := charted.rule found.node server kept
      exact ends_tolerate (fun cause fails lost => ⟨lost, found.node, .inr fails⟩) kept' answered
        .optional arena
  exact ruled.bind fun server kept => .ok kept

omit charted in
theorem forM_visit {levels parent : Nat} {above : List NodeId} {tree : Neighbour → Descriptor}
    (each : ∀ (found : Neighbour) (arena : Arena) (server : σ), steady server →
      arena.Lineage parent above → Ends chart steady () (arena.plant parent (tree found))
        (browser.visit ofVariableType levels parent found ⟨arena, server⟩)) :
    (found : List Neighbour) → (arena : Arena) → (server : σ) → steady server →
      arena.Lineage parent above → Ends chart steady () (arena.plantAll parent (found.map tree))
        (found.forM (browser.visit ofVariableType levels parent) ⟨arena, server⟩)
  | [], arena, server, kept, line => .ok kept
  | first :: rest, arena, server, kept, line => by
      refine (each first arena server kept line).bind fun server kept => ?_
      -- The tree of the first neighbour leaves the ids above the others as they are.
      exact forM_visit each rest _ server kept (line.grow (Arena.grown_plant _ _ _ line.inside))

theorem visit {levels depth : Nat} (left : maxDepth - depth = levels) (parent : Nat)
    (found : Neighbour) (above : List NodeId) (arena : Arena) (server : σ) (kept : steady server)
    (line : arena.Lineage parent above) :
    Ends chart steady () (arena.plant parent (chart.tree ofVariableType maxDepth depth above found))
      (browser.visit ofVariableType levels parent found ⟨arena, server⟩) := by
  -- Only the bound stays the same on the way down: `left` ties the levels to the depth.
  induction levels generalizing depth parent found above arena server with
  | zero =>
      have bottom : ¬ depth < maxDepth := by omega
      rw [Browser.visit, Chart.tree, Arena.plant, Chart.branches, if_neg bottom]
      exact (charted.enter ofVariableType kept parent found).bind fun server kept => .ok kept
  | succ levels ih =>
      have deeper : depth < maxDepth := by omega
      rw [Browser.visit, Chart.tree, Arena.plant, Chart.branches, if_pos deeper]
      refine (charted.enter ofVariableType kept parent found).bind fun server kept => ?_
      have entered := line.add (found.declaration (chart.ruleOf found) ofVariableType)
      have line' := line.grow (Arena.grown_add arena parent
        (found.declaration (chart.ruleOf found) ofVariableType) line.inside)
      rw [Exchange.bind_ok (Exchange.get_apply _), line'.lineHas]
      by_cases present : found.node ∈ above
      · rw [if_pos present, if_pos (decide_eq_true present)]
        exact .ok kept
      · rw [if_neg present, if_neg (by simpa using present)]
        obtain ⟨new, kept', answered⟩ := charted.found found.node server kept
        refine (ends_tolerate (fun cause fails lost => ⟨lost, found.node, .inl fails⟩) kept' answered
          [] _).bind fun server kept => ?_
        exact forM_visit ofVariableType (fun found => ih (by omega) _ found _) _ _ server kept entered

theorem discover {base root : NodeId} {found : List Neighbour} (arena : Arena) {server : σ}
    (canonical : browser.namespaces.canonical base = .ok root)
    (answered : chart.found root = .ok found) (shallow : maxDepth = 0 → found = [])
    (kept : steady server) :
    Ends chart steady () (arena.plantRoot (chart.rootTree ofVariableType maxDepth root))
      (browser.discover maxDepth base ofVariableType ⟨arena, server⟩) := by
  have branches : chart.branches ofVariableType maxDepth 0 [] root =
      found.map (chart.tree ofVariableType maxDepth 1 [root]) := by
    -- A crawl enters the neighbours of its root even at the depth zero, where the chart is empty.
    rw [Chart.branches]
    split
    · rw [if_neg List.not_mem_nil, answered]
      rfl
    · rw [shallow (by omega)]
      rfl
  rw [discover_eq_forM, canonical, Exchange.bind_ok (Exchange.ofExcept_ok root _), Chart.rootTree,
    Arena.plantRoot, branches]
  let declaration := rootDeclaration root ofVariableType
  have added : Ends chart steady arena.size (arena.push none declaration)
      (Crawling.addRoot declaration ⟨arena, server⟩) := .ok kept
  refine added.bind fun server kept => ?_
  have asked : Ends chart steady found (arena.push none declaration) (Crawling.onServer
      (browser.browse root .instancesAndTypes) ⟨arena.push none declaration, server⟩) := by
    obtain ⟨new, kept', same⟩ := charted.found root server kept
    rw [answered] at same
    rw [Crawling.onServer, Exchange.within_ok (Exchange.result_eq_ok.1 same)]
    exact .ok kept'
  refine asked.bind fun server kept => ?_
  have line : (arena.push none declaration).Lineage arena.size [root] := by
    have there : (arena.push none declaration).node? arena.size = some { declaration } := by
      simp [Arena.push, Arena.node?, Arena.size]
    exact .root there rfl
  exact forM_visit ofVariableType (charted.visit ofVariableType maxDepth rfl _ · _) _ _ server kept
    line

end Charted

theorem Chart.declared_branches (chart : Chart) (ofVariableType : Bool) (maxDepth depth : Nat)
    (above : List NodeId) (id : NodeId) (first : Nat) (parent : Option Nat) (node : ArenaNode)
    (listed : node ∈ Descriptor.forestLayout first parent
      (chart.branches ofVariableType maxDepth depth above id)) :
    ∃ found, node.declaration = Neighbour.declaration found (chart.ruleOf found) ofVariableType := by
  rw [Chart.branches] at listed
  split at listed
  · split at listed
    · cases listed
    · generalize (chart.found id).toOption.getD [] = found at listed
      induction found generalizing first with
      | nil => cases listed
      | cons neighbour rest ih =>
          rw [List.map_cons, Descriptor.forestLayout, Descriptor.layout, List.cons_append] at listed
          rcases List.mem_cons.1 listed with rfl | listed
          · exact ⟨neighbour, rfl⟩
          · rcases List.mem_append.1 listed with inside | behind
            · exact declared_branches chart ofVariableType maxDepth (depth + 1) _ _ _ _ node inside
            · exact ih _ behind
  · cases listed
termination_by maxDepth - depth

theorem Arena.registry_getElem? (arena : Arena) (name : String) : arena.registry[name]? =
    arena.types[name]?.bind fun i => (arena.node? i).map (·.declaration.node) :=
  Std.TreeMap.getElem?_filterMap'

/-- A crawl from an empty arena that does not lose the connection ends with the tree of the chart in
preorder.  Below the root, all but types carry the rule of the chart, and each name of a type is
registered for the first type with that name. -/
theorem discover_charted (charted : Charted browser steady chart) {base root : NodeId}
    {found : List Neighbour} {maxDepth : Nat} {ofVariableType : Bool} {server : σ}
    (canonical : browser.namespaces.canonical base = .ok root)
    (answered : chart.found root = .ok found) (positive : 0 < maxDepth) (kept : steady server)
    (undisturbed : ∀ cause crawl, browser.discover maxDepth base ofVariableType ⟨.empty, server⟩ =
      .error cause crawl → cause.isConnection = false) :
    ∃ crawl, browser.discover maxDepth base ofVariableType ⟨.empty, server⟩ = .ok () crawl ∧
      crawl.arena.nodes.toList =
        (chart.rootTree ofVariableType maxDepth root).layout 0 none ∧
      crawl.arena.Linked ∧
      (∀ node ∈ crawl.arena.nodes.toList.tail, node.declaration.nodeClass.isType = false →
        node.declaration.rule = (chart.rule node.declaration.node).toOption.getD .optional) ∧
      ∀ name, crawl.arena.registry[name]? =
        (crawl.arena.nodes.toList.tail.find? (·.isTypeNamed name)).map (·.declaration.node) := by
  have ends := charted.discover ofVariableType maxDepth .empty canonical answered
    (fun zero => absurd zero (Nat.ne_zero_of_lt positive)) kept
  generalize same : browser.discover maxDepth base ofVariableType ⟨.empty, server⟩ = result at *
  cases ends with
  | lost lost =>
      have still := lost.1
      rw [undisturbed _ _ rfl] at still
      cases still
  | @ok last kept =>
      have nodes := Arena.nodes_plantRoot .empty (chart.rootTree ofVariableType maxDepth root)
      have below : (Arena.empty.plantRoot (chart.rootTree ofVariableType maxDepth root)).nodes.toList
          = _ :: Descriptor.forestLayout 1 (some 0)
            (chart.branches ofVariableType maxDepth 0 [] root) := nodes
      refine ⟨_, rfl, nodes, Arena.linked_empty.plantRoot (chart.rootTree _ _ _),
        fun node listed noType => ?_, fun name => ?_⟩
      · rw [below] at listed
        obtain ⟨neighbour, declared⟩ := chart.declared_branches _ _ _ _ _ _ _ node listed
        rw [declared] at noType ⊢
        have untyped : neighbour.nodeClass.isType = false := noType
        show chart.ruleOf neighbour = _
        rw [Chart.ruleOf, untyped]
        rfl
      · have registers := Arena.registers_empty.plantRoot (chart.rootTree ofVariableType maxDepth root)
        have declared : (Arena.empty.plantRoot
            (chart.rootTree ofVariableType maxDepth root)).nodes.toList.tail.map (·.declaration) =
              Descriptor.forestDeclared (chart.branches ofVariableType maxDepth 0 [] root) := by
          rw [below, List.tail_cons, Descriptor.map_forestLayout]
        have first := registers.first name
        rw [List.nil_append, Chart.rootTree, ← declared, List.find?_map] at first
        have there := congrArg (Option.map (·.node)) first
        rw [Option.map_map, Option.map_bind, Option.map_map] at there
        exact (Arena.registry_getElem? _ name).trans there

def forkTransport : Transport Unit where
  isConnected _ := true
  endpoints _ := pure []
  connect _ _ := pure ()
  disconnect := pure ()
  browse request := pure (
    if request.node = .standard Standard.baseObjectType then
      { references := [
          { node := .standard 100, nodeClass := 8, browseName := ⟨0, "Press"⟩ },
          { node := .standard 101, nodeClass := 1, browseName := ⟨0, "Tool"⟩ }] }
    else { status := .badNodeIdUnknown })
  browseNext _ := pure {}
  read _ := pure {}
  translate _ := pure {}
  subscribe _ _ := pure 0
  unsubscribe _ := pure ()

def forkBrowser : Browser Unit := ⟨forkTransport, .ofList [Standard.namespaceUri], 1⟩

def forkChart : Chart where
  found node := ((forkBrowser.browse node .instancesAndTypes).result ()).1
  rule node := ((forkBrowser.modellingRule node).result ()).1

theorem charted_fork : Charted forkBrowser (fun _ => True) forkChart :=
  ⟨fun _ _ _ => ⟨(), trivial, rfl⟩, fun _ _ _ => ⟨(), trivial, rfl⟩⟩

open Exchange in
theorem discover_charted_fork :
    ∃ crawl, forkBrowser.discover 2 (Standard.node Standard.baseObjectType) false ⟨.empty, ()⟩ =
        .ok () crawl ∧
      crawl.arena.nodes.toList =
        (forkChart.rootTree false 2 ⟨Standard.namespaceUri, "i=58"⟩).layout 0 none := by
  have calls : forkTransport.Keeps (fun _ => True) (fun cause => cause.isConnection = false) :=
    ⟨fun _ => keeps_pure _, fun _ _ => keeps_pure _, keeps_pure _, fun _ => keeps_pure _,
      fun _ => keeps_pure _, fun _ => keeps_pure _, fun _ => keeps_pure _,
      fun _ _ => keeps_pure _, fun _ => keeps_pure _⟩
  have undisturbed : ∀ cause crawl, forkBrowser.discover 2 (Standard.node Standard.baseObjectType)
      false ⟨.empty, ()⟩ = .error cause crawl → cause.isConnection = false := by
    intro cause crawl failed
    have ends := @Browser.keeps_discover Unit _ _ forkBrowser (fun _ other => other) calls 2
      (Standard.node Standard.baseObjectType) false ⟨.empty, ()⟩ trivial
    rw [failed] at ends
    cases ends with
    | error allowed kept => exact allowed
  have canonical : forkBrowser.namespaces.canonical (Standard.node Standard.baseObjectType) =
      .ok ⟨Standard.namespaceUri, "i=58"⟩ := rfl
  obtain ⟨crawl, ends, nodes, -⟩ :=
    discover_charted charted_fork canonical rfl (by decide) trivial undisturbed
  exact ⟨crawl, ends, nodes⟩

end AddressSpace
