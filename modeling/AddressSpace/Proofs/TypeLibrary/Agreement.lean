import AddressSpace.Proofs.Crawl.Chart
import AddressSpace.Proofs.Crawl.Growth
import AddressSpace.Proofs.Renaming.Rebuild
import AddressSpace.Proofs.Substitution
import AddressSpace.Proofs.TypeLibrary

namespace AddressSpace
open Exchange

theorem Expansion.expandAll_eq_of_target? {expansion other : Expansion}
    (same : ∀ type, expansion.target? type = other.target? type) (free : List String)
    (forest : List Descriptor) : expansion.expandAll free forest = other.expandAll free forest := by
  induction free, forest using Expansion.expandAll.induct expansion with
  | case1 free => rw [expandAll, expandAll]
  | case2 free declaration children rest ihType ihChildren ihRest =>
      cases found : expansion.target? declaration.typeDefinition with
      | none =>
          rw [expandAll_cons_none found, expandAll_cons_none (same _ ▸ found), ihChildren, ihRest]
      | some target =>
          obtain ⟨name, entry⟩ := target
          have found' := same declaration.typeDefinition ▸ found
          by_cases isFree : name ∈ free
          · rw [expandAll_cons_some found isFree, expandAll_cons_some found' isFree,
              ihType name entry isFree, ihRest]
          · rw [expandAll_cons_bound found isFree, expandAll_cons_bound found' isFree, ihRest]

namespace TypeMap

theorem equiv_of_get? {map other : TypeMap} (same : ∀ name, map.get? name = other.get? name) :
    map.entries.Equiv other.entries :=
  .of_forall_constGet?_eq same

theorem get?_substitute_eq_of_get? {staged other : TypeMap}
    (same : ∀ name, staged.get? name = other.get? name) (registry : Std.TreeMap String NodeId)
    (name : String) :
    (staged.substitute registry).get? name = (other.substitute registry).get? name := by
  have names : staged.names = other.names := (equiv_of_get? same).keys_eq
  have targets : ∀ type, Expansion.target? ⟨namesById registry, staged⟩ type =
      Expansion.target? ⟨namesById registry, other⟩ type := by
    intro type
    simp only [Expansion.target?, same]
  have entries : Expansion.expandEntry ⟨namesById registry, staged⟩ =
      Expansion.expandEntry ⟨namesById registry, other⟩ := by
    funext name entry
    rw [Expansion.expandEntry, Expansion.expandEntry, names,
      Expansion.expandAll_eq_of_target? targets]
  rw [get?_substitute, get?_substitute, same, entries]

end TypeMap

namespace TypeLibrary

def Collects (namespaces : NamespaceTable) (expected : List String) (uri : String) : Prop :=
  expected = [] ∨ uri ∈ expected ∧ uri ∈ namespaces.toList

/-- The types of a library are just the registered ones of some namespaces, each under its name. -/
structure Agrees (library : TypeLibrary) (collected : String → Prop) : Prop where
  entry : ∀ (name : String) (entry : Descriptor), library.types.get? name = some entry →
    library.registry[name]? = some entry.declaration.node ∧
      (entry.declaration.nodeClass = .objectType ∨ entry.declaration.nodeClass = .variableType) ∧
      toString entry.declaration.browseName = name
  present : ∀ name : String, (library.types.get? name).isSome ↔
    ∃ id, library.registry[name]? = some id ∧ collected id.uri

variable {arena : Arena} {namespaces : NamespaceTable} {expected : List String}

theorem mem_targets {uri : String} (nonempty : expected ≠ []) :
    uri ∈ targets arena namespaces expected ↔ uri ∈ expected ∧ uri ∈ namespaces.toList := by
  rw [targets, if_neg (by simpa using nonempty)]
  simp

theorem mem_targets_of_registered {name : String} {i : Nat} {node : ArenaNode}
    (registered : (name, i, node) ∈ arena.registered) :
    node.declaration.node.uri ∈ targets arena namespaces expected ↔
      Collects namespaces expected node.declaration.node.uri := by
  by_cases empty : expected = []
  · subst empty
    exact iff_of_true (Arena.uri_mem_typeNamespaces registered) (.inl rfl)
  · rw [mem_targets empty, Collects, or_iff_right empty]

theorem agrees_ofArena (linked : arena.Linked) (indexed : arena.Indexed) :
    (ofArena arena (targets arena namespaces expected)).Agrees (Collects namespaces expected) := by
  have declared := declaration_ofArena linked (targets arena namespaces expected)
  constructor
  case entry =>
    intro name entry found
    have whole := declared name
    rw [found, Option.map_some] at whole
    obtain ⟨node, there, collected⟩ := Option.bind_eq_some_iff.1 whole.symm
    obtain ⟨i, listed, there⟩ := Option.bind_eq_some_iff.1 there
    obtain ⟨node', there', named⟩ := indexed name i listed
    obtain rfl := Option.some.inj (there'.symm.trans there)
    obtain ⟨-, same⟩ := Option.ite_none_right_eq_some.1 collected
    rw [← Option.some.inj same]
    obtain ⟨isType, named⟩ := (Bool.and_eq_true ..).mp named
    refine ⟨?_, ?_, beq_iff_eq.1 named⟩
    · show arena.registry[name]? = _
      rw [Arena.registry_getElem?, listed, Option.bind_some, there]
      rfl
    · cases same : node'.declaration.nodeClass <;> simp_all [NodeClass.isType]
  case present =>
    intro name
    have whole := congrArg Option.isSome (declared name)
    rw [Option.isSome_map] at whole
    show _ ↔ ∃ id, arena.registry[name]? = some id ∧ _
    rw [whole, Arena.registry_getElem?]
    cases listed : arena.types[name]? with
    | none => simp
    | some i =>
        obtain ⟨node, there, -⟩ := indexed name i listed
        have wanted := @mem_targets_of_registered arena namespaces expected name i node
          (Arena.mem_registered.2 ⟨listed, there⟩)
        simp [there, ← wanted]

theorem types_ofArena_congr (arena : Arena) {uris uris' : List String}
    (same : ∀ uri, uri ∈ uris ↔ uri ∈ uris') :
    (ofArena arena uris).types.entries.Equiv (ofArena arena uris').types.entries := by
  refine TypeMap.equiv_of_get? (TypeMap.get?_substitute_eq_of_get? (fun name => ?_) arena.registry)
  simp only [get?_stage, Arena.staged?, same]

theorem mem_targets_congr (arena : Arena) (namespaces : NamespaceTable)
    {expected' : List String} (same : ∀ uri, uri ∈ expected' ↔ uri ∈ expected) (uri : String) :
    uri ∈ targets arena namespaces expected' ↔ uri ∈ targets arena namespaces expected := by
  have empty : expected' = [] ↔ expected = [] := by
    simp only [List.eq_nil_iff_forall_not_mem, same]
  by_cases all : expected = []
  · rw [all, empty.2 all]
  · rw [mem_targets all, mem_targets (mt empty.1 all), same]

end TypeLibrary

variable {σ : Type}

theorem Browser.crawled_crawlTypes {browser : Browser σ} {maxDepth : Nat} {server new : σ}
    {arena : Arena} (ends : browser.crawlTypes maxDepth server = .ok arena new) :
    arena.Crawled := by
  unfold crawlTypes Crawling.fromEmpty at ends
  split at ends
  case h_1 crawl both =>
    cases ends
    obtain ⟨_, between, first, second⟩ := bind_eq_ok both
    have base : between.arena.Crawled := by
      have crawled := Arena.Crawled.discover .empty browser maxDepth
        (Standard.node Standard.baseDataVariableType) true server
      rwa [Exchange.result_eq_ok.2 first] at crawled
    have objects := Arena.Crawled.discover base browser maxDepth
      (Standard.node Standard.baseObjectType) false between.server
    rwa [Exchange.result_eq_ok.2 second] at objects
  case h_2 => cases ends

namespace Client

variable {client : Client σ} {config : Config} {session rebuilt : Session σ} {count : Nat}

theorem rebuild_eq_ok : client.rebuild config session = .ok count rebuilt ↔
    ∃ namespaces between arena server,
      NamespaceTable.fetch client.transport session.server = .ok namespaces between ∧
      (client.through namespaces).crawlTypes config.maxCrawlDepth.toNat between =
        .ok arena server ∧
      let library := TypeLibrary.ofArena arena
        (TypeLibrary.targets arena namespaces config.typeNamespaces)
      count = library.types.size ∧
        rebuilt = { session with server, namespaces, superTypes := [], library } := by
  rw [rebuild_apply]
  constructor
  · intro ends
    split at ends
    · cases ends
    · split at ends
      · cases ends
      · cases ends
        exact ⟨_, _, _, _, ‹_›, ‹_›, rfl, rfl⟩
  · rintro ⟨namespaces, between, arena, server, fetched, crawled, rfl, rfl⟩
    rw [fetched]
    dsimp only
    rw [crawled]

/-- After a successful rebuild, each entry of the type map is that of the node that is registered
under its name, and there is an entry for each registered name whose namespace is collected.  Other
lists of the same expected namespaces lead to the same types and the same registry. -/
theorem rebuild_agrees (ends : client.rebuild config session = .ok count rebuilt) :
    rebuilt.library.Agrees
        (TypeLibrary.Collects rebuilt.namespaces config.typeNamespaces) ∧
      ∀ uris : List String, (∀ uri, uri ∈ uris ↔ uri ∈ config.typeNamespaces) →
        ∃ other, client.rebuild { config with typeNamespaces := uris } session =
            .ok count other ∧
          other.library.types.toList = rebuilt.library.types.toList ∧
          other.library.registry = rebuilt.library.registry := by
  obtain ⟨namespaces, between, arena, server, fetched, crawled, rfl, rfl⟩ := rebuild_eq_ok.1 ends
  have sprouted := (Browser.crawled_crawlTypes crawled).sprouted
  refine ⟨TypeLibrary.agrees_ofArena sprouted.linked sprouted.indexed, fun uris same => ?_⟩
  have types := TypeLibrary.types_ofArena_congr arena
    (TypeLibrary.mem_targets_congr arena namespaces same)
  exact ⟨_, rebuild_eq_ok.2 ⟨namespaces, between, arena, server, fetched, crawled,
    types.size_eq.symm, rfl⟩, types.toList_eq, rfl⟩

def pressConfig : Config := { Config.ofEndpoint "" with typeNamespaces := ["ns1", "ns9"] }

theorem rebuild_agrees_press :
    ∃ rebuilt other, (pressClient 1 ["ns0", "ns1", "ns2"]).rebuild pressConfig freshSession =
        .ok 1 rebuilt ∧
      rebuilt.library.Agrees (TypeLibrary.Collects rebuilt.namespaces ["ns1", "ns9"]) ∧
      (pressClient 1 ["ns0", "ns1", "ns2"]).rebuild
        { pressConfig with typeNamespaces := ["ns9", "ns1", "ns9"] } freshSession = .ok 1 other ∧
      other.library.types.toList = rebuilt.library.types.toList ∧
      other.library.registry = rebuilt.library.registry := by
  have counted : (((pressClient 1 ["ns0", "ns1", "ns2"]).rebuild pressConfig).result
      freshSession).1.toOption = some 1 := by
    simp only [Exchange.result, rebuild_apply, Browser.crawlTypes, Browser.discover_eq_forM]
    decide +kernel
  obtain ⟨rebuilt, ends⟩ := exists_eq_ok counted
  obtain ⟨agrees, ordered⟩ := rebuild_agrees ends
  have same : ∀ uri, uri ∈ ["ns9", "ns1", "ns9"] ↔ uri ∈ pressConfig.typeNamespaces := by
    intro uri
    simp only [pressConfig, List.mem_cons, List.not_mem_nil, or_false]
    exact or_iff_right_of_imp .inr
  obtain ⟨other, ends', types, registry⟩ := ordered _ same
  exact ⟨rebuilt, other, ends, agrees, ends', types, registry⟩

end Client

end AddressSpace
