import AddressSpace.Manager
import AddressSpace.Proofs.TypeLibrary.Agreement

namespace AddressSpace
open Exchange

namespace Arena

/-- A registered type of a namespace that has the identifier of machine types and is right below the
base object type. -/
structure MachineType (arena : Arena) (uri name : String) (node : ArenaNode) : Prop where
  registered : ∃ i, (name, i, node) ∈ arena.registered
  id : node.declaration.node = ⟨uri, Standard.companionMachineType⟩
  below : ∃ root, arena.parent? node = some root ∧ isObjectRoot root

variable {arena : Arena} {uri : String}

theorem mem_typesIn {node : ArenaNode} : node ∈ arena.typesIn uri ↔
    (∃ name i, (name, i, node) ∈ arena.registered) ∧ node.declaration.node.uri = uri := by
  simp [typesIn]

theorem MachineType.isMachineType {name : String} {node : ArenaNode}
    (machine : arena.MachineType uri name node) :
    node ∈ arena.typesIn uri ∧ arena.isMachineType node := by
  obtain ⟨i, registered⟩ := machine.registered
  obtain ⟨root, parent, isRoot⟩ := machine.below
  refine ⟨mem_typesIn.2 ⟨⟨name, i, registered⟩, by rw [machine.id]⟩, ?_⟩
  rw [Arena.isMachineType, parent, Option.any_some, isRoot, machine.id]
  rfl

theorem machineType_of_isMachineType {node : ArenaNode} (listed : node ∈ arena.typesIn uri)
    (machine : arena.isMachineType node) : ∃ name, arena.MachineType uri name node := by
  obtain ⟨⟨name, i, registered⟩, rfl⟩ := mem_typesIn.1 listed
  obtain ⟨below, identified⟩ := (Bool.and_eq_true ..).mp machine
  obtain ⟨root, parent, isRoot⟩ := Option.any_eq_true .. |>.mp below
  have id : node.declaration.node =
      ⟨node.declaration.node.uri, Standard.companionMachineType⟩ := by
    rw [NodeId.mk.injEq]
    exact ⟨rfl, of_decide_eq_true identified⟩
  exact ⟨name, ⟨i, registered⟩, id, root, parent, isRoot⟩

theorem MachineType.advertised {name : String} {node : ArenaNode}
    (machine : arena.MachineType uri name node) : ∃ name first, arena.MachineType uri name first ∧
      (arena.namespaceInformation uri).machineType = first.declaration.browseName.name := by
  obtain ⟨listed, isMachine⟩ := machine.isMachineType
  obtain ⟨first, found⟩ := Option.isSome_iff_exists.1
    (List.find?_isSome.2 ⟨node, listed, isMachine⟩)
  obtain ⟨name, machine⟩ := machineType_of_isMachineType (List.mem_of_find?_eq_some found)
    (List.find?_some found)
  refine ⟨name, first, machine, ?_⟩
  unfold namespaceInformation
  dsimp only
  rw [found]

theorem MachineType.registry {name : String} {node : ArenaNode} (indexed : arena.Indexed)
    (machine : arena.MachineType uri name node) :
    toString node.declaration.browseName = name ∧
      arena.registry[name]? = some ⟨uri, Standard.companionMachineType⟩ := by
  obtain ⟨i, registered⟩ := machine.registered
  obtain ⟨listed, there⟩ := mem_registered.1 registered
  obtain ⟨node', there', named⟩ := indexed name i listed
  obtain rfl := Option.some.inj (there'.symm.trans there)
  refine ⟨beq_iff_eq.1 ((Bool.and_eq_true ..).mp named).2, ?_⟩
  rw [registry_getElem?, listed, Option.bind_some, there, Option.map_some, machine.id]

theorem MachineType.collected {name : String} {node : ArenaNode} {namespaces : NamespaceTable}
    {expected : List String} (machine : arena.MachineType uri name node)
    (target : uri ∈ TypeLibrary.targets arena namespaces expected) :
    TypeLibrary.Collects namespaces expected uri := by
  obtain ⟨i, registered⟩ := machine.registered
  have wanted := @TypeLibrary.mem_targets_of_registered arena namespaces expected _ _ _ registered
  rw [machine.id] at wanted
  exact wanted.1 target

end Arena

variable {σ : Type}

def Manager.Finds (manager : Manager σ) (name : String) (id : NodeId) : Prop :=
  ∃ entry, manager.typeDescriptor name = .ok entry ∧ entry.declaration.node = id

theorem Manager.finds_iff_registered (manager : Manager σ) {collected : String → Prop}
    (agrees : manager.session.library.Agrees collected) {name : String} {id : NodeId}
    (wanted : collected id.uri) :
    manager.Finds name id ↔ manager.session.library.registry[name]? = some id := by
  unfold Finds typeDescriptor
  constructor
  · rintro ⟨entry, found, rfl⟩
    split at found
    case h_1 entry' present =>
      cases found
      exact (agrees.entry name _ present).1
    case h_2 => cases found
  · intro registered
    obtain ⟨entry, present⟩ := Option.isSome_iff_exists.1
      ((agrees.present name).2 ⟨id, registered, wanted⟩)
    refine ⟨entry, by rw [present], ?_⟩
    exact Option.some.inj ((agrees.entry name entry present).1.symm.trans registered)

namespace Client

variable {client : Client σ} {config : Config} {session rebuilt : Session σ} {count : Nat}

/-- After a successful rebuild, the information about each namespace that has machine types
advertises one of them, which is found under its browse name.  Under the namespace of the
information and the advertised name it is found just if that is what it is registered under, so in
any case if its browse name is in the namespace. -/
theorem rebuild_advertises (ends : client.rebuild config session = .ok count rebuilt) :
    ∃ between arena,
      NamespaceTable.fetch client.transport session.server = .ok rebuilt.namespaces between ∧
      (client.through rebuilt.namespaces).crawlTypes config.maxCrawlDepth.toNat between =
        .ok arena rebuilt.server ∧
      ∀ info ∈ rebuilt.library.infos, ∀ name node, arena.MachineType info.uri name node →
        ∃ other first, arena.MachineType info.uri other first ∧
          first.declaration.browseName.name = info.machineType ∧
          ∀ manager : Manager σ, manager.session = rebuilt →
            let id : NodeId := ⟨info.uri, Standard.companionMachineType⟩
            let advertised := info.uri ++ ";" ++ info.machineType
            manager.Finds (toString first.declaration.browseName) id ∧
              (manager.Finds advertised id ↔ rebuilt.library.registry[advertised]? = some id) ∧
              (first.declaration.browseName.uri = info.uri → manager.Finds advertised id) := by
  obtain ⟨namespaces, between, arena, server, fetched, crawled, rfl, rfl⟩ := rebuild_eq_ok.1 ends
  have sprouted := (Browser.crawled_crawlTypes crawled).sprouted
  refine ⟨between, arena, fetched, crawled, fun info listed name node machine => ?_⟩
  obtain ⟨uri, target, rfl⟩ := List.mem_map.1 listed
  change arena.MachineType uri name node at machine
  obtain ⟨other, first, machine, named⟩ := machine.advertised
  obtain ⟨rfl, registered⟩ := machine.registry sprouted.indexed
  refine ⟨_, first, machine, named.symm, ?_⟩
  rintro manager after
  dsimp only
  have finds : ∀ name, manager.Finds name ⟨uri, Standard.companionMachineType⟩ ↔
      arena.registry[name]? = some ⟨uri, Standard.companionMachineType⟩ := by
    intro name
    have agrees : manager.session.library.Agrees
        (TypeLibrary.Collects namespaces config.typeNamespaces) := by
      rw [after]
      exact TypeLibrary.agrees_ofArena sprouted.linked sprouted.indexed
    rw [manager.finds_iff_registered agrees (machine.collected target), after]
    rfl
  refine ⟨(finds _).2 registered, finds _, fun inside => (finds _).2 ?_⟩
  have advertised : toString first.declaration.browseName = uri ++ ";" ++
      (arena.namespaceInformation uri).machineType := by
    rw [named]
    exact congrArg (· ++ ";" ++ first.declaration.browseName.name) inside
  exact advertised ▸ registered

def toolUris : List String := ["ns0", "ns1", "ns2"]

/-- A server with a machine type in the second of its namespaces and the browse name of the type in
another one or in the same. -/
def toolTransport (names : UInt16) : Transport Unit where
  isConnected _ := true
  endpoints _ := pure []
  connect _ _ := pure ()
  disconnect := pure ()
  browse request := pure (
    if request.node = .standard Standard.baseObjectType then
      { references := [
          { node := ⟨1, .number 1014⟩, nodeClass := 8, browseName := ⟨names, "MachineToolType"⟩ }] }
    else {})
  browseNext _ := pure {}
  read _ := pure { values := [.good (.array (toolUris.map .string))] }
  translate _ := pure {}
  subscribe _ _ := pure 0
  unsubscribe _ := pure ()

def toolClient (names : UInt16) : Client Unit := ⟨toolTransport names, .ofEndpoint ""⟩

def toolInfo : NamespaceInformation := ⟨"ns1", "ns1", "MachineToolType", "ns1IdentificationType"⟩

def toolNode : NodeId := ⟨"ns1", Standard.companionMachineType⟩

def toolCrawl (names : UInt16) : Exchange Unit Arena :=
  ((toolClient names).through (.ofList toolUris)).crawlTypes
    (Config.ofEndpoint "").maxCrawlDepth.toNat

def isToolArena (name : String) (arena : Arena) : Bool :=
  arena.types.toList == [(name, 2)] &&
    (arena.node? 2).any (fun node =>
      arena.isMachineType node && node.declaration.node == toolNode) &&
    arena.typeNamespaces.map arena.namespaceInformation == [toolInfo]

structure ToolArena (name : String) (arena : Arena) : Prop where
  listed : ∀ (other : String) i, arena.types[other]? = some i ↔ other = name ∧ i = 2
  node : ∃ node, arena.node? 2 = some node ∧ arena.isMachineType node ∧
    node.declaration.node = toolNode
  infos : (TypeLibrary.ofArena arena arena.typeNamespaces).infos = [toolInfo]

section Tool

variable {names : UInt16} {name : String} {arena : Arena}

theorem exists_toolArena
    (tested : ((toolCrawl names).result ()).1.toOption.any (isToolArena name)) :
    ∃ arena, toolCrawl names () = .ok arena () ∧ ToolArena name arena := by
  obtain ⟨arena, answered, isTool⟩ := Option.any_eq_true .. |>.mp tested
  obtain ⟨server, crawled⟩ := exists_eq_ok answered
  obtain ⟨both, infos⟩ := (Bool.and_eq_true ..).mp isTool
  obtain ⟨types, node⟩ := (Bool.and_eq_true ..).mp both
  obtain ⟨node, there, both⟩ := Option.any_eq_true .. |>.mp node
  obtain ⟨isMachine, id⟩ := (Bool.and_eq_true ..).mp both
  refine ⟨arena, crawled, fun other i => ?_, ⟨node, there, isMachine, beq_iff_eq.1 id⟩,
    beq_iff_eq.1 infos⟩
  rw [← Std.TreeMap.mem_toList_iff_getElem?_eq_some, beq_iff_eq.1 types, List.mem_singleton,
    Prod.mk.injEq]

theorem rebuild_tool (crawled : toolCrawl names () = .ok arena ()) :
    (toolClient names).rebuild (.ofEndpoint "") { server := () } =
      .ok (TypeLibrary.ofArena arena arena.typeNamespaces).types.size
        { server := (), namespaces := .ofList toolUris,
          library := .ofArena arena arena.typeNamespaces } :=
  rebuild_eq_ok.2 ⟨_, (), arena, (), rfl, crawled, rfl, rfl⟩

theorem ToolArena.registry (tool : ToolArena name arena) (other : String) :
    arena.registry[other]? = some toolNode ↔ other = name := by
  obtain ⟨node, there, -, id⟩ := tool.node
  rw [Arena.registry_getElem?, Option.bind_eq_some_iff]
  constructor
  · rintro ⟨i, listed, -⟩
    exact ((tool.listed other i).1 listed).1
  · rintro rfl
    exact ⟨2, (tool.listed other 2).2 ⟨rfl, rfl⟩, by rw [there, Option.map_some, id]⟩

theorem ToolArena.machineType (tool : ToolArena name arena) :
    ∃ other node, arena.MachineType toolInfo.uri other node := by
  obtain ⟨node, there, isMachine, id⟩ := tool.node
  have registered := Arena.mem_registered.2 ⟨(tool.listed name 2).2 ⟨rfl, rfl⟩, there⟩
  obtain ⟨other, machine⟩ := Arena.machineType_of_isMachineType
    (Arena.mem_typesIn.2 ⟨⟨name, 2, registered⟩, by rw [id]⟩) isMachine
  exact ⟨other, node, machine⟩

theorem ToolArena.mem_infos (tool : ToolArena name arena) :
    toolInfo ∈ (TypeLibrary.ofArena arena arena.typeNamespaces).infos := by
  rw [tool.infos]
  exact List.mem_singleton_self _

end Tool

theorem rebuild_advertises_tool : ∃ count rebuilt,
    (toolClient 1).rebuild (.ofEndpoint "") { server := () } = .ok count rebuilt ∧
      rebuilt.library.infos = [toolInfo] ∧ ∀ manager : Manager Unit, manager.session = rebuilt →
        manager.Finds "ns1;MachineToolType" toolNode := by
  have tested : ((toolCrawl 1).result ()).1.toOption.any (isToolArena "ns1;MachineToolType") := by
    simp only [toolCrawl, Exchange.result, Browser.crawlTypes, Browser.discover_eq_forM]
    decide +kernel
  obtain ⟨arena, crawled, tool⟩ := exists_toolArena tested
  have ends := rebuild_tool crawled
  refine ⟨_, _, ends, tool.infos, fun manager same => ?_⟩
  obtain ⟨between, arena', -, crawled', advertises⟩ := rebuild_advertises ends
  obtain rfl : arena = arena' := by
    cases crawled.symm.trans crawled'
    rfl
  obtain ⟨name, node, machine⟩ := tool.machineType
  obtain ⟨_, _, _, _, found⟩ := advertises toolInfo tool.mem_infos _ _ machine
  exact (found manager same).2.1.2 ((tool.registry _).2 rfl)

/-- A machine type whose browse name is in another namespace is advertised, and is not found under
the namespace of the information. -/
theorem advertised_not_found : ¬ ∀ (client : Client Unit) (config : Config)
    (session rebuilt : Session Unit) (count : Nat),
    client.rebuild config session = .ok count rebuilt → ∀ between arena,
      NamespaceTable.fetch client.transport session.server = .ok rebuilt.namespaces between →
      (client.through rebuilt.namespaces).crawlTypes config.maxCrawlDepth.toNat between =
        .ok arena rebuilt.server →
      ∀ info ∈ rebuilt.library.infos, ∀ name node, arena.MachineType info.uri name node →
        ∀ manager : Manager Unit, manager.session = rebuilt →
          manager.Finds (info.uri ++ ";" ++ info.machineType)
            ⟨info.uri, Standard.companionMachineType⟩ := by
  intro always
  have tested : ((toolCrawl 2).result ()).1.toOption.any (isToolArena "ns2;MachineToolType") := by
    simp only [toolCrawl, Exchange.result, Browser.crawlTypes, Browser.discover_eq_forM]
    decide +kernel
  obtain ⟨arena, crawled, tool⟩ := exists_toolArena tested
  have ends := rebuild_tool crawled
  obtain ⟨name, node, machine⟩ := tool.machineType
  have found := always _ _ _ _ _ ends () arena rfl crawled toolInfo tool.mem_infos _ _ machine
    { session := _ } rfl
  have registered := (Manager.finds_iff_registered _ (rebuild_agrees ends).1 (.inl rfl)).1 found
  exact absurd ((tool.registry _).1 registered) (by decide)

end Client

end AddressSpace
