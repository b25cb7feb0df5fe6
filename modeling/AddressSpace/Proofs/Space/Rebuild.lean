import AddressSpace.Proofs.Session
import AddressSpace.Proofs.Space.Supertypes
import AddressSpace.Proofs.Space.Types

namespace AddressSpace
open Exchange

variable {σ : Type} {client : Client σ} {space : Space} {table : NamespaceTable}
  {steady : σ → Prop} {answers : BrowseRequest → List Reference}

namespace Client

theorem isSameOrSubtype_ok {expected candidate : NodeId} {session : Session σ} {verdict : Bool}
    {survey : Surveyed σ}
    (walks : (client.through session.namespaces).isSameOrSubtype client.config.maxTypeDepth.toNat
      expected candidate ⟨session.superTypes, session.server⟩ = .ok verdict survey) :
    client.isSameOrSubtype expected candidate session =
      .ok verdict { session with superTypes := survey.superTypes, server := survey.server } := by
  unfold isSameOrSubtype askAboutTypes
  rw [bind_ok (get_apply session)]
  show Session.onSurvey ((client.through session.namespaces).isSameOrSubtype _ _ _) session = _
  exact within_ok walks

/-- A rebuild from an orderly space, whose types are all wanted, succeeds.  Then
the type map has an entry for a node under a name if and only if the node is a type below one of the
two base types and has that name;
each type below them has its entry under just one name;
and the walk along supertypes tells of a base type, or a type below one, and of any type whether the
second is the first or a proper subtype of it, if it may go as far up as the crawl may go down. -/
theorem rebuild_served {config : Config} {session : Session σ}
    (serves : space.Serves table client.transport client.config.maxPages.toNat steady answers)
    (regular : table.Regular) (orderly : space.Orderly table config.maxCrawlDepth.toNat)
    (all : config.typeNamespaces = []) (kept : steady session.server) :
    ∃ count rebuilt, client.rebuild config session = .ok count rebuilt ∧
      (∀ name id, (∃ entry, rebuilt.library.types.get? name = some entry ∧
          entry.declaration.node = id) ↔
        ∃ type, space.IsBelow type ∧ space.typeName table type = some name ∧
          table.decode type = .ok id) ∧
      (∀ type, space.IsBelow type → ∃! name, ∃ entry,
        rebuilt.library.types.get? name = some entry ∧
          table.decode type = .ok entry.declaration.node) ∧
      (config.maxCrawlDepth ≤ client.config.maxTypeDepth →
        ∀ super type expected candidate, space.IsRooted super → (space.nodeClass type).isType →
          type.isNull = false → type.index ∈ table.uris →
          table.encode expected = .ok super → table.encode candidate = .ok type →
          ∃ verdict new, client.isSameOrSubtype expected candidate rebuilt = .ok verdict new ∧
            (verdict = true ↔ super = type ∨ space.Subtype super type)) := by
  have serves' : space.Serves (client.through table).namespaces (client.through table).transport
      (client.through table).maxPages steady answers := serves
  obtain ⟨between, kept', fetched⟩ := serves.fetches session.server kept
  obtain ⟨uris, listed⟩ := NamespaceTable.fetch_eq_ok fetched
  have lists : table.Lists (uris.take NamespaceTable.capacity) := by
    rw [listed]
    exact NamespaceTable.lists_ofList uris
  obtain ⟨last, kept'', crawled⟩ := serves'.crawlTypes lists regular orderly kept'
  have rebuilds : client.rebuild config session =
      .ok ((client.through table).typeLibrary answers config.maxCrawlDepth.toNat).types.size
        { session with
          server := last
          namespaces := table
          superTypes := []
          library := (client.through table).typeLibrary answers config.maxCrawlDepth.toNat } := by
    rw [rebuild_apply, fetched]
    dsimp only
    rw [crawled, all]
    rfl
  refine ⟨_, _, rebuilds, serves'.get?_iff lists regular orderly,
    fun type isBelow => serves'.existsUnique_get? lists regular orderly isBelow, ?_⟩
  intro high super type expected candidate rooted isType proper known encoded' encoded
  obtain ⟨proper', root, decoded'⟩ := serves'.decode_rooted lists regular orderly rooted
  obtain ⟨id, decoded⟩ := NamespaceTable.decode_known known
  have sound : Surveyed.Sound steady (space.TellsSuper table) ⟨[], last⟩ :=
    ⟨kept'', fun _ never => absurd never List.not_mem_nil⟩
  obtain ⟨verdict, survey, walks, agrees⟩ :=
    serves'.isSameOrSubtype lists regular orderly (UInt64.le_iff_toNat_le.1 high) rooted isType
      proper' encoded' decoded' proper encoded decoded sound
  exact ⟨verdict, _, isSameOrSubtype_ok walks, agrees⟩

end Client

namespace Space

def reference (space : Space) (wire : WireId) : Reference where
  node := wire
  browseName := space.browseName wire
  nodeClass := (space.nodeClass wire).value

def transport (space : Space) (uris : List String) : Transport Unit where
  isConnected _ := true
  endpoints _ := pure []
  connect _ _ := pure ()
  disconnect := pure ()
  browse request := pure { references := (space.ends request).map space.reference }
  browseNext _ := pure {}
  read _ := pure { values := [.good (.array (uris.map .string))] }
  translate _ := pure {}
  subscribe _ _ := pure 0
  unsubscribe _ := pure ()

theorem serves_transport (space : Space) (uris : List String) {maxPages : Nat}
    (positive : 0 < maxPages) (home : (0 : UInt16) ∈ (NamespaceTable.ofList uris).uris)
    (known : ∀ link ∈ space.links, ∀ wire ∈ [link.source, link.target], wire.isNull = false ∧
      wire.index ∈ (NamespaceTable.ofList uris).uris ∧
      (space.browseName wire).index ∈ (NamespaceTable.ofList uris).uris) :
    space.Serves (.ofList uris) (space.transport uris) maxPages (fun _ => True)
      fun request => (space.ends request).map space.reference := by
  have good : Status.good.isBad = false := by decide
  refine ⟨fun server _ => ⟨(), trivial, ?_⟩, fun request server _ => ?_, fun request => ?_,
    fun request reference listed => ?_, home⟩
  · unfold NamespaceTable.fetch
    rw [Exchange.bind_ok (show (space.transport uris).read _ server = _ from rfl)]
    have single : ReadAnswer.single (toString (WireId.standard Standard.namespaceArray))
        { values := [.good (.array (uris.map .string))] } = .ok (.array (uris.map .string)) := by
      simp [ReadAnswer.single, DataValue.good, good]
    rw [single, Exchange.bind_ok (Exchange.ofExcept_ok _ _), NamespaceTable.ofValue,
      Value.strings?_eq_some_iff.2 rfl]
    rfl
  · obtain ⟨pages, rfl⟩ := Nat.exists_eq_add_one_of_ne_zero (Nat.ne_zero_of_lt positive)
    exact .last good rfl trivial
  · refine ⟨_, .refl _, List.forall₂_map_right_iff.2 (List.forall₂_same.2 fun wire _ => ?_)⟩
    exact ⟨rfl, fun _ => rfl, fun _ => rfl⟩
  · obtain ⟨wire, asked, rfl⟩ := List.mem_map.1 listed
    obtain ⟨link, there, either⟩ : ∃ link ∈ space.links, wire ∈ [link.source, link.target] := by
      obtain ⟨link, there, seen⟩ := List.mem_flatMap.1 (List.mem_filter.1 asked).1
      refine ⟨link, (List.mem_filter.1 there).1, ?_⟩
      rcases List.mem_append.1 seen with target | source
      · split at target
        · rw [List.mem_singleton.1 target]
          simp
        · cases target
      · split at source
        · rw [List.mem_singleton.1 source]
          simp
        · cases source
    obtain ⟨proper, node, name⟩ := known link there wire either
    refine ⟨proper, node, name, home, home, ?_⟩
    show (NodeClass.ofValue? (space.nodeClass wire).value).isSome
    rw [NodeClass.ofValue?_value]
    rfl

end Space

def workshopUris : List String := [Standard.namespaceUri, "http://workshop/"]

def workshopSpace : Space where
  links := [
    ⟨.standard Standard.baseObjectType, .standard Standard.hasSubtype, ⟨1, .number 1⟩⟩,
    ⟨⟨1, .number 1⟩, .standard Standard.hasComponent, ⟨1, .number 2⟩⟩,
    ⟨⟨1, .number 1⟩, .standard Standard.hasSubtype, ⟨1, .number 3⟩⟩]
  nodeClass wire := if wire = ⟨1, .number 2⟩ then .object else .objectType
  browseName wire := ⟨1, if wire = ⟨1, .number 1⟩ then "Machine" else "Press"⟩
  isKind kind general := kind = general || general = .standard Standard.hierarchicalReferences
  hasSubtype_hierarchical := by simp

namespace Space

theorem Path.add_le {space : Space} {rank : WireId → Nat}
    (up : ∀ link ∈ space.links, rank link.source < rank link.target) {start node : WireId} {n : Nat}
    (path : space.Path start n node) : rank start + n ≤ rank node := by
  induction path with
  | here => exact Nat.le_refl _
  | step _ contains ih =>
      obtain ⟨link, listed, rfl, rfl, -⟩ := contains
      have := up link listed
      omega

theorem IsBelow.exists_link {space : Space} {type : WireId} (isBelow : space.IsBelow type) :
    ∃ link ∈ space.links, link.target = type ∧
      space.isKind link.kind (.standard Standard.hasSubtype) := by
  obtain ⟨base, -, subtype⟩ := isBelow
  have derives : ∃ super, space.Derives super type := by
    cases subtype with
    | single derives => exact ⟨base, derives⟩
    | tail _ derives => exact ⟨_, derives⟩
  obtain ⟨super, derives⟩ := derives
  obtain ⟨link, listed, -, target, kind⟩ := mem_superTypes.1 derives.1
  exact ⟨link, listed, target, kind⟩

end Space

theorem orderly_workshop :
    workshopSpace.Orderly (.ofList workshopUris) 64 := by
  refine ⟨?_, ?_, ?_, ?_⟩
  · have each : ∀ link ∈ workshopSpace.links, (workshopSpace.nodeClass link.target).isType →
        workshopSpace.isKind link.kind (.standard Standard.hasSubtype) ∧
          (workshopSpace.nodeClass link.source).isType := by decide
    intro base _ n node _ link listed source _ isType
    rw [← source]
    exact each link listed isType
  · have each : ∀ link ∈ workshopSpace.links,
        workshopSpace.isKind link.kind (.standard Standard.hasSubtype) →
          workshopSpace.superTypes link.target = [link.source] := by decide
    intro type isBelow
    obtain ⟨link, listed, rfl, kind⟩ := isBelow.exists_link
    exact ⟨_, each link listed kind⟩
  · have each : ∀ link ∈ workshopSpace.links, ∀ other ∈ workshopSpace.links,
        workshopSpace.isKind link.kind (.standard Standard.hasSubtype) →
        workshopSpace.isKind other.kind (.standard Standard.hasSubtype) →
        workshopSpace.typeName (.ofList workshopUris) link.target =
          workshopSpace.typeName (.ofList workshopUris) other.target →
        link.target = other.target := by decide
    intro type other isBelow isBelow' same
    obtain ⟨link, listed, rfl, kind⟩ := isBelow.exists_link
    obtain ⟨link', listed', rfl, kind'⟩ := isBelow'.exists_link
    exact each link listed link' listed' kind kind' same
  · let rank (wire : WireId) : Nat :=
      if wire = .standard Standard.baseObjectType then 0 else if wire = ⟨1, .number 1⟩ then 1 else 2
    have up : ∀ link ∈ workshopSpace.links, rank link.source < rank link.target := by decide
    intro base _ n node path
    have bound : rank node ≤ 2 := by
      dsimp only [rank]
      split
      · decide
      · split <;> decide
    have := path.add_le up
    omega

theorem regular_workshop : (NamespaceTable.ofList workshopUris).Regular :=
  NamespaceTable.regular_ofList (by decide)

theorem subtype_workshop :
    workshopSpace.Subtype (.standard Standard.baseObjectType) ⟨1, .number 3⟩ := by
  have machine : workshopSpace.Derives (.standard Standard.baseObjectType) ⟨1, .number 1⟩ :=
    ⟨by decide, by decide⟩
  have press : workshopSpace.Derives ⟨1, .number 1⟩ ⟨1, .number 3⟩ := ⟨by decide, by decide⟩
  exact .tail (.single machine) press

namespace Client

def workshopClient : Client Unit :=
  ⟨workshopSpace.transport workshopUris, .ofEndpoint "opc.tcp://workshop"⟩

theorem rebuild_served_workshop :
    ∃ count rebuilt entry verdict new,
      workshopClient.rebuild (.ofEndpoint "opc.tcp://workshop") { server := () } =
        .ok count rebuilt ∧
      rebuilt.library.types.get? "http://workshop/;Press" = some entry ∧
      entry.declaration.node = ⟨"http://workshop/", "i=3"⟩ ∧
      workshopClient.isSameOrSubtype (Standard.node Standard.baseObjectType)
        ⟨"http://workshop/", "i=3"⟩ rebuilt = .ok verdict new ∧ verdict = true := by
  have serves := workshopSpace.serves_transport workshopUris
    (show 0 < workshopClient.config.maxPages.toNat by decide) (by decide) (by decide)
  obtain ⟨count, rebuilt, rebuilds, entries, -, walks⟩ :=
    @rebuild_served Unit workshopClient workshopSpace _ _ _ (.ofEndpoint "opc.tcp://workshop")
      { server := () } serves regular_workshop orderly_workshop rfl trivial
  have isBelow : workshopSpace.IsBelow ⟨1, .number 3⟩ := ⟨_, by decide, subtype_workshop⟩
  obtain ⟨entry, found, node⟩ :=
    (entries "http://workshop/;Press" ⟨"http://workshop/", "i=3"⟩).2
      ⟨⟨1, .number 3⟩, isBelow, by decide, rfl⟩
  obtain ⟨verdict, new, asked, agrees⟩ :=
    walks (by decide) (.standard Standard.baseObjectType) ⟨1, .number 3⟩
      (Standard.node Standard.baseObjectType) ⟨"http://workshop/", "i=3"⟩ (.inl (by decide))
      (by decide) (by decide) (by decide) (NamespaceTable.encode_standard _) rfl
  exact ⟨count, rebuilt, entry, verdict, new, rebuilds, found, node, asked,
    agrees.2 (.inr subtype_workshop)⟩

end Client

end AddressSpace
