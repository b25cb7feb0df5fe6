import AddressSpace.Proofs.Space.Tree
import AddressSpace.Proofs.TypeLibrary

namespace AddressSpace
open Descriptor

namespace Browser

variable {σ : Type} (browser : Browser σ) (answers : BrowseRequest → List Reference) (maxDepth : Nat)

def rootId (base : WireId) : NodeId := (browser.namespaces.decode base).toOption.getD .null

def typeTree (base : WireId) (ofVariableType : Bool) : Descriptor :=
  (browser.chart answers).rootTree ofVariableType maxDepth (browser.rootId base)

def typeArena : Arena :=
  (Arena.empty.plantRoot
    (browser.typeTree answers maxDepth (.standard Standard.baseDataVariableType) true)).plantRoot
    (browser.typeTree answers maxDepth (.standard Standard.baseObjectType) false)

def typeDeclarations : List Declaration :=
  forestDeclared
      (browser.typeTree answers maxDepth (.standard Standard.baseDataVariableType) true).children ++
    forestDeclared
      (browser.typeTree answers maxDepth (.standard Standard.baseObjectType) false).children

def typeLibrary : TypeLibrary :=
  .ofArena (browser.typeArena answers maxDepth) (browser.typeArena answers maxDepth).typeNamespaces

theorem linked_typeArena : (browser.typeArena answers maxDepth).Linked :=
  (Arena.linked_empty.plantRoot _).plantRoot _

theorem registers_typeArena : (browser.typeArena answers maxDepth).Registers
    (browser.typeDeclarations answers maxDepth) :=
  (Arena.registers_empty.plantRoot _).plantRoot _

theorem declared_typeLibrary (name : String) :
    ((browser.typeLibrary answers maxDepth).types.get? name).map (·.declaration) =
      (browser.typeDeclarations answers maxDepth).find? fun declaration =>
        declaration.nodeClass.isType && Arena.typeName declaration == name := by
  have entries := TypeLibrary.declared_ofArena (browser.linked_typeArena answers maxDepth) name
  exact entries.trans ((browser.registers_typeArena answers maxDepth).first name)

end Browser

namespace Space

def Declares (space : Space) (table : NamespaceTable) (wire : WireId) (declaration : Declaration) :
    Prop :=
  ∃ found rule ofVariableType, space.Shows table .all wire found ∧
    declaration = found.declaration rule ofVariableType

theorem Declares.isTypeNamed {space : Space} {table : NamespaceTable} {wire : WireId}
    {declaration : Declaration} (declares : space.Declares table wire declaration) (name : String) :
    (declaration.nodeClass.isType && Arena.typeName declaration == name) = true ↔
      (space.nodeClass wire).isType ∧ space.typeName table wire = some name := by
  obtain ⟨found, rule, ofVariableType, shows, rfl⟩ := declares
  have named : space.typeName table wire = some (toString found.browseName) := by
    rw [typeName, shows.browseName (by decide)]
    rfl
  rw [named, ← shows.nodeClass (by decide), Bool.and_eq_true, beq_iff_eq, Option.some.injEq]
  rfl

theorem Declares.node {space : Space} {table : NamespaceTable} {wire : WireId}
    {declaration : Declaration} (declares : space.Declares table wire declaration) :
    table.decode wire = .ok declaration.node := by
  obtain ⟨found, rule, ofVariableType, shows, rfl⟩ := declares
  exact shows.node

theorem Declares.proper {space : Space} {table : NamespaceTable} {wire : WireId}
    {declaration : Declaration} (declares : space.Declares table wire declaration) :
    wire.isNull = false := by
  obtain ⟨found, rule, ofVariableType, shows, rfl⟩ := declares
  exact shows.proper

theorem proper_of_mem_bases : ∀ base ∈ bases, base.isNull = false := by decide

namespace Serves

variable {σ : Type} {steady : σ → Prop} {space : Space} {browser : Browser σ}
  {answers : BrowseRequest → List Reference} {uris : List String} {maxDepth : Nat}
  (serves : space.Serves browser.namespaces browser.transport browser.maxPages steady answers)
  (lists : browser.namespaces.Lists uris) (regular : browser.namespaces.Regular)
  (orderly : space.Orderly browser.namespaces maxDepth)

include serves in
theorem decode_base {base : WireId} (isBase : base ∈ bases) :
    browser.namespaces.decode base = .ok (browser.rootId base) := by
  have known : ∀ base ∈ bases, base.index = 0 := by decide
  obtain ⟨id, decoded⟩ : ∃ id, browser.namespaces.decode base = .ok id := by
    refine NamespaceTable.decode_known ?_
    rw [known base isBase]
    exact serves.home
  rw [Browser.rootId, decoded]
  rfl

include serves lists regular orderly

theorem discover (base : UInt32) (isBase : .standard base ∈ bases) (ofVariableType : Bool)
    (arena : Arena) {server : σ} (kept : steady server) : ∃ new, steady new ∧
      browser.discover maxDepth (Standard.node base) ofVariableType ⟨arena, server⟩ =
        .ok () ⟨arena.plantRoot
          (browser.typeTree answers maxDepth (.standard base) ofVariableType), new⟩ := by
  have decoded := serves.decode_base isBase
  have canonical : browser.namespaces.canonical (Standard.node base) =
      .ok (browser.rootId (.standard base)) := by
    rw [NamespaceTable.canonical, NamespaceTable.encode_standard]
    exact decoded
  have encoded := NamespaceTable.encode_decode lists regular (proper_of_mem_bases _ isBase) decoded
  obtain ⟨found, answered, contained, -⟩ := serves.found encoded
  have shallow : maxDepth = 0 → found = [] := by
    intro zero
    refine List.eq_nil_iff_forall_not_mem.2 fun neighbour listed => ?_
    obtain ⟨next, contains, -⟩ := contained neighbour listed
    have := orderly.shallow _ isBase 1 next (.step .here contains)
    omega
  have ends := serves.charted.discover ofVariableType maxDepth arena canonical answered shallow kept
  generalize browser.discover maxDepth (Standard.node base) ofVariableType ⟨arena, server⟩ = result
    at ends
  cases ends with
  | ok kept' => exact ⟨_, kept', rfl⟩
  | lost lost => exact absurd lost (browser.not_loses_chart answers _)

theorem crawlTypes {server : σ} (kept : steady server) : ∃ new, steady new ∧
    browser.crawlTypes maxDepth server = .ok (browser.typeArena answers maxDepth) new := by
  obtain ⟨between, kept', first⟩ :=
    serves.discover lists regular orderly Standard.baseDataVariableType (by decide) true .empty kept
  obtain ⟨new, kept'', second⟩ :=
    serves.discover lists regular orderly Standard.baseObjectType (by decide) false _ kept'
  refine ⟨new, kept'', ?_⟩
  unfold Browser.crawlTypes Crawling.fromEmpty
  rw [Exchange.bind_ok first, second]
  rfl

omit orderly in
theorem declares_of_mem {declaration : Declaration}
    (listed : declaration ∈ browser.typeDeclarations answers maxDepth) :
    ∃ wire, space.Declares browser.namespaces wire declaration ∧
      ∃ base ∈ bases, ∃ n, space.Path base (n + 1) wire := by
  have below : ∀ base ∈ bases, ∀ ofVariableType, declaration ∈
      forestDeclared (browser.typeTree answers maxDepth base ofVariableType).children →
      ∃ wire, space.Declares browser.namespaces wire declaration ∧
        ∃ base ∈ bases, ∃ n, space.Path base (n + 1) wire := by
    intro base isBase ofVariableType declared
    obtain ⟨n, wire, neighbour, path, shows, rfl⟩ :=
      serves.shows_of_declared lists regular ofVariableType maxDepth (proper_of_mem_bases _ isBase)
        (serves.decode_base isBase) (.here) declared
    exact ⟨wire, ⟨neighbour, _, _, shows, rfl⟩, base, isBase, n, path⟩
  rcases List.mem_append.1 listed with first | second
  · exact below _ (by decide) true first
  · exact below _ (by decide) false second

theorem declared_of_isBelow {type : WireId} (isBelow : space.IsBelow type) :
    ∃ declaration ∈ browser.typeDeclarations answers maxDepth,
      space.Declares browser.namespaces type declaration := by
  have inside : ∀ base ∈ bases, space.Subtype base type → ∀ ofVariableType,
      ∃ declaration ∈
          forestDeclared (browser.typeTree answers maxDepth base ofVariableType).children,
        space.Declares browser.namespaces type declaration := by
    intro base isBase subtype ofVariableType
    obtain ⟨neighbour, shows, declared⟩ :=
      serves.declared_of_subtype lists regular ofVariableType maxDepth orderly isBase subtype
        (proper_of_mem_bases _ isBase) (serves.decode_base isBase) .here
        fun other higher => absurd higher List.not_mem_nil
    exact ⟨_, declared, neighbour, _, _, shows, rfl⟩
  obtain ⟨base, isBase, subtype⟩ := isBelow
  have either : base = .standard Standard.baseDataVariableType ∨
      base = .standard Standard.baseObjectType := by simpa [bases] using isBase
  rcases either with rfl | rfl
  · obtain ⟨declaration, declared, declares⟩ := inside _ isBase subtype true
    exact ⟨declaration, List.mem_append_left _ declared, declares⟩
  · obtain ⟨declaration, declared, declares⟩ := inside _ isBase subtype false
    exact ⟨declaration, List.mem_append_right _ declared, declares⟩

theorem exists_of_get? {name : String} {entry : Descriptor}
    (found : (browser.typeLibrary answers maxDepth).types.get? name = some entry) :
    ∃ type, space.IsBelow type ∧ space.typeName browser.namespaces type = some name ∧
      space.Declares browser.namespaces type entry.declaration := by
  have entries := browser.declared_typeLibrary answers maxDepth name
  rw [found, Option.map_some] at entries
  have named := List.find?_some entries.symm
  obtain ⟨type, declares, base, isBase, n, path⟩ :=
    serves.declares_of_mem lists regular (List.mem_of_find?_eq_some entries.symm)
  obtain ⟨isType, named'⟩ := (declares.isTypeNamed name).1 named
  exact ⟨type, orderly.isBelow_iff.2 ⟨isType, base, isBase, n, path⟩, named', declares⟩

theorem get?_of_isBelow {type : WireId} (isBelow : space.IsBelow type) {name : String}
    (named : space.typeName browser.namespaces type = some name) :
    ∃ entry, (browser.typeLibrary answers maxDepth).types.get? name = some entry ∧
      space.Declares browser.namespaces type entry.declaration := by
  have entries := browser.declared_typeLibrary answers maxDepth name
  obtain ⟨declaration, listed, declares⟩ := serves.declared_of_isBelow lists regular orderly isBelow
  have present : ((browser.typeDeclarations answers maxDepth).find? fun declaration =>
      declaration.nodeClass.isType && Arena.typeName declaration == name).isSome :=
    List.find?_isSome.2
      ⟨declaration, listed, (declares.isTypeNamed name).2 ⟨orderly.isBelow_iff.1 isBelow |>.1, named⟩⟩
  rw [← entries, Option.isSome_map] at present
  obtain ⟨entry, found⟩ := Option.isSome_iff_exists.1 present
  obtain ⟨other, isBelow', named', declares'⟩ :=
    serves.exists_of_get? lists regular orderly found
  obtain rfl := orderly.named other type isBelow' isBelow (named'.trans named.symm)
  exact ⟨entry, found, declares'⟩

theorem get?_iff (name : String) (id : NodeId) :
    (∃ entry, (browser.typeLibrary answers maxDepth).types.get? name = some entry ∧
        entry.declaration.node = id) ↔
      ∃ type, space.IsBelow type ∧ space.typeName browser.namespaces type = some name ∧
        browser.namespaces.decode type = .ok id := by
  constructor
  · rintro ⟨entry, found, rfl⟩
    obtain ⟨type, isBelow, named, declares⟩ := serves.exists_of_get? lists regular orderly found
    exact ⟨type, isBelow, named, declares.node⟩
  · rintro ⟨type, isBelow, named, decoded⟩
    obtain ⟨entry, found, declares⟩ := serves.get?_of_isBelow lists regular orderly isBelow named
    exact ⟨entry, found, Except.ok.inj (declares.node.symm.trans decoded)⟩

theorem existsUnique_get? {type : WireId} (isBelow : space.IsBelow type) :
    ∃! name, ∃ entry, (browser.typeLibrary answers maxDepth).types.get? name = some entry ∧
      browser.namespaces.decode type = .ok entry.declaration.node := by
  obtain ⟨declaration, -, found, -, -, shows, -⟩ :=
    serves.declared_of_isBelow lists regular orderly isBelow
  have named : space.typeName browser.namespaces type = some (toString found.browseName) := by
    rw [Space.typeName, shows.browseName (by decide)]
    rfl
  obtain ⟨entry, there, declares⟩ := serves.get?_of_isBelow lists regular orderly isBelow named
  refine ⟨_, ⟨entry, there, declares.node⟩, ?_⟩
  rintro other ⟨entry', there', decoded⟩
  obtain ⟨type', -, named', declares'⟩ := serves.exists_of_get? lists regular orderly there'
  -- An entry for the node under another name would be that of another type with the same node.
  obtain rfl := NamespaceTable.decode_inj lists regular declares.proper declares'.proper decoded
    declares'.node
  exact Option.some.inj (named'.symm.trans named)

theorem decode_rooted {type : WireId} (rooted : space.IsRooted type) :
    type.isNull = false ∧ ∃ id, browser.namespaces.decode type = .ok id := by
  rcases rooted with isBase | isBelow
  · exact ⟨proper_of_mem_bases type isBase, _, serves.decode_base isBase⟩
  · obtain ⟨declaration, -, declares⟩ := serves.declared_of_isBelow lists regular orderly isBelow
    exact ⟨declares.proper, _, declares.node⟩

end Serves

end Space

end AddressSpace
