import AddressSpace.Browse
import AddressSpace.Proofs.NamespaceTable
import Mathlib.Data.List.Forall2
import Mathlib.Logic.Relation

/-!
# Address spaces

A `Space` is a graph of nodes, and `Space.Serves` says that a server answers every browse request
from one.  A space is `Orderly` if what can be reached in it from the two base types is a proper
hierarchy of types.  The types below the base types are those on the paths from there,
`Orderly.isBelow_iff`.
-/

namespace AddressSpace

structure Link where
  source : WireId
  kind : WireId
  target : WireId
  deriving DecidableEq

def Link.ends (direction : Direction) (node : WireId) (link : Link) : List WireId :=
  (if direction ≠ .backward ∧ link.source = node then [link.target] else []) ++
    (if direction ≠ .forward ∧ link.target = node then [link.source] else [])

structure Space where
  links : List Link
  nodeClass : WireId → NodeClass
  browseName : WireId → WireName
  isKind : (kind general : WireId) → Bool
  hasSubtype_hierarchical : ∀ kind, isKind kind (.standard Standard.hasSubtype) →
    isKind kind (.standard Standard.hierarchicalReferences)

namespace Space

variable (space : Space)

def selects (request : BrowseRequest) (link : Link) : Bool :=
  if request.includeSubtypes then space.isKind link.kind request.referenceType
  else link.kind = request.referenceType

def admits (mask : ClassMask) (node : WireId) : Bool :=
  mask.bits = 0 || mask.contains (space.nodeClass node)

def ends (request : BrowseRequest) : List WireId :=
  ((space.links.filter (space.selects request)).flatMap
    (·.ends request.direction request.node)).filter (space.admits request.classMask)

def superTypes (type : WireId) : List WireId :=
  (space.links.filter fun link =>
    link.target = type && space.isKind link.kind (.standard Standard.hasSubtype)).map (·.source)

def Derives (super type : WireId) : Prop :=
  super ∈ space.superTypes type ∧ (space.nodeClass type).isType

def Subtype : WireId → WireId → Prop := Relation.TransGen space.Derives

def bases : List WireId :=
  [.standard Standard.baseDataVariableType, .standard Standard.baseObjectType]

def IsBelow (type : WireId) : Prop := ∃ base ∈ bases, space.Subtype base type

def IsRooted (type : WireId) : Prop := type ∈ bases ∨ space.IsBelow type

def typeName (table : NamespaceTable) (type : WireId) : Option String :=
  (table.decodeName (space.browseName type)).toOption.map toString

def Contains (node next : WireId) : Prop :=
  ∃ link ∈ space.links, link.source = node ∧ link.target = next ∧
    space.isKind link.kind (.standard Standard.hierarchicalReferences)

inductive Path (start : WireId) : Nat → WireId → Prop
  | here : Path start 0 start
  | step {n : Nat} {node next : WireId} (path : Path start n node)
      (contains : space.Contains node next) : Path start (n + 1) next

variable {space}

theorem Path.trans {start middle last : WireId} {m n : Nat} (first : space.Path start m middle)
    (second : space.Path middle n last) : space.Path start (m + n) last := by
  induction second with
  | here => exact first
  | step _ contains ih => exact ih.step contains

theorem mem_ends (space : Space) {request : BrowseRequest} (forward : request.direction = .forward)
    {next : WireId} : next ∈ space.ends request ↔
      (∃ link ∈ space.links, link.source = request.node ∧ link.target = next ∧
        space.selects request link) ∧ space.admits request.classMask next := by
  unfold ends Link.ends
  rw [forward]
  simp only [List.mem_filter, List.mem_flatMap]
  refine and_congr_left fun _ => ⟨?_, ?_⟩
  · rintro ⟨link, ⟨listed, selected⟩, there⟩
    by_cases source : link.source = request.node
    · simp only [source, reduceCtorEq, ne_eq, not_false_eq_true, true_and, if_true, not_true_eq_false,
        false_and, if_false, List.append_nil, List.mem_singleton] at there
      exact ⟨link, listed, source, there.symm, selected⟩
    · simp [source] at there
  · rintro ⟨link, listed, source, rfl, selected⟩
    exact ⟨link, ⟨listed, selected⟩, by simp [source]⟩

theorem mem_superTypes {super type : WireId} : super ∈ space.superTypes type ↔
    ∃ link ∈ space.links, link.source = super ∧ link.target = type ∧
      space.isKind link.kind (.standard Standard.hasSubtype) := by
  simp only [superTypes, List.mem_map, List.mem_filter, Bool.and_eq_true, decide_eq_true_eq]
  constructor
  · rintro ⟨link, ⟨listed, target, kind⟩, source⟩
    exact ⟨link, listed, source, target, kind⟩
  · rintro ⟨link, listed, source, target, kind⟩
    exact ⟨link, ⟨listed, target, kind⟩, source⟩

theorem Derives.contains {super type : WireId} (derives : space.Derives super type) :
    space.Contains super type := by
  obtain ⟨link, listed, source, target, kind⟩ := mem_superTypes.1 derives.1
  exact ⟨link, listed, source, target, space.hasSubtype_hierarchical _ kind⟩

theorem Subtype.path {super type : WireId} (subtype : space.Subtype super type) :
    ∃ n, space.Path super (n + 1) type := by
  induction subtype with
  | single derives => exact ⟨0, .step .here derives.contains⟩
  | tail _ derives ih =>
      obtain ⟨n, path⟩ := ih
      exact ⟨n + 1, path.step derives.contains⟩

theorem Subtype.isType {super type : WireId} (subtype : space.Subtype super type) :
    (space.nodeClass type).isType := by
  cases subtype with
  | single derives => exact derives.2
  | tail _ derives => exact derives.2

/-- A space in which the base types are the roots of a proper hierarchy of types, down to a depth. -/
structure Orderly (space : Space) (table : NamespaceTable) (maxDepth : Nat) : Prop where
  derived : ∀ base ∈ bases, ∀ n node, space.Path base n node → ∀ link ∈ space.links,
    link.source = node → space.isKind link.kind (.standard Standard.hierarchicalReferences) →
    (space.nodeClass link.target).isType →
      space.isKind link.kind (.standard Standard.hasSubtype) ∧ (space.nodeClass node).isType
  single : ∀ type, space.IsBelow type → ∃ super, space.superTypes type = [super]
  named : ∀ type other, space.IsBelow type → space.IsBelow other →
    space.typeName table type = space.typeName table other → type = other
  shallow : ∀ base ∈ bases, ∀ n node, space.Path base n node → n ≤ maxDepth

namespace Orderly

variable {table : NamespaceTable} {maxDepth : Nat} (orderly : space.Orderly table maxDepth)
include orderly

theorem subtype {base : WireId} (isBase : base ∈ bases) {m n : Nat} {start type : WireId}
    (reached : space.Path base m start) (path : space.Path start (n + 1) type)
    (isType : (space.nodeClass type).isType) : space.Subtype start type := by
  induction n generalizing type with
  | zero =>
      cases path with
      | step before contains =>
          cases before with
          | here =>
              obtain ⟨link, listed, source, rfl, kind⟩ := contains
              have derived := orderly.derived base isBase m _ reached link listed source kind isType
              exact .single ⟨mem_superTypes.2 ⟨link, listed, source, rfl, derived.1⟩, isType⟩
  | succ n ih =>
      cases path with
      | step before contains =>
          obtain ⟨link, listed, source, rfl, kind⟩ := contains
          have derived := orderly.derived base isBase (m + (n + 1)) _ (reached.trans before) link
            listed source kind isType
          exact (ih before derived.2).tail
            ⟨mem_superTypes.2 ⟨link, listed, source, rfl, derived.1⟩, isType⟩

theorem isBelow_iff {type : WireId} : space.IsBelow type ↔
    (space.nodeClass type).isType ∧ ∃ base ∈ bases, ∃ n, space.Path base (n + 1) type := by
  constructor
  · rintro ⟨base, isBase, subtype⟩
    exact ⟨subtype.isType, base, isBase, subtype.path⟩
  · rintro ⟨isType, base, isBase, n, path⟩
    exact ⟨base, isBase, orderly.subtype isBase .here path isType⟩

theorem acyclic {base : WireId} (isBase : base ∈ bases) {m n : Nat} {node : WireId}
    (reached : space.Path base m node) : ¬ space.Path node (n + 1) node := by
  intro cycle
  -- Going around the cycle often enough makes a path that is too long.
  have longer : ∀ rounds, ∃ k, rounds ≤ k ∧ space.Path base k node := by
    intro rounds
    induction rounds with
    | zero => exact ⟨m, Nat.zero_le m, reached⟩
    | succ rounds ih =>
        obtain ⟨k, least, path⟩ := ih
        exact ⟨k + (n + 1), by omega, path.trans cycle⟩
  obtain ⟨k, least, path⟩ := longer (maxDepth + 1)
  have := orderly.shallow base isBase k node path
  omega

end Orderly

end Space

/-- The run of a call delivers some references in at most so many good pages, and leaves a steady
server behind. -/
inductive Transport.Delivers {σ : Type} (transport : Transport σ) (steady : σ → Prop) :
    Nat → EStateM.Result Error σ Page → List Reference → Prop
  | last {pages : Nat} {page : Page} {server : σ} (good : page.status.isBad = false)
      (ends : page.next = none) (kept : steady server) :
      Delivers transport steady (pages + 1) (.ok page server) page.references
  | more {pages : Nat} {page : Page} {server : σ} {point : ContinuationPoint}
      {behind : List Reference} (good : page.status.isBad = false) (goesOn : page.next = some point)
      (rest : Delivers transport steady pages (transport.browseNext point server) behind) :
      Delivers transport steady (pages + 1) (.ok page server) (page.references ++ behind)

structure Reference.Legible (table : NamespaceTable) (reference : Reference) : Prop where
  proper : reference.node.isNull = false
  node : reference.node.index ∈ table.uris
  browseName : reference.browseName.index ∈ table.uris
  typeDefinition : reference.typeDefinition.index ∈ table.uris
  referenceType : reference.referenceType.index ∈ table.uris
  nodeClass : (NodeClass.ofValue? reference.nodeClass).isSome

namespace Space

/-- A reference to a node that tells of it what a request asks for. -/
structure Tells (space : Space) (mask : ResultMask) (node : WireId) (reference : Reference) :
    Prop where
  about : reference.node = node
  nodeClass : mask.contains .nodeClass → reference.nodeClass = (space.nodeClass node).value
  browseName : mask.contains .browseName → reference.browseName = space.browseName node

/-- A server that answers from a space while it stays `steady`: every browse request with the same
references in at most `maxPages` pages. -/
structure Serves {σ : Type} (space : Space) (table : NamespaceTable) (transport : Transport σ)
    (maxPages : Nat) (steady : σ → Prop) (answers : BrowseRequest → List Reference) : Prop where
  fetches : ∀ server, steady server →
    ∃ new, steady new ∧ NamespaceTable.fetch transport server = .ok table new
  browses : ∀ request server, steady server →
    transport.Delivers steady maxPages (transport.browse request server) (answers request)
  tells : ∀ request, ∃ ends, ends.Perm (space.ends request) ∧
    List.Forall₂ (space.Tells request.resultMask) ends (answers request)
  legible : ∀ request, ∀ reference ∈ answers request, reference.Legible table
  home : (0 : UInt16) ∈ table.uris

end Space

end AddressSpace
