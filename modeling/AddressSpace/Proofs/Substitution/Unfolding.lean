import AddressSpace.Proofs.Substitution
import Mathlib.Data.List.Forall2

/-!
# What substitution does on each way down

An `Unfolding` is a finite account of what becomes of a declaration: its type is not staged and its
own children unfold, or it gets the children of its type and these unfold, or it stays as it is.
`substitute_unfolds` says that substitution always comes to such an account, and which of the three
happens: a staged type is expanded unless it is that of the root or has been expanded on the way down.
-/

namespace AddressSpace
open Descriptor

/-! ## Unfoldings -/

inductive Unfolding
  | plain (declaration : Declaration) (children : List Unfolding)
  | kept (type : String) (before : Descriptor)
  | expanded (type : String) (before target : Descriptor) (children : List Unfolding)

namespace Unfolding

mutual

def source : Unfolding → Descriptor
  | plain declaration children => ⟨declaration, sources children⟩
  | kept _ before => before
  | expanded _ before _ _ => before

def sources : List Unfolding → List Descriptor
  | [] => []
  | u :: rest => u.source :: sources rest

end

mutual

def result : Unfolding → Descriptor
  | plain declaration children => ⟨declaration, results children⟩
  | kept _ before => before
  | expanded _ before target children =>
    ⟨{ before.declaration with
        ofBaseDataVariableType := target.declaration.ofBaseDataVariableType }, results children⟩

def results : List Unfolding → List Descriptor
  | [] => []
  | u :: rest => u.result :: results rest

end

mutual

/-- An unfolding says truly which type definitions resolve to a staged type, and what stands below
an expanded declaration comes from the children of its type. -/
def Accounts (resolve? : NodeId → Option (String × Descriptor)) : Unfolding → Prop
  | plain declaration children =>
    resolve? declaration.typeDefinition = none ∧ AllAccount resolve? children
  | kept type before => ∃ target, resolve? before.declaration.typeDefinition = some (type, target)
  | expanded type before target children =>
    resolve? before.declaration.typeDefinition = some (type, target) ∧
      sources children = target.children ∧ AllAccount resolve? children

def AllAccount (resolve? : NodeId → Option (String × Descriptor)) : List Unfolding → Prop
  | [] => True
  | u :: rest => u.Accounts resolve? ∧ AllAccount resolve? rest

end

inductive Below : List Unfolding → List String → Unfolding → Prop
  | top {us : List Unfolding} {u : Unfolding} (listed : u ∈ us) : Below us [] u
  | plain {us children : List Unfolding} {declaration : Declaration} {above : List String}
      {u : Unfolding} (listed : plain declaration children ∈ us) (below : Below children above u) :
      Below us above u
  | expanded {us children : List Unfolding} {type : String} {before target : Descriptor}
      {above : List String} {u : Unfolding} (listed : expanded type before target children ∈ us)
      (below : Below children above u) : Below us (type :: above) u

variable {us rest children : List Unfolding} {u v : Unfolding} {above free : List String}
  {type : String} {before target node : Descriptor} {declaration : Declaration}
  {resolve? : NodeId → Option (String × Descriptor)}

theorem declaration_result (u : Unfolding) : ∃ mark, u.result.declaration =
    { u.source.declaration with ofBaseDataVariableType := mark } := by
  cases u with
  | plain declaration children =>
      rw [result, source]
      exact ⟨declaration.ofBaseDataVariableType, rfl⟩
  | kept type before =>
      rw [result, source]
      exact ⟨before.declaration.ofBaseDataVariableType, rfl⟩
  | expanded type before target children =>
      rw [result, source]
      exact ⟨target.declaration.ofBaseDataVariableType, rfl⟩

theorem forall₂_declaration (us : List Unfolding) :
    List.Forall₂ (fun child child' => ∃ mark, child'.declaration =
      { child.declaration with ofBaseDataVariableType := mark }) (sources us) (results us) := by
  induction us with
  | nil => exact .nil
  | cons u rest ih => exact .cons u.declaration_result ih

/-! ## Ways down -/

theorem not_below_nil : ¬ Below [] above u := by
  rintro (listed | ⟨listed, -⟩ | ⟨listed, -⟩) <;> exact List.not_mem_nil listed

theorem below_cons : Below (u :: rest) above v ↔ Below [u] above v ∨ Below rest above v := by
  constructor
  · intro below
    cases below with
    | top listed =>
        rcases List.mem_cons.1 listed with rfl | listed
        · exact .inl (.top (List.mem_singleton_self _))
        · exact .inr (.top listed)
    | plain listed below =>
        rcases List.mem_cons.1 listed with rfl | listed
        · exact .inl (.plain (List.mem_singleton_self _) below)
        · exact .inr (.plain listed below)
    | expanded listed below =>
        rcases List.mem_cons.1 listed with rfl | listed
        · exact .inl (.expanded (List.mem_singleton_self _) below)
        · exact .inr (.expanded listed below)
  · have weaken : ∀ {part : List Unfolding}, part ⊆ u :: rest → Below part above v →
        Below (u :: rest) above v := by
      intro part inside below
      cases below with
      | top listed => exact .top (inside listed)
      | plain listed below => exact .plain (inside listed) below
      | expanded listed below => exact .expanded (inside listed) below
    rintro (below | below)
    · exact weaken (List.cons_subset.2 ⟨List.mem_cons_self .., List.nil_subset _⟩) below
    · exact weaken (List.subset_cons_self ..) below

theorem below_plain : Below [.plain declaration children] above v ↔
    above = [] ∧ v = .plain declaration children ∨ Below children above v := by
  constructor
  · intro below
    cases below with
    | top listed => exact .inl ⟨rfl, List.mem_singleton.1 listed⟩
    | plain listed below =>
        cases List.mem_singleton.1 listed
        exact .inr below
    | expanded listed below => cases List.mem_singleton.1 listed
  · rintro (⟨rfl, rfl⟩ | below)
    · exact .top (List.mem_singleton_self _)
    · exact .plain (List.mem_singleton_self _) below

theorem below_kept : Below [.kept type before] above v ↔
    above = [] ∧ v = .kept type before := by
  constructor
  · intro below
    cases below with
    | top listed => exact ⟨rfl, List.mem_singleton.1 listed⟩
    | plain listed below => cases List.mem_singleton.1 listed
    | expanded listed below => cases List.mem_singleton.1 listed
  · rintro ⟨rfl, rfl⟩
    exact .top (List.mem_singleton_self _)

theorem below_expanded : Below [.expanded type before target children] above v ↔
    above = [] ∧ v = .expanded type before target children ∨
      ∃ further, above = type :: further ∧ Below children further v := by
  constructor
  · intro below
    cases below with
    | top listed => exact .inl ⟨rfl, List.mem_singleton.1 listed⟩
    | plain listed below => cases List.mem_singleton.1 listed
    | expanded listed below =>
        cases List.mem_singleton.1 listed
        exact .inr ⟨_, rfl, below⟩
  · rintro (⟨rfl, rfl⟩ | ⟨further, rfl, below⟩)
    · exact .top (List.mem_singleton_self _)
    · exact .expanded (List.mem_singleton_self _) below

theorem AllAccount.of_mem (accounts : AllAccount resolve? us) (listed : u ∈ us) :
    u.Accounts resolve? := by
  induction us with
  | nil => exact absurd listed List.not_mem_nil
  | cons first rest ih =>
      rcases List.mem_cons.1 listed with rfl | listed
      · exact accounts.1
      · exact ih accounts.2 listed

theorem AllAccount.of_below (accounts : AllAccount resolve? us) (below : Below us above u) :
    u.Accounts resolve? := by
  induction below with
  | top listed => exact accounts.of_mem listed
  | plain listed _ ih => exact ih (accounts.of_mem listed).2
  | expanded listed _ ih => exact ih (accounts.of_mem listed).2.2

/-! ## The nodes of a result -/

theorem mem_results : node ∈ results us ↔ ∃ u ∈ us, u.result = node := by
  induction us with
  | nil => simp [results]
  | cons u rest ih => simp [results, ih, eq_comm]

theorem exists_below_of_among (among : Among (results us) node) :
    (∃ above u, Below us above u ∧ u.result = node) ∨
      ∃ above type before, Below us above (.kept type before) ∧ Among before.children node := by
  generalize same : results us = forest at among
  induction among generalizing us with
  | top listed =>
      obtain ⟨u, member, rfl⟩ := mem_results.1 (same ▸ listed)
      exact .inl ⟨[], u, .top member, rfl⟩
  | @deep forest d node listed among ih =>
      obtain ⟨u, member, rfl⟩ := mem_results.1 (same ▸ listed)
      cases u with
      | plain declaration children =>
          rcases @ih children (by rw [result]) with ⟨above, u, below, rfl⟩ |
            ⟨above, type, before, below, inside⟩
          · exact .inl ⟨above, u, .plain member below, rfl⟩
          · exact .inr ⟨above, type, before, .plain member below, inside⟩
      | kept type before =>
          rw [result] at among
          exact .inr ⟨[], type, before, .top member, among⟩
      | expanded type before target children =>
          rcases @ih children (by rw [result]) with ⟨above, u, below, rfl⟩ |
            ⟨above, type', before', below, inside⟩
          · exact .inl ⟨type :: above, u, .expanded member below, rfl⟩
          · exact .inr ⟨type :: above, type', before', .expanded member below, inside⟩

/-! ## Order -/

/-- Below some expanded types, a free type is expanded just where it is new, and other types are
not. -/
def Orderly (free above : List String) : Unfolding → Prop
  | plain _ _ => True
  | kept type _ => type ∈ free → type ∈ above
  | expanded type _ _ _ => type ∈ free ∧ type ∉ above

def AllOrderly (free : List String) (us : List Unfolding) : Prop :=
  ∀ above u, Below us above u → above.Nodup ∧ above ⊆ free ∧ u.Orderly free above

namespace AllOrderly

theorem nil : AllOrderly free [] := fun _ _ below => absurd below not_below_nil

theorem cons (first : AllOrderly free [u]) (others : AllOrderly free rest) :
    AllOrderly free (u :: rest) := by
  intro above v below
  rcases below_cons.1 below with below | below
  · exact first above v below
  · exact others above v below

theorem plain (inner : AllOrderly free children) (declaration : Declaration) :
    AllOrderly free [.plain declaration children] := by
  intro above v below
  rcases below_plain.1 below with ⟨rfl, rfl⟩ | deeper
  · exact ⟨List.nodup_nil, List.nil_subset _, trivial⟩
  · exact inner above v deeper

theorem kept (bound : type ∉ free) (before : Descriptor) :
    AllOrderly free [.kept type before] := by
  intro above v below
  obtain ⟨rfl, rfl⟩ := below_kept.1 below
  exact ⟨List.nodup_nil, List.nil_subset _, fun isFree => absurd isFree bound⟩

theorem expanded (inner : AllOrderly (free.erase type) children) (distinct : free.Nodup)
    (isFree : type ∈ free) (before target : Descriptor) :
    AllOrderly free [.expanded type before target children] := by
  have gone : type ∉ free.erase type := distinct.not_mem_erase
  intro above v below
  rcases below_expanded.1 below with ⟨rfl, rfl⟩ | ⟨further, rfl, deeper⟩
  · exact ⟨List.nodup_nil, List.nil_subset _, isFree, List.not_mem_nil⟩
  · obtain ⟨once, inside, orderly⟩ := inner further v deeper
    refine ⟨List.nodup_cons.2 ⟨fun again => gone (inside again), once⟩,
      List.cons_subset.2 ⟨isFree, List.Subset.trans inside List.erase_subset⟩, ?_⟩
    cases v with
    | plain declaration children => trivial
    | kept other before =>
        intro otherFree
        by_cases same : other = type
        · exact List.mem_cons.2 (.inl same)
        · exact List.mem_cons_of_mem _ (orderly ((List.mem_erase_of_ne same).2 otherFree))
    | expanded other before target children =>
        obtain ⟨otherFree, new⟩ := orderly
        have different : other ≠ type := by
          rintro rfl
          exact gone otherFree
        exact ⟨List.mem_of_mem_erase otherFree, List.not_mem_cons_of_ne_of_not_mem different new⟩

end AllOrderly

end Unfolding

open Unfolding Expansion

/-! ## What an expansion comes to -/

theorem Expansion.exists_unfolding (expansion : Expansion) {free : List String}
    (distinct : free.Nodup) (forest : List Descriptor) :
    ∃ us, sources us = forest ∧ AllAccount expansion.target? us ∧
      results us = expansion.expandAll free forest ∧ AllOrderly free us := by
  -- The recursion of `expandAll`: into the type of a declaration, into its own children, and on.
  induction free, forest using Expansion.expandAll.induct expansion with
  | case1 free => exact ⟨[], rfl, trivial, by rw [expandAll]; rfl, .nil⟩
  | case2 free declaration children rest ihType ihChildren ihRest =>
      obtain ⟨others, before, accounts, after, orderly⟩ := ihRest distinct
      cases found : expansion.target? declaration.typeDefinition with
      | none =>
          obtain ⟨inner, before', accounts', after', orderly'⟩ := ihChildren distinct
          refine ⟨.plain declaration inner :: others, ?_, ⟨⟨found, accounts'⟩, accounts⟩, ?_,
            (orderly'.plain declaration).cons orderly⟩
          · rw [sources, source, before', before]
          · rw [expandAll_cons_none found, results, result, after', after]
      | some staged =>
          obtain ⟨type, target⟩ := staged
          by_cases isFree : type ∈ free
          · obtain ⟨inner, before', accounts', after', orderly'⟩ :=
              ihType type target isFree (distinct.erase type)
            refine ⟨.expanded type ⟨declaration, children⟩ target inner :: others, ?_,
              ⟨⟨found, before', accounts'⟩, accounts⟩, ?_,
              (orderly'.expanded distinct isFree _ target).cons orderly⟩
            · rw [sources, source, before]
            · rw [expandAll_cons_some found isFree, results, result, after', after]
          · refine ⟨.kept type ⟨declaration, children⟩ :: others, ?_,
              ⟨⟨target, found⟩, accounts⟩, ?_, (AllOrderly.kept isFree _).cons orderly⟩
            · rw [sources, source, before]
            · rw [expandAll_cons_bound found isFree, results, result, after]

/-- The staged type that an id is registered for, under the last of the names that the registry has
for it. -/
def TypeMap.resolve? (staged : TypeMap) (registry : Std.TreeMap String NodeId) (id : NodeId) :
    Option (String × Descriptor) := do
  let (name, _) ← registry.toList.findRev? (·.2 = id)
  let entry ← staged.get? name
  some (name, entry)

theorem Expansion.target?_eq_resolve? (staged : TypeMap) (registry : Std.TreeMap String NodeId) :
    target? ⟨namesById registry, staged⟩ = staged.resolve? registry := by
  funext id
  rw [target?, namesById_getElem?, TypeMap.resolve?]
  cases registry.toList.findRev? (·.2 = id) <;> rfl

theorem TypeMap.mem_names_of_resolve? {staged : TypeMap} {registry : Std.TreeMap String NodeId}
    {id : NodeId} {type : String} {target : Descriptor}
    (found : staged.resolve? registry id = some (type, target)) : type ∈ staged.names := by
  simp only [resolve?, Option.bind_eq_bind, Option.bind_eq_some_iff, Option.some.injEq,
    Prod.mk.injEq] at found
  obtain ⟨_, _, _, present, rfl, rfl⟩ := found
  exact mem_names.2 (Option.isSome_iff_exists.2 ⟨_, present⟩)

/-- Substitution keeps the names.  Each type comes to an unfolding of its children, in which only the
children and the mark of the base data variable type of a declaration change.  On a way down from the
type no staged type is expanded twice, the type itself included, and a declaration with a staged type
stays as it is, with all that is below it, just where that type is the one at the top or has been
expanded above. -/
theorem substitute_unfolds (staged : TypeMap) (registry : Std.TreeMap String NodeId) :
    (staged.substitute registry).names = staged.names ∧
    ∀ name entry, staged.get? name = some entry → ∃ us,
      sources us = entry.children ∧ AllAccount (staged.resolve? registry) us ∧
      (staged.substitute registry).get? name = some ⟨entry.declaration, results us⟩ ∧
      List.Forall₂ (fun child child' => ∃ mark, child'.declaration =
        { child.declaration with ofBaseDataVariableType := mark }) entry.children (results us) ∧
      (∀ node, Among (results us) node → (∃ above u, Below us above u ∧ u.result = node) ∨
        ∃ above type before, Below us above (.kept type before) ∧ Among before.children node) ∧
      ∀ above u, Below us above u →
        (name :: above).Nodup ∧ name :: above ⊆ staged.names ∧
        (∀ type before, u = .kept type before → type ∈ name :: above) ∧
        ∀ type before target children, u = .expanded type before target children →
          type ∉ name :: above := by
  have distinct : staged.names.Nodup := Std.TreeMap.nodup_keys
  refine ⟨Std.TreeMap.keys_map, fun name entry present => ?_⟩
  obtain ⟨us, before, accounts, after, orderly⟩ :=
    exists_unfolding ⟨namesById registry, staged⟩ (distinct.erase name) entry.children
  rw [target?_eq_resolve?] at accounts
  have here : name ∈ staged.names := TypeMap.mem_names.2 (by rw [present]; rfl)
  have gone : name ∉ staged.names.erase name := distinct.not_mem_erase
  refine ⟨us, before, accounts, ?_, before ▸ forall₂_declaration us,
    fun node among => exists_below_of_among among, fun above u below => ?_⟩
  · rw [TypeMap.get?_substitute, present, Option.map_some, expandEntry, after]
  · obtain ⟨once, inside, order⟩ := orderly above u below
    refine ⟨List.nodup_cons.2 ⟨fun again => gone (inside again), once⟩,
      List.cons_subset.2 ⟨here, List.Subset.trans inside List.erase_subset⟩, ?_, ?_⟩
    · rintro type before rfl
      obtain ⟨target, found⟩ := accounts.of_below below
      by_cases same : type = name
      · exact List.mem_cons.2 (.inl same)
      · exact List.mem_cons_of_mem _
          (order ((List.mem_erase_of_ne same).2 (TypeMap.mem_names_of_resolve? found)))
    · rintro type before target children rfl
      obtain ⟨isFree, new⟩ := order
      refine List.not_mem_cons_of_ne_of_not_mem ?_ new
      rintro rfl
      exact gone isFree

/-! ### A belt with a drive that has a belt -/

def beltRegistry : Std.TreeMap String NodeId :=
  (Std.TreeMap.empty.insert ";Belt" ⟨"", "i=1"⟩).insert ";Drive" ⟨"", "i=2"⟩

def beltStaged : TypeMap :=
  ((TypeMap.empty.insert ";Belt" ⟨{}, [⟨{ typeDefinition := ⟨"", "i=2"⟩ }, []⟩]⟩).2.insert
    ";Drive" ⟨{}, [⟨{ typeDefinition := ⟨"", "i=1"⟩ }, [⟨{ node := ⟨"", "i=3"⟩ }, []⟩]⟩]⟩).2

theorem substitute_unfolds_belt :
    beltStaged.get? ";Belt" = some ⟨{}, [⟨{ typeDefinition := ⟨"", "i=2"⟩ }, []⟩]⟩ ∧
    ∃ us, sources us = [⟨{ typeDefinition := ⟨"", "i=2"⟩ }, []⟩] ∧
      AllAccount (beltStaged.resolve? beltRegistry) us ∧
      (beltStaged.substitute beltRegistry).get? ";Belt" = some ⟨{}, results us⟩ ∧
      ∀ above type before, Below us above (.kept type before) → type ∈ ";Belt" :: above := by
  have present : beltStaged.get? ";Belt" =
      some ⟨{}, [⟨{ typeDefinition := ⟨"", "i=2"⟩ }, []⟩]⟩ := by
    have absent : TypeMap.empty.get? ";Belt" = none := Std.TreeMap.getElem?_emptyc
    simp [beltStaged, TypeMap.get?_insert, absent]
  obtain ⟨us, before, accounts, found, -, -, order⟩ :=
    (substitute_unfolds beltStaged beltRegistry).2 _ _ present
  exact ⟨present, us, before, accounts, found, fun above type before below =>
    (order above _ below).2.2.1 type before rfl⟩

end AddressSpace
