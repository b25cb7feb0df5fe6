import AddressSpace.Proofs.TypeLibrary
import Mathlib.Logic.Relation

namespace AddressSpace
open Relation

inductive Descriptor.Among : List Descriptor → Descriptor → Prop
  | top {forest : List Descriptor} {d : Descriptor} (listed : d ∈ forest) : Among forest d
  | deep {forest : List Descriptor} {d node : Descriptor} (listed : d ∈ forest)
      (among : Among d.children node) : Among forest node

open Descriptor

theorem Descriptor.not_among_nil {node : Descriptor} : ¬ Among [] node := by
  rintro (listed | ⟨listed, -⟩) <;> exact List.not_mem_nil listed

theorem Descriptor.among_cons {d node : Descriptor} {rest : List Descriptor} :
    Among (d :: rest) node ↔ node = d ∨ Among d.children node ∨ Among rest node := by
  constructor
  · intro among
    cases among with
    | top listed =>
        rcases List.mem_cons.1 listed with same | listed
        · exact .inl same
        · exact .inr (.inr (.top listed))
    | deep listed among =>
        rcases List.mem_cons.1 listed with rfl | listed
        · exact .inr (.inl among)
        · exact .inr (.inr (.deep listed among))
  · rintro (rfl | among | among)
    · exact .top (List.mem_cons_self ..)
    · exact .deep (List.mem_cons_self ..) among
    · cases among with
      | top listed => exact .top (List.mem_cons_of_mem _ listed)
      | deep listed among => exact .deep (List.mem_cons_of_mem _ listed) among

namespace TypeMap

def Defines (staged : TypeMap) (registry : Std.TreeMap String NodeId) (type : String)
    (node : Descriptor) : Prop :=
  registry[type]? = some node.declaration.typeDefinition ∧ (staged.get? type).isSome

/-- A declaration below a staged type has another one as its type. -/
def Uses (staged : TypeMap) (registry : Std.TreeMap String NodeId) (name other : String) : Prop :=
  ∃ entry node, staged.get? name = some entry ∧ Among entry.children node ∧
    staged.Defines registry other node

theorem mem_names {map : TypeMap} {name : String} : name ∈ map.names ↔ (map.get? name).isSome := by
  rw [names, Std.TreeMap.mem_keys, get?, Std.TreeMap.isSome_getElem?_iff_mem]

theorem get?_substitute (staged : TypeMap) (registry : Std.TreeMap String NodeId) (name : String) :
    (staged.substitute registry).get? name =
      (staged.get? name).map (Expansion.expandEntry ⟨namesById registry, staged⟩ name) :=
  get?_mapEntries ..

open Std.DTreeMap.Internal in
theorem mapEntries_eq_self {map : TypeMap} {f : String → Descriptor → Descriptor}
    (same : ∀ name entry, map.get? name = some entry → f name entry = entry) :
    map.mapEntries f = map := by
  have shape : (tree : Impl String fun _ => Descriptor) →
      (∀ entry ∈ tree.toListModel, f entry.1 entry.2 = entry.2) → tree.map f = tree := by
    intro tree
    induction tree with
    | leaf => exact fun _ => rfl
    | inner size name entry left right ihLeft ihRight =>
        intro same
        simp only [Impl.toListModel_inner, List.mem_append, List.mem_cons] at same
        rw [Impl.map, ihLeft fun entry listed => same entry (.inl listed),
          ihRight fun entry listed => same entry (.inr (.inr listed)),
          same ⟨name, entry⟩ (.inr (.inl rfl))]
  obtain ⟨⟨⟨tree, wellFormed⟩⟩⟩ := map
  have kept := shape tree fun entry listed => by
    refine same entry.1 entry.2 (Std.TreeMap.mem_toList_iff_getElem?_eq_some.1 ?_)
    show (entry.1, entry.2) ∈ Impl.Const.toList tree
    rw [Impl.Const.toList_eq_toListModel_map]
    exact List.mem_map_of_mem listed
  unfold mapEntries Std.TreeMap.map Std.DTreeMap.map
  simp only [kept]

end TypeMap

theorem namesById_getElem? (registry : Std.TreeMap String NodeId) (id : NodeId) :
    (namesById registry)[id]? = (registry.toList.findRev? (·.2 = id)).map (·.1) := by
  have folded : ∀ (entries : List (String × NodeId)) (names : Std.HashMap NodeId String),
      (entries.foldl (fun names entry => names.insert entry.2 entry.1) names)[id]? =
        ((entries.findRev? (·.2 = id)).map (·.1)).or names[id]? := by
    intro entries
    induction entries with
    | nil => exact fun _ => rfl
    | cons entry rest ih =>
        intro names
        rw [List.foldl_cons, ih, Std.HashMap.getElem?_insert, List.findRev?_eq_find?_reverse,
          List.findRev?_eq_find?_reverse, List.reverse_cons, List.find?_append]
        cases rest.reverse.find? (·.2 = id) with
        | some found => rfl
        | none => by_cases here : entry.2 = id <;> simp [here]
  rw [namesById, Std.TreeMap.foldl_eq_foldl_toList, folded, Std.HashMap.getElem?_empty,
    Option.or_none]

variable {staged : TypeMap} {registry : Std.TreeMap String NodeId}

theorem namesById_eq_some_iff
    (single : ∀ (name other : String) id, registry[name]? = some id → registry[other]? = some id →
      name = other) {id : NodeId} {name : String} :
    (namesById registry)[id]? = some name ↔ registry[name]? = some id := by
  rw [namesById_getElem?, List.findRev?_eq_find?_reverse, Option.map_eq_some_iff]
  constructor
  · rintro ⟨entry, found, rfl⟩
    have listed := List.mem_reverse.1 (List.mem_of_find?_eq_some found)
    have same : entry.2 = id := by simpa using List.find?_some found
    rw [← same]
    exact Std.TreeMap.mem_toList_iff_getElem?_eq_some.1 listed
  · intro registered
    have listed : (name, id) ∈ registry.toList.reverse :=
      List.mem_reverse.2 (Std.TreeMap.mem_toList_iff_getElem?_eq_some.2 registered)
    obtain ⟨entry, found⟩ := Option.isSome_iff_exists.1
      (List.find?_isSome.2 ⟨_, listed, decide_eq_true rfl⟩ : (registry.toList.reverse.find?
        (·.2 = id)).isSome)
    have same : entry.2 = id := by simpa using List.find?_some found
    have listed' := List.mem_reverse.1 (List.mem_of_find?_eq_some found)
    have registered' : registry[entry.1]? = some id := by
      rw [← same]
      exact Std.TreeMap.mem_toList_iff_getElem?_eq_some.1 listed'
    exact ⟨entry, found, single _ _ id registered' registered⟩

namespace Expansion

theorem target?_eq_some_iff
    (single : ∀ (name other : String) id, registry[name]? = some id → registry[other]? = some id →
      name = other) {type : NodeId} {name : String} {entry : Descriptor} :
    target? ⟨namesById registry, staged⟩ type = some (name, entry) ↔
      registry[name]? = some type ∧ staged.get? name = some entry := by
  simp only [target?, Option.bind_eq_bind, Option.bind_eq_some_iff, namesById_eq_some_iff single,
    Option.some.injEq, Prod.mk.injEq]
  constructor
  · rintro ⟨_, registered, _, found, rfl, rfl⟩
    exact ⟨registered, found⟩
  · rintro ⟨registered, found⟩
    exact ⟨name, registered, entry, found, rfl, rfl⟩

variable {expansion : Expansion} {declaration : Declaration} {children rest : List Descriptor}
  {free : List String} {name : String} {entry : Descriptor}

theorem expandAll_cons_none (none : expansion.target? declaration.typeDefinition = none) :
    expansion.expandAll free (⟨declaration, children⟩ :: rest) =
      ⟨declaration, expansion.expandAll free children⟩ :: expansion.expandAll free rest := by
  rw [expandAll, none]

theorem expandAll_cons_some
    (found : expansion.target? declaration.typeDefinition = some (name, entry))
    (isFree : name ∈ free) : expansion.expandAll free (⟨declaration, children⟩ :: rest) =
      ⟨{ declaration with ofBaseDataVariableType := entry.declaration.ofBaseDataVariableType },
        expansion.expandAll (free.erase name) entry.children⟩ :: expansion.expandAll free rest := by
  rw [expandAll, found]
  dsimp only
  rw [if_pos isFree]

theorem expandAll_cons_bound
    (found : expansion.target? declaration.typeDefinition = some (name, entry))
    (bound : name ∉ free) : expansion.expandAll free (⟨declaration, children⟩ :: rest) =
      ⟨declaration, children⟩ :: expansion.expandAll free rest := by
  rw [expandAll, found]
  dsimp only
  rw [if_neg bound]

end Expansion

/-- All types to which the expansion of a forest can come are free. -/
def TypeMap.Covers (staged : TypeMap) (registry : Std.TreeMap String NodeId) (free : List String)
    (forest : List Descriptor) : Prop :=
  ∀ node type other, Among forest node → staged.Defines registry type node →
    ReflTransGen (staged.Uses registry) type other → other ∈ free

namespace TypeMap.Covers

variable {free : List String} {d : Descriptor} {rest : List Descriptor}

theorem head (covers : staged.Covers registry free (d :: rest)) :
    staged.Covers registry free d.children :=
  fun node type other among => covers node type other (among_cons.2 (.inr (.inl among)))

theorem tail (covers : staged.Covers registry free (d :: rest)) :
    staged.Covers registry free rest :=
  fun node type other among => covers node type other (among_cons.2 (.inr (.inr among)))

theorem entry (acyclic : ∀ name, ¬ TransGen (staged.Uses registry) name name) {name : String}
    {entry : Descriptor} (found : staged.get? name = some entry)
    (after : ∀ other, ReflTransGen (staged.Uses registry) name other → other ∈ free) :
    staged.Covers registry (free.erase name) entry.children := by
  intro node type other among defines further
  have uses : TransGen (staged.Uses registry) name other :=
    TransGen.head' ⟨entry, node, found, among, defines⟩ further
  have different : other ≠ name := by
    rintro rfl
    exact acyclic _ uses
  exact (List.mem_erase_of_ne different).2 (after other uses.to_reflTransGen)

theorem names (acyclic : ∀ name, ¬ TransGen (staged.Uses registry) name name) {name : String}
    {entry : Descriptor} (found : staged.get? name = some entry) :
    staged.Covers registry (staged.names.erase name) entry.children := by
  refine Covers.entry acyclic found fun other after => TypeMap.mem_names.2 ?_
  cases after with
  | refl => rw [found]; rfl
  | tail _ uses =>
      obtain ⟨_, _, _, _, defines⟩ := uses
      exact defines.2

end TypeMap.Covers

section

variable
  (single : ∀ (name other : String) id, registry[name]? = some id → registry[other]? = some id →
    name = other)
  (acyclic : ∀ name, ¬ TransGen (staged.Uses registry) name name)
include single acyclic

theorem expandAll_congr {free free' : List String} {forest : List Descriptor}
    (covers : staged.Covers registry free forest) (covers' : staged.Covers registry free' forest) :
    Expansion.expandAll ⟨namesById registry, staged⟩ free forest =
      Expansion.expandAll ⟨namesById registry, staged⟩ free' forest := by
  -- The recursion of `expandAll`: into the type of a declaration, into its own children, and on.
  induction free, forest using Expansion.expandAll.induct ⟨namesById registry, staged⟩
    generalizing free' with
  | case1 free => rw [Expansion.expandAll, Expansion.expandAll]
  | case2 free declaration children rest ihType ihChildren ihRest =>
      have further := ihRest covers.tail covers'.tail
      cases found : Expansion.target? ⟨namesById registry, staged⟩ declaration.typeDefinition with
      | none =>
          rw [Expansion.expandAll_cons_none found, Expansion.expandAll_cons_none found, further,
            ihChildren covers.head covers'.head]
      | some target =>
          obtain ⟨name, entry⟩ := target
          obtain ⟨registered, present⟩ := (Expansion.target?_eq_some_iff single).1 found
          have defines : staged.Defines registry name ⟨declaration, children⟩ :=
            ⟨registered, by rw [present]; rfl⟩
          have here : Among (⟨declaration, children⟩ :: rest) ⟨declaration, children⟩ :=
            .top (List.mem_cons_self ..)
          have after := fun other => covers _ name other here defines
          have after' := fun other => covers' _ name other here defines
          rw [Expansion.expandAll_cons_some found (after name .refl),
            Expansion.expandAll_cons_some found (after' name .refl), further,
            ihType name entry (after name .refl) (.entry acyclic present after)
              (.entry acyclic present after')]

theorem children_of_among_expandAll {free : List String} {forest : List Descriptor}
    (covers : staged.Covers registry free forest) {node : Descriptor}
    (among : Among (Expansion.expandAll ⟨namesById registry, staged⟩ free forest) node)
    {type : String} {entry : Descriptor}
    (registered : registry[type]? = some node.declaration.typeDefinition)
    (present : staged.get? type = some entry) :
    node.children =
        (Expansion.expandEntry ⟨namesById registry, staged⟩ type entry).children ∧
      node.declaration.ofBaseDataVariableType = entry.declaration.ofBaseDataVariableType := by
  induction free, forest using Expansion.expandAll.induct ⟨namesById registry, staged⟩ with
  | case1 free =>
      rw [Expansion.expandAll] at among
      exact absurd among not_among_nil
  | case2 free declaration children rest ihType ihChildren ihRest =>
      cases found : Expansion.target? ⟨namesById registry, staged⟩ declaration.typeDefinition with
      | none =>
          rw [Expansion.expandAll_cons_none found] at among
          rcases among_cons.1 among with rfl | among | among
          · rw [(Expansion.target?_eq_some_iff single).2 ⟨registered, present⟩] at found
            cases found
          · exact ihChildren covers.head among
          · exact ihRest covers.tail among
      | some target =>
          obtain ⟨name, entry'⟩ := target
          obtain ⟨registered', present'⟩ := (Expansion.target?_eq_some_iff single).1 found
          have defines : staged.Defines registry name ⟨declaration, children⟩ :=
            ⟨registered', by rw [present']; rfl⟩
          have after := fun other =>
            covers ⟨declaration, children⟩ name other (.top (List.mem_cons_self ..)) defines
          have inside : staged.Covers registry (free.erase name) entry'.children :=
            .entry acyclic present' after
          rw [Expansion.expandAll_cons_some found (after name .refl)] at among
          rcases among_cons.1 among with rfl | among | among
          · obtain rfl := single name type _ registered' registered
            obtain rfl : entry' = entry := Option.some.inj (present'.symm.trans present)
            exact ⟨expandAll_congr single acyclic inside (.names acyclic present), rfl⟩
          · exact ihType name entry' (after name .refl) inside among
          · exact ihRest covers.tail among

end

/-- Every declaration below a type has the children of its own type in the same map, and says as that
one does whether it is below the base data variable type. -/
def TypeMap.SelfContained (map : TypeMap) (registry : Std.TreeMap String NodeId) : Prop :=
  ∀ name entry node type target, map.get? name = some entry → Among entry.children node →
    registry[type]? = some node.declaration.typeDefinition → map.get? type = some target →
      node.children = target.children ∧
        node.declaration.ofBaseDataVariableType = target.declaration.ofBaseDataVariableType

theorem TypeMap.SelfContained.expandAll {map : TypeMap} (contained : map.SelfContained registry)
    (single : ∀ (name other : String) id, registry[name]? = some id → registry[other]? = some id →
      name = other)
    {name : String} {entry : Descriptor} (present : map.get? name = some entry)
    (free : List String) (forest : List Descriptor)
    (inside : ∀ node, Among forest node → Among entry.children node) :
    Expansion.expandAll ⟨namesById registry, map⟩ free forest = forest := by
  -- A declaration that is expanded has the children of its type already, so the induction can be
  -- about the forest, whichever types are free.
  match forest with
  | [] => rw [Expansion.expandAll]
  | ⟨declaration, children⟩ :: rest =>
      have further := contained.expandAll single present free rest
        fun node among => inside node (among_cons.2 (.inr (.inr among)))
      have below := fun free => contained.expandAll single present free children
        fun node among => inside node (among_cons.2 (.inr (.inl among)))
      cases found : Expansion.target? ⟨namesById registry, map⟩ declaration.typeDefinition with
      | none => rw [Expansion.expandAll_cons_none found, further, below]
      | some target =>
          obtain ⟨type, target⟩ := target
          obtain ⟨registered, there⟩ := (Expansion.target?_eq_some_iff single).1 found
          have here := inside ⟨declaration, children⟩ (.top (List.mem_cons_self ..))
          obtain ⟨sameChildren, sameFlag⟩ :=
            contained name entry _ type target present here registered there
          dsimp only at sameChildren sameFlag
          by_cases isFree : type ∈ free
          · rw [Expansion.expandAll_cons_some found isFree, further, ← sameFlag, ← sameChildren,
              below]
          · rw [Expansion.expandAll_cons_bound found isFree, further]

theorem TypeMap.SelfContained.substitute {map : TypeMap} (contained : map.SelfContained registry)
    (single : ∀ (name other : String) id, registry[name]? = some id → registry[other]? = some id →
      name = other) : map.substitute registry = map := by
  refine TypeMap.mapEntries_eq_self fun name entry present => ?_
  obtain ⟨declaration, children⟩ := entry
  rw [Expansion.expandEntry, contained.expandAll single present _ _ fun _ => id]

theorem selfContained_substitute
    (single : ∀ (name other : String) id, registry[name]? = some id → registry[other]? = some id →
      name = other)
    (acyclic : ∀ name, ¬ TransGen (staged.Uses registry) name name) :
    (staged.substitute registry).SelfContained registry := by
  intro name entry node type target there among registered thereType
  rw [TypeMap.get?_substitute] at there thereType
  obtain ⟨before, present, rfl⟩ := Option.map_eq_some_iff.1 there
  obtain ⟨before', present', rfl⟩ := Option.map_eq_some_iff.1 thereType
  exact children_of_among_expandAll single acyclic (.names acyclic present) among registered present'

/-- Where no id is registered twice and no type uses itself, substitution keeps the names, every
declaration below a type has what its own type has, and there is nothing left to substitute. -/
theorem substitute_selfContained
    (single : ∀ (name other : String) id, registry[name]? = some id → registry[other]? = some id →
      name = other)
    (acyclic : ∀ name, ¬ TransGen (staged.Uses registry) name name) :
    (staged.substitute registry).names = staged.names ∧
    (∀ name entry node type target, (staged.substitute registry).get? name = some entry →
      Among entry.children node → registry[type]? = some node.declaration.typeDefinition →
      (staged.substitute registry).get? type = some target →
        node.children = target.children ∧
          node.declaration.ofBaseDataVariableType = target.declaration.ofBaseDataVariableType) ∧
    (staged.substitute registry).substitute registry = staged.substitute registry := by
  have contained := selfContained_substitute single acyclic
  exact ⟨Std.TreeMap.keys_map, contained, contained.substitute single⟩

def pressRegistry : Std.TreeMap String NodeId :=
  ((Std.TreeMap.empty.insert ";Press" ⟨"", "i=1"⟩).insert ";Motor" ⟨"", "i=2"⟩).insert ";Sensor"
    ⟨"", "i=3"⟩

def pressStaged : TypeMap :=
  (((TypeMap.empty.insert ";Press" ⟨{}, [⟨{ typeDefinition := ⟨"", "i=2"⟩ }, []⟩,
      ⟨{}, [⟨{ typeDefinition := ⟨"", "i=2"⟩ }, []⟩]⟩]⟩).2.insert
    ";Motor" ⟨{}, [⟨{ typeDefinition := ⟨"", "i=3"⟩ }, []⟩]⟩).2.insert
    ";Sensor" ⟨{ ofBaseDataVariableType := true }, [⟨{ node := ⟨"", "i=4"⟩ }, []⟩]⟩).2

theorem substitute_selfContained_press :
    (pressStaged.substitute pressRegistry).names = pressStaged.names ∧
    (∀ name entry node type target, (pressStaged.substitute pressRegistry).get? name = some entry →
      Among entry.children node → pressRegistry[type]? = some node.declaration.typeDefinition →
      (pressStaged.substitute pressRegistry).get? type = some target →
        node.children = target.children ∧
          node.declaration.ofBaseDataVariableType = target.declaration.ofBaseDataVariableType) ∧
    (pressStaged.substitute pressRegistry).substitute pressRegistry =
      pressStaged.substitute pressRegistry := by
  have registered : ∀ name : String, pressRegistry[name]? =
      if ";Sensor" = name then some ⟨"", "i=3"⟩ else if ";Motor" = name then some ⟨"", "i=2"⟩
      else if ";Press" = name then some ⟨"", "i=1"⟩ else none := by
    intro name
    simp [pressRegistry, Std.TreeMap.getElem?_insert]
  have single : ∀ (name other : String) id, pressRegistry[name]? = some id →
      pressRegistry[other]? = some id → name = other := by
    intro name other id first second
    rw [registered] at first second
    grind
  -- Each type uses only types that come before it here.
  let rank (name : String) : Nat := if name = ";Press" then 2 else if name = ";Motor" then 1 else 0
  have lower : ∀ name other, pressStaged.Uses pressRegistry name other → rank other < rank name := by
    rintro name other ⟨entry, node, there, among, same, -⟩
    have absent : TypeMap.empty.get? name = none := Std.TreeMap.getElem?_emptyc
    simp only [pressStaged, TypeMap.get?_insert, absent, Option.none_or] at there
    rw [registered] at same
    by_cases press : ";Press" = name
    · subst press
      obtain rfl := Option.some.inj there
      simp only [among_cons, not_among_nil, or_false, false_or] at among
      rcases among with rfl | rfl | rfl <;> grind [NodeId.null]
    · by_cases motor : ";Motor" = name
      · subst motor
        obtain rfl := Option.some.inj there
        simp only [among_cons, not_among_nil, or_false] at among
        subst among
        grind
      · by_cases sensor : ";Sensor" = name
        · subst sensor
          obtain rfl := Option.some.inj there
          simp only [among_cons, not_among_nil, or_false] at among
          subst among
          grind [NodeId.null]
        · simp [press, motor, sensor] at there
  have descends : ∀ name other, TransGen (pressStaged.Uses pressRegistry) name other →
      rank other < rank name := by
    intro name other uses
    induction uses with
    | single uses => exact lower _ _ uses
    | tail _ uses ih => exact Nat.lt_trans (lower _ _ uses) ih
  exact substitute_selfContained single fun name uses => Nat.lt_irrefl _ (descends name name uses)

end AddressSpace
