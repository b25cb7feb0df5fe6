import AddressSpace.Proofs.Crawl.Lineage
import AddressSpace.TypeLibrary

namespace AddressSpace

namespace TypeMap

theorem get?_insert (map : TypeMap) (name other : String) (entry : Descriptor) :
    (map.insert name entry).2.get? other =
      (map.get? other).or (if name = other then some entry else none) := by
  unfold insert
  by_cases present : map.contains name
  · rw [if_pos present]
    by_cases same : name = other
    · subst same
      obtain ⟨old, found⟩ : ∃ old, map.get? name = some old :=
        ⟨_, Std.TreeMap.getElem?_eq_some_getElem present⟩
      rw [found, Option.some_or]
    · rw [if_neg same, Option.or_none]
  · rw [if_neg present, get?, Std.TreeMap.getElem?_insert]
    by_cases same : name = other
    · subst same
      have absent : map.get? name = none := Std.TreeMap.getElem?_eq_none present
      simp [absent]
    · simp [same, get?]

theorem get?_mapEntries (map : TypeMap) (f : String → Descriptor → Descriptor) (name : String) :
    (map.mapEntries f).get? name = (map.get? name).map (f name) :=
  Std.TreeMap.getElem?_map

variable {ε : Type} (chosen : String × ε → Option Descriptor)

/-- A count and a map after an entry, which is inserted if something is chosen for it, and counted if
the map has lacked its name. -/
def insertChosen (state : Nat × TypeMap) (entry : String × ε) : Nat × TypeMap :=
  (chosen entry).elim state fun descriptor =>
    (state.1 + (state.2.insert entry.1 descriptor).1.toNat, (state.2.insert entry.1 descriptor).2)

theorem get?_foldl (entries : List (String × ε)) (state : Nat × TypeMap) (name : String) :
    (entries.foldl (insertChosen chosen) state).2.get? name =
      (state.2.get? name).or
        (entries.findSome? fun entry => if entry.1 = name then chosen entry else none) := by
  induction entries generalizing state with
  | nil => exact (Option.or_none ..).symm
  | cons entry rest ih =>
      rw [List.foldl_cons, ih, List.findSome?_cons, insertChosen]
      cases chosen entry with
      | none => simp
      | some descriptor =>
          rw [Option.elim_some, get?_insert, Option.or_assoc]
          by_cases same : entry.1 = name <;> simp [same]

end TypeMap

variable {arena : Arena}

theorem Arena.mem_registered {name : String} {i : Nat} {node : ArenaNode} :
    (name, i, node) ∈ arena.registered ↔
      arena.types[name]? = some i ∧ arena.node? i = some node := by
  unfold Arena.registered
  simp only [List.mem_filterMap, Prod.exists, Option.map_eq_some_iff, Prod.mk.injEq]
  constructor
  · rintro ⟨name, i, listed, node, there, rfl, rfl, rfl⟩
    exact ⟨Std.TreeMap.mem_toList_iff_getElem?_eq_some.1 listed, there⟩
  · rintro ⟨registered, there⟩
    exact ⟨name, i, Std.TreeMap.mem_toList_iff_getElem?_eq_some.2 registered, node, there, rfl, rfl,
      rfl⟩

theorem Arena.uri_mem_typeNamespaces {name : String} {i : Nat} {node : ArenaNode}
    (registered : (name, i, node) ∈ arena.registered) :
    node.declaration.node.uri ∈ arena.typeNamespaces := by
  have folded : ∀ (entries : List (String × Nat × ArenaNode)) (uris : Std.TreeMap String Unit),
      node.declaration.node.uri ∈ uris ∨ (name, i, node) ∈ entries →
      node.declaration.node.uri ∈ entries.foldl (fun uris entry =>
        uris.insert entry.2.2.declaration.node.uri ()) uris := by
    intro entries
    induction entries with
    | nil => exact fun uris there => there.resolve_right List.not_mem_nil
    | cons entry rest ih =>
        intro uris there
        refine ih _ ?_
        rcases there with present | listed
        · exact .inl (Std.TreeMap.mem_insert.2 (.inr present))
        · rcases List.mem_cons.1 listed with rfl | behind
          · exact .inl Std.TreeMap.mem_insert_self
          · exact .inr behind
  exact Std.TreeMap.mem_keys.2 (folded _ ∅ (.inr registered))

theorem Arena.Linked.flatten (linked : arena.Linked) (name : String) {i : Nat} {node : ArenaNode}
    (there : arena.node? i = some node) :
    ∃ entry, arena.flatten name i = .ok entry ∧ entry.declaration = node.declaration := by
  obtain ⟨ids, line⟩ := linked.lineage there
  obtain ⟨positions, found, -⟩ := line.line?
  unfold Arena.flatten
  rw [found, there]
  exact ⟨_, rfl, rfl⟩

theorem toOption_eq_some {α : Type} {x : Except Error α} {a : α} :
    x.toOption = some a ↔ x = .ok a := by
  cases x <;> simp [Except.toOption]

def Arena.staged? (arena : Arena) (uris : List String) (name : String) : Option Descriptor := do
  let i ← arena.types[name]?
  let node ← arena.node? i
  if node.declaration.node.uri ∈ uris then (arena.flatten name i).toOption else none

theorem Arena.staged?_eq_some {uris : List String} {name : String} {flat : Descriptor} :
    arena.staged? uris name = some flat ↔ ∃ i node, (name, i, node) ∈ arena.registered ∧
      node.declaration.node.uri ∈ uris ∧ arena.flatten name i = .ok flat := by
  simp only [staged?, Option.bind_eq_bind, Option.bind_eq_some_iff, Option.ite_none_right_eq_some,
    toOption_eq_some, mem_registered]
  constructor
  · rintro ⟨i, registered, node, there, wanted, flattens⟩
    exact ⟨i, node, ⟨registered, there⟩, wanted, flattens⟩
  · rintro ⟨i, node, ⟨registered, there⟩, wanted, flattens⟩
    exact ⟨i, registered, node, there, wanted, flattens⟩

theorem Arena.staged?_cons (arena : Arena) (uri : String) (rest : List String) (name : String) :
    arena.staged? (uri :: rest) name =
      (arena.staged? [uri] name).or (arena.staged? rest name) := by
  unfold staged?
  cases arena.types[name]? with
  | none => rfl
  | some i =>
      cases there : arena.node? i with
      | none => simp [there]
      | some node =>
          by_cases here : node.declaration.node.uri = uri
          · simp only [Option.bind_eq_bind, Option.bind_some, there, here, List.mem_cons, true_or,
              if_true]
            generalize (arena.flatten name i).toOption = flat
            by_cases behind : uri ∈ rest <;> cases flat <;> simp [behind]
          · simp [there, here]

def Arena.flattened? (arena : Arena) (uri : String) (entry : String × Nat × ArenaNode) :
    Option Descriptor :=
  if entry.2.2.declaration.node.uri = uri then (arena.flatten entry.1 entry.2.1).toOption else none

theorem Arena.build_eq_foldl (arena : Arena) (uri : String) (map : TypeMap) :
    arena.build uri map =
      arena.registered.foldl (TypeMap.insertChosen (arena.flattened? uri)) (0, map) := by
  unfold build
  congr 1
  funext ⟨count, map⟩ ⟨name, i, node⟩
  unfold TypeMap.insertChosen flattened?
  dsimp only
  by_cases here : node.declaration.node.uri = uri
  · rw [if_pos here, if_pos here]
    cases arena.flatten name i <;> rfl
  · rw [if_neg here, if_neg here]
    rfl

theorem Arena.get?_build (arena : Arena) (uri : String) (map : TypeMap) (name : String) :
    (arena.build uri map).2.get? name = (map.get? name).or (arena.staged? [uri] name) := by
  rw [build_eq_foldl, TypeMap.get?_foldl]
  congr 1
  -- A name is registered for one node only, so it does not matter which entry is found first.
  have sound : ∀ flat, arena.registered.findSome? (fun entry =>
      if entry.1 = name then arena.flattened? uri entry else none) = some flat →
      arena.staged? [uri] name = some flat := by
    intro flat found
    obtain ⟨⟨other, i, node⟩, registered, is⟩ := List.exists_of_findSome?_eq_some found
    obtain ⟨rfl, flattened⟩ := Option.ite_none_right_eq_some.1 is
    obtain ⟨here, flattens⟩ := Option.ite_none_right_eq_some.1 flattened
    exact staged?_eq_some.2 ⟨i, node, registered, List.mem_singleton.2 here,
      toOption_eq_some.1 flattens⟩
  cases ends : arena.registered.findSome? (fun entry =>
      if entry.1 = name then arena.flattened? uri entry else none) with
  | some flat => exact (sound flat ends).symm
  | none =>
      cases is : arena.staged? [uri] name with
      | none => rfl
      | some flat =>
          obtain ⟨i, node, registered, here, flattens⟩ := staged?_eq_some.1 is
          have nothing := List.findSome?_eq_none_iff.1 ends _ registered
          rw [if_pos rfl, flattened?, if_pos (List.mem_singleton.1 here),
            toOption_eq_some.2 flattens] at nothing
          cases nothing

theorem TypeLibrary.get?_stage (arena : Arena) (uris : List String) (name : String) :
    (stage arena uris).get? name = arena.staged? uris name := by
  have folded : ∀ (uris : List String) (map : TypeMap),
      (uris.foldl (fun staged uri => (arena.build uri staged).2) map).get? name =
        (map.get? name).or (arena.staged? uris name) := by
    intro uris
    induction uris with
    | nil =>
        intro map
        have nothing : arena.staged? [] name = none := by simp [Arena.staged?]
        rw [nothing, Option.or_none, List.foldl_nil]
    | cons uri rest ih =>
        intro map
        rw [List.foldl_cons, ih, Arena.get?_build, Option.or_assoc, ← Arena.staged?_cons]
  have absent : TypeMap.empty.get? name = none := Std.TreeMap.getElem?_emptyc
  rw [stage, folded, absent, Option.none_or]

theorem TypeLibrary.declaration_ofArena (linked : arena.Linked) (uris : List String)
    (name : String) : ((ofArena arena uris).types.get? name).map (·.declaration) =
      (arena.types[name]?.bind arena.node?).bind fun node =>
        if node.declaration.node.uri ∈ uris then some node.declaration else none := by
  have entries : ((ofArena arena uris).types.get? name).map (·.declaration) =
      (arena.staged? uris name).map (·.declaration) := by
    unfold ofArena TypeMap.substitute
    dsimp only
    rw [TypeMap.get?_mapEntries, Option.map_map, get?_stage]
    rfl
  rw [entries, Arena.staged?]
  cases arena.types[name]? with
  | none => rfl
  | some i =>
      cases there : arena.node? i with
      | none => simp [there]
      | some node =>
          -- The arena is linked, so that no line is broken and flattening does not fail.
          obtain ⟨flat, flattens, same⟩ := linked.flatten name there
          by_cases here : node.declaration.node.uri ∈ uris <;>
            simp [there, here, flattens, same, Except.toOption]

theorem TypeLibrary.declared_ofArena (linked : arena.Linked) (name : String) :
    ((ofArena arena arena.typeNamespaces).types.get? name).map (·.declaration) =
      (arena.types[name]?.bind arena.node?).map (·.declaration) := by
  rw [declaration_ofArena linked]
  cases found : arena.types[name]?.bind arena.node? with
  | none => rfl
  | some node =>
      obtain ⟨i, listed, there⟩ := Option.bind_eq_some_iff.1 found
      have registered := Arena.mem_registered.2 ⟨listed, there⟩
      rw [Option.bind_some, if_pos (Arena.uri_mem_typeNamespaces registered), Option.map_some]

end AddressSpace
