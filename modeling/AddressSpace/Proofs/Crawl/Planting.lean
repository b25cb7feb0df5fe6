import AddressSpace.Crawl.Arena

namespace AddressSpace

def Descriptor.starts (first : Nat) : List Descriptor → List Nat
  | [] => []
  | d :: rest => first :: starts (first + d.treeSize) rest

namespace Descriptor

mutual

/-- The nodes of a tree in preorder, the first of them at the position `first`. -/
def layout (first : Nat) (parent : Option Nat) : Descriptor → List ArenaNode
  | ⟨declaration, children⟩ =>
    { declaration, parent, children := (starts (first + 1) children).toArray } ::
      forestLayout (first + 1) (some first) children

def forestLayout (first : Nat) (parent : Option Nat) : List Descriptor → List ArenaNode
  | [] => []
  | d :: rest => d.layout first parent ++ forestLayout (first + d.treeSize) parent rest

end

mutual

theorem length_layout (first : Nat) (parent : Option Nat) :
    (d : Descriptor) → (d.layout first parent).length = d.treeSize
  | ⟨declaration, children⟩ => by
      rw [layout, List.length_cons, length_forestLayout, treeSize, Nat.add_comm]

theorem length_forestLayout (first : Nat) (parent : Option Nat) :
    (ds : List Descriptor) → (forestLayout first parent ds).length = forestSize ds
  | [] => by rw [forestLayout, forestSize, List.length_nil]
  | d :: rest => by
      rw [forestLayout, List.length_append, length_layout, length_forestLayout, forestSize]

end

mutual

def declared : Descriptor → List Declaration
  | ⟨declaration, children⟩ => declaration :: forestDeclared children

def forestDeclared : List Descriptor → List Declaration
  | [] => []
  | d :: rest => d.declared ++ forestDeclared rest

end

mutual

theorem map_layout (first : Nat) (parent : Option Nat) :
    (d : Descriptor) → (d.layout first parent).map (·.declaration) = d.declared
  | ⟨declaration, children⟩ => by
      rw [layout, List.map_cons, map_forestLayout, declared]

theorem map_forestLayout (first : Nat) (parent : Option Nat) :
    (ds : List Descriptor) → (forestLayout first parent ds).map (·.declaration) = forestDeclared ds
  | [] => by rw [forestLayout, forestDeclared, List.map_nil]
  | d :: rest => by
      rw [forestLayout, List.map_append, map_layout, map_forestLayout, forestDeclared]

end

end Descriptor

def ArenaNode.addChildren (positions : List Nat) (node : ArenaNode) : ArenaNode :=
  { node with children := node.children ++ positions.toArray }

def ArenaNode.isTypeNamed (name : String) (node : ArenaNode) : Bool :=
  node.declaration.nodeClass.isType && Arena.typeName node.declaration == name

namespace Arena
open Descriptor

mutual

def plant (arena : Arena) (parent : Nat) : Descriptor → Arena
  | ⟨declaration, children⟩ => plantAll (arena.add parent declaration) arena.size children

def plantAll (arena : Arena) (parent : Nat) : List Descriptor → Arena
  | [] => arena
  | d :: rest => plantAll (plant arena parent d) parent rest

end

def plantRoot (arena : Arena) : Descriptor → Arena
  | ⟨declaration, children⟩ => plantAll (arena.push none declaration) arena.size children

theorem modify_append {α : Type} (f : α → α) {i : Nat} {front : List α} (back : List α)
    (inside : i < front.length) : (front ++ back).modify i f = front.modify i f ++ back := by
  induction front generalizing i with
  | nil => cases inside
  | cons a front ih =>
      cases i with
      | zero => rfl
      | succ i =>
          have inside' : i < front.length := Nat.lt_of_succ_lt_succ inside
          simp only [List.cons_append, List.modify_succ_cons, ih inside']

theorem modify_length {α : Type} (f : α → α) {i : Nat} {front : List α} (a : α) (back : List α)
    (length : front.length = i) : (front ++ a :: back).modify i f = front ++ f a :: back := by
  subst length
  induction front with
  | nil => rfl
  | cons b front ih => simp only [List.cons_append, List.length_cons, List.modify_succ_cons, ih]

theorem add_nodes (arena : Arena) (parent : Nat) (declaration : Declaration) :
    (arena.add parent declaration).nodes = (arena.push (some parent) declaration).nodes := by
  unfold add
  dsimp only
  split <;> rfl

theorem nodes_add (arena : Arena) (parent : Nat) (declaration : Declaration)
    (inside : parent < arena.size) :
    (arena.add parent declaration).nodes.toList =
      arena.nodes.toList.modify parent (.addChildren [arena.size]) ++
        [{ declaration, parent := some parent }] := by
  rw [add_nodes, push, Array.toList_modify, Array.toList_push, modify_append _ _ inside]
  congr 2

theorem size_add (arena : Arena) (parent : Nat) (declaration : Declaration) :
    (arena.add parent declaration).size = arena.size + 1 := by
  rw [size, add_nodes, push, Array.size_modify, Array.size_push]
  rfl

theorem addChildren_addChildren (is js : List Nat) :
    ArenaNode.addChildren js ∘ ArenaNode.addChildren is = ArenaNode.addChildren (is ++ js) := by
  funext node
  simp [ArenaNode.addChildren]

mutual

theorem nodes_plant (arena : Arena) (parent : Nat) (inside : parent < arena.size) :
    (d : Descriptor) → (arena.plant parent d).nodes.toList =
      arena.nodes.toList.modify parent (.addChildren [arena.size]) ++
        d.layout arena.size (some parent)
  | ⟨declaration, children⟩ => by
      have grown : arena.size < (arena.add parent declaration).size := by
        rw [size_add arena parent declaration]
        exact Nat.lt_succ_self _
      have last : (arena.nodes.toList.modify parent (.addChildren [arena.size])).length =
          arena.size := by simp [size]
      rw [plant, nodes_plantAll _ _ grown, size_add arena parent declaration,
        nodes_add arena parent declaration inside, modify_length _ _ _ last, List.append_assoc,
        layout]
      simp [ArenaNode.addChildren]

theorem nodes_plantAll (arena : Arena) (parent : Nat) (inside : parent < arena.size) :
    (ds : List Descriptor) → (arena.plantAll parent ds).nodes.toList =
      arena.nodes.toList.modify parent (.addChildren (starts arena.size ds)) ++
        forestLayout arena.size (some parent) ds
  | [] => by
      have same : ArenaNode.addChildren [] = id := by
        funext node
        simp [ArenaNode.addChildren]
      rw [plantAll, starts, forestLayout, same, List.modify_id, List.append_nil]
  | d :: rest => by
      have listed := nodes_plant arena parent inside d
      have grown : (arena.plant parent d).size = arena.size + d.treeSize := by
        have counted := congrArg List.length listed
        simpa [size, length_layout] using counted
      rw [plantAll, nodes_plantAll _ _ (by omega), listed, grown,
        modify_append _ _ (by simpa [size] using inside), List.modify_modify_eq,
        addChildren_addChildren, starts, forestLayout, List.append_assoc]
      rfl

end

theorem size_plant (arena : Arena) (parent : Nat) (inside : parent < arena.size)
    (d : Descriptor) : (arena.plant parent d).size = arena.size + d.treeSize := by
  have counted := congrArg List.length (nodes_plant arena parent inside d)
  simpa [size, length_layout] using counted

theorem types_add (arena : Arena) (parent : Nat) (declaration : Declaration) (name : String) :
    (arena.add parent declaration).types[name]? = arena.types[name]?.or
      (if declaration.nodeClass.isType && typeName declaration == name then some arena.size
       else none) := by
  have kept : (arena.push (some parent) declaration).types = arena.types := rfl
  unfold add
  dsimp only
  by_cases isType : declaration.nodeClass.isType
  · by_cases present : typeName declaration ∈ arena.types
    · obtain ⟨i, found⟩ : ∃ i, arena.types[typeName declaration]? = some i :=
        ⟨_, Std.TreeMap.getElem?_eq_some_getElem present⟩
      rw [if_neg (by simp [present]), kept]
      by_cases same : typeName declaration = name
      · subst same
        rw [found, Option.some_or]
      · simp [same]
    · have absent : arena.types[typeName declaration]? = none :=
        Std.TreeMap.getElem?_eq_none present
      have unregistered : arena.types.contains (typeName declaration) = false := by
        rw [← Bool.not_eq_true, ← Std.TreeMap.mem_iff_contains]
        exact present
      rw [if_pos ⟨isType, by rw [unregistered]; rfl⟩, Std.TreeMap.getElem?_insert]
      by_cases same : typeName declaration = name
      · subst same
        simp [absent, isType]
      · simp [same]
  · rw [if_neg (by simp [isType]), kept]
    simp [isType]

mutual

theorem types_plant (arena : Arena) (parent : Nat) (name : String) :
    (d : Descriptor) → (arena.plant parent d).types[name]? = arena.types[name]?.or
      (((d.layout arena.size (some parent)).findIdx? (·.isTypeNamed name)).map (· + arena.size))
  | ⟨declaration, children⟩ => by
      have grown := size_add arena parent declaration
      rw [plant, types_plantAll _ _ (by omega), types_add, grown, layout, List.findIdx?_cons,
        Option.or_assoc]
      congr 1
      by_cases named : (declaration.nodeClass.isType && typeName declaration == name) = true
      · simp [ArenaNode.isTypeNamed, named]
      · have unnamed : ArenaNode.isTypeNamed name
            ⟨declaration, some parent, (starts (arena.size + 1) children).toArray⟩ = false := by
          simpa [ArenaNode.isTypeNamed] using named
        rw [if_neg named, unnamed, Option.none_or, if_neg Bool.false_ne_true, Option.map_map]
        congr 1
        funext i
        simp only [Function.comp_apply]
        omega

theorem types_plantAll (arena : Arena) (parent : Nat) (inside : parent < arena.size)
    (name : String) : (ds : List Descriptor) →
    (arena.plantAll parent ds).types[name]? = arena.types[name]?.or
      (((forestLayout arena.size (some parent) ds).findIdx? (·.isTypeNamed name)).map
        (· + arena.size))
  | [] => by simp [plantAll, forestLayout]
  | d :: rest => by
      have grown := size_plant arena parent inside d
      rw [plantAll, types_plantAll _ _ (by omega), types_plant arena parent, grown,
        forestLayout, List.findIdx?_append, Option.or_assoc, length_layout, Option.map_or,
        Option.map_map]
      congr 3
      funext i
      simp only [Function.comp_apply]
      omega

end

theorem size_push_none (arena : Arena) (declaration : Declaration) :
    (arena.push none declaration).size = arena.size + 1 := Array.size_push ..

theorem nodes_plantRoot (arena : Arena) (d : Descriptor) :
    (arena.plantRoot d).nodes.toList = arena.nodes.toList ++ d.layout arena.size none := by
  obtain ⟨declaration, children⟩ := d
  have grown := size_push_none arena declaration
  have pushed : (arena.push none declaration).nodes.toList =
      arena.nodes.toList ++ [⟨declaration, none, #[]⟩] := Array.toList_push ..
  have last : arena.nodes.toList.length = arena.size := Array.length_toList
  rw [plantRoot, nodes_plantAll _ _ (by omega), grown, pushed, modify_length _ _ _ last,
    List.append_assoc, layout]
  simp [ArenaNode.addChildren]

theorem types_plantRoot (arena : Arena) (d : Descriptor) (name : String) :
    (arena.plantRoot d).types[name]? = arena.types[name]?.or
      (((forestLayout (arena.size + 1) (some arena.size) d.children).findIdx?
        (·.isTypeNamed name)).map (· + (arena.size + 1))) := by
  obtain ⟨declaration, children⟩ := d
  have grown := size_push_none arena declaration
  rw [plantRoot, types_plantAll _ _ (by omega), grown]
  rfl

theorem size_plantRoot (arena : Arena) (d : Descriptor) :
    (arena.plantRoot d).size = arena.size + d.treeSize := by
  have counted := congrArg List.length (nodes_plantRoot arena d)
  simpa [Arena.size, length_layout] using counted

theorem node?_plantRoot_of_lt {arena : Arena} (d : Descriptor) {i : Nat} (inside : i < arena.size) :
    (arena.plantRoot d).node? i = arena.node? i := by
  rw [node?, ← Array.getElem?_toList, nodes_plantRoot,
    List.getElem?_append_left (by simpa [Arena.size] using inside), Array.getElem?_toList, node?]

theorem node?_plantRoot_behind (arena : Arena) (declaration : Declaration)
    (children : List Descriptor) (i : Nat) :
    (arena.plantRoot ⟨declaration, children⟩).node? (i + (arena.size + 1)) =
      (forestLayout (arena.size + 1) (some arena.size) children)[i]? := by
  have offset : i + (arena.size + 1) - arena.nodes.toList.length = i + 1 := by
    simp [Arena.size]
    omega
  rw [node?, ← Array.getElem?_toList, nodes_plantRoot, layout,
    List.getElem?_append_right (by simp [Arena.size]; omega), offset, List.getElem?_cons_succ]

/-- An arena that has registered each name for the first type that is declared with it. -/
structure Registers (arena : Arena) (declared : List Declaration) : Prop where
  inside : ∀ (name : String) i, arena.types[name]? = some i → i < arena.size
  first : ∀ name : String, (arena.types[name]?.bind arena.node?).map (·.declaration) =
    declared.find? fun declaration =>
      declaration.nodeClass.isType && typeName declaration == name

theorem registers_empty : empty.Registers [] := by
  have absent : ∀ name : String, empty.types[name]? = none := fun _ =>
    Std.TreeMap.getElem?_emptyc
  refine ⟨fun name i found => ?_, fun name => ?_⟩
  · rw [absent] at found
    cases found
  · rw [absent]
    rfl

theorem Registers.plantRoot {arena : Arena} {declared : List Declaration}
    (registers : arena.Registers declared) (d : Descriptor) :
    (arena.plantRoot d).Registers (declared ++ forestDeclared d.children) := by
  obtain ⟨declaration, children⟩ := d
  have types := types_plantRoot arena ⟨declaration, children⟩
  have listed : ∀ name, (((forestLayout (arena.size + 1) (some arena.size) children).findIdx?
      (·.isTypeNamed name)).map (· + (arena.size + 1))).bind
        (arena.plantRoot ⟨declaration, children⟩).node? =
      (forestLayout (arena.size + 1) (some arena.size) children).find? (·.isTypeNamed name) := by
    intro name
    rw [List.find?_eq_bind_findIdx?_getElem?, Option.bind_map]
    congr 1
    funext i
    exact node?_plantRoot_behind arena declaration children i
  refine ⟨fun name i found => ?_, fun name => ?_⟩
  · rw [types] at found
    rcases Option.or_eq_some_iff.1 found with before | ⟨-, behind⟩
    · have := registers.inside name i before
      rw [size_plantRoot]
      omega
    · obtain ⟨j, found', rfl⟩ := Option.map_eq_some_iff.1 behind
      have inside := (List.findIdx?_eq_some_iff_getElem.1 found').1
      rw [length_forestLayout] at inside
      rw [size_plantRoot, treeSize]
      dsimp only at inside
      omega
  · rw [types, List.find?_append, ← registers.first name,
      ← map_forestLayout (arena.size + 1) (some arena.size) children, List.find?_map]
    -- A name that was registered before stays with its type; any other goes to the first new one.
    cases before : arena.types[name]? with
    | some i =>
        have inside := registers.inside name i before
        rw [Option.some_or, Option.bind_some, Option.bind_some, node?_plantRoot_of_lt _ inside]
        have there : (arena.node? i).isSome := by
          rw [node?, Array.getElem?_eq_getElem inside]
          rfl
        obtain ⟨node, same⟩ := Option.isSome_iff_exists.1 there
        rw [same, Option.map_some, Option.some_or]
    | none =>
        rw [Option.none_or, Option.bind_none, Option.map_none, Option.none_or, listed]
        rfl

end Arena

end AddressSpace
