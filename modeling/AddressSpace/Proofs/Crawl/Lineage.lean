import AddressSpace.Proofs.Crawl.Planting

namespace AddressSpace.Arena

variable {arena grown : Arena} {i : Nat} {ids : List NodeId}

inductive Lineage (arena : Arena) : Nat → List NodeId → Prop
  | root {i : Nat} {node : ArenaNode} (there : arena.node? i = some node)
      (top : node.parent = none) : Lineage arena i [node.declaration.node]
  | child {i p : Nat} {node : ArenaNode} {ids : List NodeId} (there : arena.node? i = some node)
      (parent : node.parent = some p) (earlier : p < i) (above : Lineage arena p ids) :
      Lineage arena i (node.declaration.node :: ids)

theorem lt_size {node : ArenaNode} (there : arena.node? i = some node) : i < arena.size :=
  (Array.getElem?_eq_some_iff.1 there).1

theorem Lineage.inside (line : arena.Lineage i ids) : i < arena.size := by
  cases line with
  | root there top => exact lt_size there
  | child there parent earlier above => exact lt_size there

theorem Lineage.lineWithin? (line : arena.Lineage i ids) {fuel : Nat} (enough : i < fuel) :
    ∃ positions, arena.lineWithin? fuel i = some positions ∧
      positions.map (fun j => (arena.node? j).map (·.declaration.node)) = ids.map some := by
  induction line generalizing fuel with
  | @root i node there top =>
      obtain ⟨fuel, rfl⟩ := Nat.exists_eq_add_one_of_ne_zero (Nat.ne_zero_of_lt enough)
      refine ⟨[i], ?_, ?_⟩
      · simp only [Arena.lineWithin?, there, Option.bind_eq_bind, Option.bind_some, top]
      · simp only [List.map_cons, there, Option.map_some, List.map_nil]
  | @child i p node ids there parent earlier above ih =>
      obtain ⟨fuel, rfl⟩ := Nat.exists_eq_add_one_of_ne_zero (Nat.ne_zero_of_lt enough)
      obtain ⟨positions, found, same⟩ := ih (show p < fuel by omega)
      refine ⟨i :: positions, ?_, ?_⟩
      · simp only [Arena.lineWithin?, there, Option.bind_eq_bind, Option.bind_some, parent, found,
          Option.map_some]
      · simp only [List.map_cons, there, Option.map_some, same]

theorem Lineage.line? (line : arena.Lineage i ids) :
    ∃ positions, arena.line? i = some positions ∧
      positions.map (fun j => (arena.node? j).map (·.declaration.node)) = ids.map some :=
  line.lineWithin? (Nat.lt_succ_of_lt line.inside)

theorem Lineage.lineHas (line : arena.Lineage i ids) (id : NodeId) :
    arena.lineHas i id = decide (id ∈ ids) := by
  obtain ⟨positions, found, same⟩ := line.line?
  rw [Bool.eq_iff_iff, decide_eq_true_iff]
  have listed : id ∈ ids ↔ some id ∈ ids.map some := by simp
  rw [listed, ← same, Arena.lineHas, found]
  simp [Option.any_eq_true]

theorem node?_add {parent : Nat} (declaration : Declaration) (inside : parent < arena.size)
    (i : Nat) : (arena.add parent declaration).node? i =
      if i = arena.size then some { declaration, parent := some parent }
      else (arena.node? i).map fun node =>
        if parent = i then node.addChildren [arena.size] else node := by
  have length : (arena.nodes.toList.modify parent (.addChildren [arena.size])).length =
      arena.size := by
    simp [size]
  rw [node?, ← Array.getElem?_toList, nodes_add arena parent declaration inside]
  by_cases last : i = arena.size
  · rw [if_pos last, List.getElem?_append_right (by omega), length, last, Nat.sub_self]
    rfl
  · rw [if_neg last, node?, ← Array.getElem?_toList]
    by_cases before : i < arena.size
    · rw [List.getElem?_append_left (by omega), List.getElem?_modify]
      cases arena.nodes.toList[i]? with
      | none => rfl
      | some node => by_cases here : parent = i <;> simp [here]
    · have outside : arena.nodes.toList[i]? = none :=
        List.getElem?_eq_none (by rw [Array.length_toList]; exact Nat.le_of_not_lt before)
      have outside' : ∀ more, (arena.nodes.toList.modify parent (.addChildren [arena.size]) ++
          [more])[i]? = none := by
        intro more
        refine List.getElem?_eq_none ?_
        rw [List.length_append, length, List.length_singleton]
        omega
      rw [outside, outside']
      rfl

def Grown (arena grown : Arena) : Prop :=
  ∀ i node, arena.node? i = some node → ∃ children, grown.node? i = some { node with children }

theorem Grown.refl (arena : Arena) : Grown arena arena :=
  fun _ node there => ⟨node.children, there⟩

theorem Grown.trans {first second third : Arena} (before : Grown first second)
    (after : Grown second third) : Grown first third := by
  intro i node there
  obtain ⟨_, there'⟩ := before i node there
  obtain ⟨children, there''⟩ := after i _ there'
  exact ⟨children, there''⟩

theorem grown_of_nodes {parent : Nat} {positions : List Nat} {more : List ArenaNode}
    (nodes : grown.nodes.toList =
      arena.nodes.toList.modify parent (.addChildren positions) ++ more) : Grown arena grown := by
  intro i node there
  have listed : arena.nodes.toList[i]? = some node := by
    rw [Array.getElem?_toList]
    exact there
  have inside : i < (arena.nodes.toList.modify parent (.addChildren positions)).length := by
    rw [List.length_modify]
    exact (List.getElem?_eq_some_iff.1 listed).1
  refine ⟨if parent = i then node.children ++ positions.toArray else node.children, ?_⟩
  rw [node?, ← Array.getElem?_toList, nodes, List.getElem?_append_left inside,
    List.getElem?_modify, listed]
  by_cases here : parent = i
  · simp [here, ArenaNode.addChildren]
  · simp [here]

theorem grown_add (arena : Arena) (parent : Nat) (declaration : Declaration)
    (inside : parent < arena.size) : Grown arena (arena.add parent declaration) :=
  grown_of_nodes (nodes_add arena parent declaration inside)

theorem grown_plant (arena : Arena) (parent : Nat) (d : Descriptor) (inside : parent < arena.size) :
    Grown arena (arena.plant parent d) :=
  grown_of_nodes (nodes_plant arena parent inside d)

theorem Lineage.grow (line : arena.Lineage i ids) (more : Grown arena grown) :
    grown.Lineage i ids := by
  induction line with
  | @root i node there top =>
      obtain ⟨children, there'⟩ := more _ _ there
      exact @Lineage.root grown i { node with children } there' top
  | @child i p node ids there parent earlier above ih =>
      obtain ⟨children, there'⟩ := more _ _ there
      exact @Lineage.child grown i p { node with children } ids there' parent earlier ih

theorem Lineage.add (line : arena.Lineage i ids) (declaration : Declaration) :
    (arena.add i declaration).Lineage arena.size (declaration.node :: ids) := by
  have inside := line.inside
  have there : (arena.add i declaration).node? arena.size =
      some { declaration, parent := some i } := by
    rw [node?_add declaration inside, if_pos rfl]
  exact .child there rfl inside (line.grow (grown_add arena i declaration inside))

/-- Parents lie before their children, and the children of a node are, in order, the nodes whose
parent it is. -/
structure Linked (arena : Arena) : Prop where
  parents : ∀ i p node, arena.node? i = some node → node.parent = some p → p < i
  children : ∀ p node, arena.node? p = some node → node.children.toList =
    (List.range arena.size).filter fun i => (arena.node? i).any (·.parent = some p)

theorem Linked.childless (linked : arena.Linked) :
    (List.range arena.size).filter (fun i => (arena.node? i).any (·.parent = some arena.size)) =
      [] := by
  refine List.filter_eq_nil_iff.2 fun i member below => ?_
  obtain ⟨node, there, parent⟩ := (Option.any_eq_true _ _).1 below
  have := linked.parents i arena.size node there (of_decide_eq_true parent)
  have := List.mem_range.1 member
  omega

theorem Linked.add (linked : arena.Linked) {parent : Nat} (declaration : Declaration)
    (inside : parent < arena.size) : (arena.add parent declaration).Linked := by
  have nodes := node?_add declaration inside
  refine ⟨fun i p node there below => ?_, fun p node there => ?_⟩
  · rw [nodes] at there
    by_cases last : i = arena.size
    · rw [if_pos last] at there
      cases there
      cases below
      omega
    · rw [if_neg last] at there
      obtain ⟨old, there', rfl⟩ := Option.map_eq_some_iff.1 there
      refine linked.parents i p old there' ?_
      split at below <;> exact below
  · -- The new node is the last candidate for a child, and is one of `parent` only.
    have kept : (List.range arena.size).filter
        (fun i => ((arena.add parent declaration).node? i).any (·.parent = some p)) =
        (List.range arena.size).filter fun i => (arena.node? i).any (·.parent = some p) := by
      refine List.filter_congr fun i member => ?_
      rw [nodes, if_neg (Nat.ne_of_lt (List.mem_range.1 member))]
      cases arena.node? i with
      | none => rfl
      | some node => by_cases here : parent = i <;> simp [here, ArenaNode.addChildren]
    have added : ((arena.add parent declaration).node? arena.size).any (·.parent = some p) =
        decide (parent = p) := by
      rw [nodes, if_pos rfl]
      simp
    rw [size_add arena parent declaration, List.range_succ, List.filter_append, kept,
      List.filter_cons, added, List.filter_nil]
    rw [nodes] at there
    by_cases last : p = arena.size
    · rw [if_pos last] at there
      cases there
      have elsewhere : decide (parent = p) = false := decide_eq_false (by omega)
      rw [elsewhere, last, linked.childless]
      rfl
    · rw [if_neg last] at there
      obtain ⟨old, there', rfl⟩ := Option.map_eq_some_iff.1 there
      rw [← linked.children p old there']
      by_cases here : parent = p <;> simp [here, ArenaNode.addChildren]

mutual

theorem Linked.plant {arena : Arena} (linked : arena.Linked) {parent : Nat}
    (inside : parent < arena.size) : (d : Descriptor) → (arena.plant parent d).Linked
  | ⟨declaration, children⟩ => by
      have grown := size_add arena parent declaration
      rw [Arena.plant]
      exact (linked.add declaration inside).plantAll (by omega) children

theorem Linked.plantAll {arena : Arena} (linked : arena.Linked) {parent : Nat}
    (inside : parent < arena.size) : (ds : List Descriptor) → (arena.plantAll parent ds).Linked
  | [] => linked
  | d :: rest => by
      have grown := size_plant arena parent inside d
      rw [Arena.plantAll]
      exact (linked.plant inside d).plantAll (by omega) rest

end

theorem node?_push_none (arena : Arena) (declaration : Declaration) (i : Nat) :
    (arena.push none declaration).node? i =
      if i = arena.size then some { declaration } else arena.node? i :=
  Array.getElem?_push

theorem Linked.push (linked : arena.Linked) (declaration : Declaration) :
    (arena.push none declaration).Linked := by
  have nodes := node?_push_none arena declaration
  refine ⟨fun i p node there below => ?_, fun p node there => ?_⟩
  · rw [nodes] at there
    split at there
    · cases there
      cases below
    · exact linked.parents i p node there below
  · have kept : (List.range arena.size).filter
        (fun i => ((arena.push none declaration).node? i).any (·.parent = some p)) =
        (List.range arena.size).filter fun i => (arena.node? i).any (·.parent = some p) := by
      refine List.filter_congr fun i member => ?_
      rw [nodes, if_neg (Nat.ne_of_lt (List.mem_range.1 member))]
    have added : ((arena.push none declaration).node? arena.size).any (·.parent = some p) =
        false := by
      rw [nodes, if_pos rfl]
      rfl
    rw [size_push_none, List.range_succ, List.filter_append, kept, List.filter_cons, added,
      List.filter_nil, if_neg Bool.false_ne_true, List.append_nil]
    rw [nodes] at there
    split at there
    case isTrue last =>
      cases there
      rw [last, linked.childless]
    case isFalse => exact linked.children p node there

theorem linked_empty : empty.Linked :=
  ⟨by rintro i p node ⟨⟩, by rintro p node ⟨⟩⟩

theorem Linked.plantRoot (linked : arena.Linked) (d : Descriptor) : (arena.plantRoot d).Linked := by
  obtain ⟨declaration, children⟩ := d
  exact (linked.push declaration).plantAll (by rw [size_push_none]; exact Nat.lt_succ_self _)
    children

theorem Linked.lineage (linked : arena.Linked) {i : Nat} {node : ArenaNode}
    (there : arena.node? i = some node) : ∃ ids, arena.Lineage i ids := by
  induction i using Nat.strongRecOn generalizing node with
  | ind i ih =>
      cases parent : node.parent with
      | none => exact ⟨_, .root there parent⟩
      | some p =>
          have earlier := linked.parents i p node there parent
          have inside : p < arena.nodes.size := Nat.lt_trans earlier (lt_size there)
          obtain ⟨ids, above⟩ := ih p earlier (Array.getElem?_eq_getElem inside)
          exact ⟨_, .child there parent earlier above⟩

end AddressSpace.Arena
