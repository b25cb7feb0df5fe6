import AddressSpace.Crawl.Flatten
import AddressSpace.Proofs.Crawl.Growth
import AddressSpace.Proofs.Merge

namespace AddressSpace.Arena
open Descriptor

variable {arena : Arena} {i : Nat}

def offspring (arena : Arena) (i : Nat) : List Nat :=
  (List.range arena.size).filter fun j => (arena.node? j).any fun child =>
    child.parent = some i && !child.declaration.nodeClass.isType

theorem mem_offspring {j : Nat} : j ∈ arena.offspring i ↔
    ∃ child, arena.node? j = some child ∧ child.parent = some i ∧
      child.declaration.nodeClass.isType = false := by
  simp only [offspring, List.mem_filter, List.mem_range, Option.any_eq_true, Bool.and_eq_true,
    decide_eq_true_eq, Bool.not_eq_true']
  exact ⟨fun ⟨_, there⟩ => there, fun ⟨child, there, rest⟩ => ⟨lt_size there, child, there, rest⟩⟩

namespace Linked

variable (linked : arena.Linked)
include linked

theorem declarationsBelow_eq (i : Nat) : arena.declarationsBelow i = arena.offspring i := by
  unfold declarationsBelow offspring
  cases there : arena.node? i with
  | none =>
      -- Parents lie before their children, so nothing is below a position that is not taken.
      refine (List.filter_eq_nil_iff.2 fun j listed below => ?_).symm
      obtain ⟨child, found, holds⟩ := (Option.any_eq_true _ _).1 below
      simp only [Bool.and_eq_true, decide_eq_true_eq] at holds
      have before := linked.parents j i child found holds.1
      have outside : arena.nodes.size ≤ i := Array.getElem?_eq_none_iff.1 there
      have inside : j < arena.nodes.size := lt_size found
      omega
  | some node =>
      dsimp only
      rw [linked.children i node there, List.filter_filter]
      refine List.filter_congr fun j _ => ?_
      cases arena.node? j with
      | none => rfl
      | some child => simp [Bool.and_comm]

theorem lt_of_mem_declarationsBelow {j : Nat} (listed : j ∈ arena.declarationsBelow i) : i < j := by
  rw [linked.declarationsBelow_eq] at listed
  obtain ⟨child, there, parent, -⟩ := mem_offspring.1 listed
  exact linked.parents j i child there parent

theorem treeWithin_eq {levels levels' i : Nat} (enough : arena.size ≤ i + levels)
    (enough' : arena.size ≤ i + levels') :
    arena.treeWithin levels i = arena.treeWithin levels' i := by
  -- Below a node there are no more levels than nodes behind it.
  have leaf : arena.size ≤ i → arena.declarationsBelow i = [] := by
    intro outside
    rw [declarationsBelow, node?, Array.getElem?_eq_none outside]
  induction levels generalizing i levels' with
  | zero =>
      cases levels' with
      | zero => rfl
      | succ levels' => rw [treeWithin, treeWithin, leaf (by omega), List.map_nil]
  | succ levels ih =>
      cases levels' with
      | zero => rw [treeWithin, treeWithin, leaf (by omega), List.map_nil]
      | succ levels' =>
          rw [treeWithin, treeWithin]
          congr 1
          refine List.map_congr_left fun j listed => ?_
          have behind := linked.lt_of_mem_declarationsBelow listed
          refine ih (by omega) (by omega) fun outside => ?_
          rw [declarationsBelow, node?, Array.getElem?_eq_none outside]

theorem tree_eq {node : ArenaNode} (there : arena.node? i = some node) :
    arena.tree i = ⟨node.declaration, (arena.offspring i).map arena.tree⟩ := by
  have deeper : arena.tree i = arena.treeWithin (arena.size + 1) i :=
    linked.treeWithin_eq (by omega) (by omega)
  rw [deeper, treeWithin, there, linked.declarationsBelow_eq]
  rfl

end Linked

/-- The positions on the way from a root down to a node, each that of the parent of the next. -/
inductive Ancestry (arena : Arena) : List Nat → Nat → Prop
  | root {i : Nat} {node : ArenaNode} (there : arena.node? i = some node)
      (top : node.parent = none) : Ancestry arena [i] i
  | child {line : List Nat} {p i : Nat} {node : ArenaNode} (above : Ancestry arena line p)
      (there : arena.node? i = some node) (parent : node.parent = some p) :
      Ancestry arena (line ++ [i]) i

namespace Ancestry

variable {line : List Nat}

theorem le (ancestry : arena.Ancestry line i) (linked : arena.Linked) : ∀ j ∈ line, j ≤ i := by
  induction ancestry with
  | root there top => exact fun j listed => Nat.le_of_eq (List.mem_singleton.1 listed)
  | @child line p i node above there parent ih =>
      intro j listed
      have before := linked.parents i p node there parent
      rcases List.mem_append.1 listed with earlier | last
      · exact Nat.le_of_lt (Nat.lt_of_le_of_lt (ih j earlier) before)
      · exact Nat.le_of_eq (List.mem_singleton.1 last)

theorem nodup (ancestry : arena.Ancestry line i) (linked : arena.Linked) : line.Nodup := by
  induction ancestry with
  | root there top => exact List.nodup_singleton _
  | @child line p i node above there parent ih =>
      have before := linked.parents i p node there parent
      refine List.nodup_append.2 ⟨ih, List.nodup_singleton _, fun j earlier k last => ?_⟩
      have := above.le linked j earlier
      have := List.mem_singleton.1 last
      omega

theorem lineWithin? (ancestry : arena.Ancestry line i) (linked : arena.Linked) {fuel : Nat}
    (enough : i < fuel) : arena.lineWithin? fuel i = some line.reverse := by
  induction ancestry generalizing fuel with
  | root there top =>
      obtain ⟨fuel, rfl⟩ := Nat.exists_eq_add_one_of_ne_zero (Nat.ne_zero_of_lt enough)
      simp [Arena.lineWithin?, there, top]
  | @child line p i node above there parent ih =>
      obtain ⟨fuel, rfl⟩ := Nat.exists_eq_add_one_of_ne_zero (Nat.ne_zero_of_lt enough)
      have before := linked.parents i p node there parent
      simp [Arena.lineWithin?, there, parent, ih (show p < fuel by omega)]

theorem line? (ancestry : arena.Ancestry line i) (linked : arena.Linked) {node : ArenaNode}
    (there : arena.node? i = some node) : arena.line? i = some line.reverse :=
  ancestry.lineWithin? linked (Nat.lt_succ_of_lt (lt_size there))

theorem nodup_offspring (ancestry : arena.Ancestry line i) (linked : arena.Linked) :
    (line.flatMap arena.offspring).Nodup := by
  refine List.nodup_flatMap.2 ⟨fun j _ => List.nodup_range.filter _, ?_⟩
  refine (ancestry.nodup linked).imp fun different j listed listed' => ?_
  obtain ⟨child, there, parent, -⟩ := mem_offspring.1 listed
  obtain ⟨child', there', parent', -⟩ := mem_offspring.1 listed'
  obtain rfl := Option.some.inj (there.symm.trans there')
  exact different (Option.some.inj (parent.symm.trans parent'))

end Ancestry

theorem Linked.ancestry (linked : arena.Linked) {node : ArenaNode}
    (there : arena.node? i = some node) : ∃ line, arena.Ancestry line i := by
  induction i using Nat.strongRecOn generalizing node with
  | ind i ih =>
      cases parent : node.parent with
      | none => exact ⟨[i], .root there parent⟩
      | some p =>
          have before := linked.parents i p node there parent
          have inside : p < arena.nodes.size := Nat.lt_trans before (lt_size there)
          obtain ⟨line, above⟩ := ih p before (Array.getElem?_eq_getElem inside)
          exact ⟨line ++ [i], .child above there parent⟩

theorem Ancestry.flatten {line : List Nat} (ancestry : arena.Ancestry line i)
    (linked : arena.Linked) {node : ArenaNode} (there : arena.node? i = some node)
    (name : String) : arena.flatten name i = .ok ⟨node.declaration,
      (winners arena.tree (line.flatMap arena.offspring)).map arena.tree⟩ := by
  have below : arena.declarationsBelow = arena.offspring := funext linked.declarationsBelow_eq
  have distinct := ancestry.nodup_offspring linked
  unfold Arena.flatten declarations
  rw [ancestry.line? linked there, there]
  dsimp only
  rw [List.reverse_reverse, below, mergeAll_map distinct]

/-- A registered type of an arena that crawls have found is flattened to the winners among what is
declared on the way from its root down to it, each with the tree that lies below it.  So no two of
them have the same browse name, each browse name that is declared is among theirs, a mandatory
declaration gives way only to a mandatory one before it, and the namespaces are merged apart. -/
theorem flatten_crawled (crawled : arena.Crawled) {name : String}
    (registered : arena.types[name]? = some i) :
    ∃ node line flat, arena.node? i = some node ∧ arena.Ancestry line i ∧
      arena.flatten name i = .ok flat ∧ flat.declaration = node.declaration ∧
      flat.children = (winners arena.tree (line.flatMap arena.offspring)).map arena.tree ∧
      (∀ j child, arena.node? j = some child →
        arena.tree j = ⟨child.declaration, (arena.offspring j).map arena.tree⟩) ∧
      (flat.children.map browseName).Nodup ∧
      (∀ j ∈ line.flatMap arena.offspring,
        (arena.tree j).browseName ∈ flat.children.map browseName) ∧
      (∀ front j back, line.flatMap arena.offspring = front ++ j :: back →
        (arena.tree j).isMandatory → ∃ k ∈ front ++ [j], (arena.tree k).isMandatory ∧
          flat.child? (arena.tree j).browseName = some (arena.tree k)) ∧
      ∀ uri, flat.children.filter (·.browseName.uri = uri) =
        mergeAll (((line.flatMap arena.offspring).filter fun j =>
          (arena.tree j).browseName.uri = uri).map arena.tree) := by
  have linked := crawled.sprouted.linked
  obtain ⟨node, there, -⟩ := crawled.sprouted.indexed name i registered
  obtain ⟨line, ancestry⟩ := linked.ancestry there
  have distinct := ancestry.nodup_offspring linked
  have merged : mergeAll ((line.flatMap arena.offspring).map arena.tree) =
      (winners arena.tree (line.flatMap arena.offspring)).map arena.tree := mergeAll_map distinct
  refine ⟨node, line, _, there, ancestry, ancestry.flatten linked there name, rfl, rfl,
    fun j child found => linked.tree_eq found, ?_, fun j listed => ?_, fun front j back whole
    mandatory => ?_, fun uri => ?_⟩
  · rw [← merged]
    exact nodup_mergeAll _
  · obtain ⟨w, wins⟩ : ∃ w, winner? arena.tree (line.flatMap arena.offspring)
        (arena.tree j).browseName = some w := Option.isSome_iff_exists.1 (isSome_winner? listed)
    have found : ((winners arena.tree (line.flatMap arena.offspring)).map arena.tree).find?
        (·.browseName = (arena.tree j).browseName) = some (arena.tree w) := by
      rw [find?_winners, wins, Option.map_some]
    exact List.mem_map.2 ⟨_, List.mem_of_find?_eq_some found, by simpa using List.find?_some found⟩
  · obtain ⟨w, before, mandatory', wins⟩ := winner?_of_mandatory front back mandatory
    refine ⟨w, before, mandatory', ?_⟩
    rw [child?, find?_winners, whole, wins, Option.map_some]
  · rw [mergeAll_map (distinct.filter _), winners_filter fun name => decide (name.uri = uri),
      List.filter_map]
    rfl

def machineTransport : Transport Unit where
  isConnected _ := true
  endpoints _ := pure []
  connect _ _ := pure ()
  disconnect := pure ()
  browse request := pure { references :=
    if request.referenceType = .standard Standard.hasModellingRule then
      if request.node = .standard 101 then
        [{ node := .standard 78, nodeClass := 1, browseName := ⟨0, "Mandatory"⟩ }]
      else []
    else if request.node = .standard Standard.baseObjectType then
      [{ node := .standard 100, nodeClass := 8, browseName := ⟨0, "Machine"⟩ }]
    else if request.node = .standard 100 then
      [{ node := .standard 101, nodeClass := 2, browseName := ⟨0, "Name"⟩ },
        { node := .standard 102, nodeClass := 8, browseName := ⟨0, "Press"⟩ }]
    else if request.node = .standard 102 then
      [{ node := .standard 103, nodeClass := 2, browseName := ⟨0, "Name"⟩ },
        { node := .standard 104, nodeClass := 2, browseName := ⟨0, "Force"⟩ }]
    else [] }
  browseNext _ := pure {}
  read _ := pure {}
  translate _ := pure {}
  subscribe _ _ := pure 0
  unsubscribe _ := pure ()

def machineBrowser : Browser Unit := ⟨machineTransport, .ofList [Standard.namespaceUri], 1⟩

def machineArena : Arena :=
  ((machineBrowser.discover 5 (Standard.node Standard.baseObjectType) false).result
    ⟨.empty, ()⟩).2.arena

theorem flatten_crawled_press : ∃ line flat, machineArena.Ancestry line 3 ∧
    machineArena.flatten "http://opcfoundation.org/UA/;Press" 3 = .ok flat ∧
    flat.children = (winners machineArena.tree (line.flatMap machineArena.offspring)).map
      machineArena.tree ∧
    flat.children.map (·.declaration.node.identifier) = ["i=101", "i=104"] := by
  have registered : machineArena.types["http://opcfoundation.org/UA/;Press"]? = some 3 := by
    unfold machineArena
    rw [Browser.discover_eq_forM]
    decide +kernel
  have left : (machineArena.flatten "http://opcfoundation.org/UA/;Press" 3).toOption.map
      (·.children.map (·.declaration.node.identifier)) = some ["i=101", "i=104"] := by
    unfold machineArena
    rw [Browser.discover_eq_forM]
    decide +kernel
  have crawled : machineArena.Crawled := .discover .empty _ _ _ _ _
  obtain ⟨node, line, flat, -, ancestry, flattened, -, children, -⟩ :=
    flatten_crawled crawled registered
  rw [flattened] at left
  exact ⟨line, flat, ancestry, flattened, children, Option.some.inj left⟩

end AddressSpace.Arena
