import AddressSpace.Proofs.Crawl.Chart
import AddressSpace.Proofs.Crawl.Growth
import Mathlib.Data.List.Nodup

namespace AddressSpace

namespace Arena

/-- What is noted about the types of an arena, in three places: the position under each name, the
node id under each name, and a mark at each position. -/
structure Books where
  positions : Std.TreeMap String Nat := ∅
  ids : Std.TreeMap String NodeId := ∅
  marked : List Nat := []

def Books.enter (books : Books) (i : Nat) (declaration : Declaration) : Books :=
  let name := typeName declaration
  if declaration.nodeClass.isType ∧ !books.positions.contains name then
    ⟨books.positions.insert name i, books.ids.insert name declaration.node, books.marked ++ [i]⟩
  else books

inductive Booked : Arena → Books → Prop
  | empty : Booked .empty {}
  | top {arena : Arena} {books : Books} (before : Booked arena books) (declaration : Declaration) :
      Booked (arena.push none declaration) books
  | child {arena : Arena} {books : Books} (before : Booked arena books) {parent : Nat}
      (inside : parent < arena.size) (declaration : Declaration) :
      Booked (arena.add parent declaration) (books.enter arena.size declaration)

variable {arena : Arena} {books : Books} {i : Nat} {name : String}

theorem Sprouted.booked (sprouted : arena.Sprouted) : ∃ books, arena.Booked books := by
  induction sprouted with
  | empty => exact ⟨_, .empty⟩
  | top before declaration ih =>
      obtain ⟨books, booked⟩ := ih
      exact ⟨books, booked.top declaration⟩
  | child before inside declaration ih =>
      obtain ⟨books, booked⟩ := ih
      exact ⟨_, booked.child inside declaration⟩

theorem Booked.sprouted (booked : arena.Booked books) : arena.Sprouted := by
  induction booked with
  | empty => exact .empty
  | top before declaration ih => exact ih.top declaration
  | child before inside declaration ih => exact ih.child inside declaration

theorem Booked.positions_eq (booked : arena.Booked books) : books.positions = arena.types := by
  induction booked with
  | empty => rfl
  | top before declaration ih => exact ih
  | @child arena books before parent inside declaration ih =>
      unfold Books.enter add
      dsimp only
      rw [ih]
      split
      · rfl
      · exact ih

theorem declaration_add {parent : Nat} (inside : parent < arena.size) (declaration : Declaration)
    (older : i < arena.size) : ((arena.add parent declaration).node? i).map (·.declaration) =
      (arena.node? i).map (·.declaration) := by
  rw [node?_add declaration inside, if_neg (Nat.ne_of_lt older), Option.map_map]
  refine congrArg (Option.map · _) (funext fun node => ?_)
  show (if parent = i then _ else _ : ArenaNode).declaration = _
  split <;> rfl

theorem Indexed.lt_size (indexed : arena.Indexed) (registered : arena.types[name]? = some i) :
    i < arena.size := by
  obtain ⟨node, there, -⟩ := indexed name i registered
  exact Arena.lt_size there

theorem Indexed.registry (indexed : arena.Indexed) (registered : arena.types[name]? = some i) :
    ∃ node, arena.node? i = some node ∧ node.isTypeNamed name ∧
      arena.registry[name]? = some node.declaration.node := by
  obtain ⟨node, there, named⟩ := indexed name i registered
  refine ⟨node, there, named, ?_⟩
  rw [registry_getElem?, registered, Option.bind_some, there, Option.map_some]

theorem registry_eq_none (absent : arena.types[name]? = none) : arena.registry[name]? = none := by
  rw [registry_getElem?, absent, Option.bind_none]

theorem registry_push_none (indexed : arena.Indexed) (declaration : Declaration) (name : String) :
    (arena.push none declaration).registry[name]? = arena.registry[name]? := by
  have types : (arena.push none declaration).types = arena.types := rfl
  rw [registry_getElem?, registry_getElem?, types]
  cases registered : arena.types[name]? with
  | none => rfl
  | some i =>
      rw [Option.bind_some, Option.bind_some, node?_push_none,
        if_neg (Nat.ne_of_lt (indexed.lt_size registered))]

theorem registry_add (indexed : arena.Indexed) {parent : Nat} (inside : parent < arena.size)
    (declaration : Declaration) (name : String) :
    (arena.add parent declaration).registry[name]? = arena.registry[name]?.or
      (if declaration.nodeClass.isType && typeName declaration == name then some declaration.node
        else none) := by
  rw [registry_getElem?, types_add]
  cases registered : arena.types[name]? with
  | none =>
      rw [registry_eq_none registered, Option.none_or, Option.none_or]
      split
      · rw [Option.bind_some, node?_add declaration inside, if_pos rfl]
        rfl
      · rfl
  | some i =>
      -- What is registered lies in the older part, where only links to children have come.
      obtain ⟨node, there, -, id⟩ := indexed.registry registered
      have same := declaration_add inside declaration (indexed.lt_size registered)
      rw [id, Option.some_or, Option.some_or, Option.bind_some]
      have ids := congrArg (Option.map (·.node)) same
      rw [Option.map_map, Option.map_map, there] at ids
      exact ids

def Enters (arena : Arena) (declaration : Declaration) : Prop :=
  declaration.nodeClass.isType ∧ !arena.types.contains (typeName declaration)

theorem Enters.absent {declaration : Declaration} (enters : arena.Enters declaration) :
    arena.types[typeName declaration]? = none := by
  refine Std.TreeMap.getElem?_eq_none fun present => ?_
  have unregistered := enters.2
  rw [Std.TreeMap.mem_iff_contains.1 present] at unregistered
  cases unregistered

theorem registered_of_not_enters {declaration : Declaration} (stays : ¬ arena.Enters declaration)
    (named : declaration.nodeClass.isType && typeName declaration == name) :
    ∃ i, arena.types[name]? = some i := by
  obtain ⟨isType, same⟩ := Bool.and_eq_true_iff.1 named
  obtain rfl := eq_of_beq same
  have present : arena.types.contains (typeName declaration) := by
    simpa [Enters, isType] using stays
  exact ⟨_, Std.TreeMap.getElem?_eq_some_getElem present⟩

theorem Booked.ids_eq (booked : arena.Booked books) (name : String) :
    books.ids[name]? = arena.registry[name]? := by
  induction booked with
  | empty => rw [registry_getElem?]; rfl
  | top before declaration ih => rw [ih, registry_push_none before.sprouted.indexed]
  | @child arena books before parent inside declaration ih =>
      have indexed := before.sprouted.indexed
      rw [registry_add indexed inside, ← ih]
      unfold Books.enter
      dsimp only
      rw [before.positions_eq]
      split
      case isTrue enters =>
        rw [Std.TreeMap.getElem?_insert, enters.1]
        by_cases same : typeName declaration = name
        · subst same
          rw [ih, registry_eq_none (Enters.absent enters)]
          simp
        · simp [same]
      case isFalse stays =>
        by_cases named : declaration.nodeClass.isType && typeName declaration == name
        · obtain ⟨i, registered⟩ := registered_of_not_enters stays named
          obtain ⟨node, -, -, id⟩ := indexed.registry registered
          rw [ih, id, Option.some_or]
        · rw [if_neg named, Option.or_none]

theorem Booked.mem_marked_iff (booked : arena.Booked books) (i : Nat) :
    i ∈ books.marked ↔ ∃ name : String, arena.types[name]? = some i := by
  induction booked with
  | empty => simp [Arena.empty]
  | top before declaration ih => exact ih
  | @child arena books before parent inside declaration ih =>
      have types := types_add arena parent declaration
      unfold Books.enter
      dsimp only
      rw [before.positions_eq]
      split
      case isTrue enters =>
        rw [List.mem_append, ih, List.mem_singleton]
        constructor
        · rintro (⟨name, registered⟩ | rfl)
          · exact ⟨name, by rw [types, registered, Option.some_or]⟩
          · refine ⟨typeName declaration, ?_⟩
            rw [types, Enters.absent enters, enters.1]
            simp
        · rintro ⟨name, registered⟩
          rw [types] at registered
          rcases Option.or_eq_some_iff.1 registered with older | ⟨-, newer⟩
          · exact .inl ⟨name, older⟩
          · split at newer <;> cases newer
            exact .inr rfl
      case isFalse stays =>
        rw [ih]
        refine exists_congr fun name => ?_
        rw [types]
        by_cases named : declaration.nodeClass.isType && typeName declaration == name
        · obtain ⟨i, registered⟩ := registered_of_not_enters stays named
          rw [registered, Option.some_or]
        · rw [if_neg named, Option.or_none]

theorem Booked.nodup_marked (booked : arena.Booked books) : books.marked.Nodup := by
  induction booked with
  | empty => exact .nil
  | top before declaration ih => exact ih
  | @child arena books before parent inside declaration ih =>
      unfold Books.enter
      dsimp only
      split
      · refine List.nodup_append.2 ⟨ih, List.nodup_singleton _, fun i marked j last => ?_⟩
        obtain rfl := List.mem_singleton.1 last
        obtain ⟨name, registered⟩ := (before.mem_marked_iff i).1 marked
        exact Nat.ne_of_lt (before.sprouted.indexed.lt_size registered)
      · exact ih

theorem Indexed.isRegistered_iff (indexed : arena.Indexed) (i : Nat) :
    arena.isRegistered i ↔ ∃ name : String, arena.types[name]? = some i := by
  unfold isRegistered typeIndex?
  constructor
  · intro registered
    cases there : arena.node? i with
    | none => rw [there] at registered; cases registered
    | some node =>
        rw [there] at registered
        exact ⟨_, eq_of_beq (Bool.and_eq_true_iff.1 registered).2⟩
  · rintro ⟨name, registered⟩
    obtain ⟨node, there, named⟩ := indexed name i registered
    obtain ⟨isType, same⟩ := Bool.and_eq_true_iff.1 named
    rw [there]
    dsimp only
    rw [isType, eq_of_beq same, registered, beq_self_eq_true]
    rfl

structure Consistent (arena : Arena) : Prop extends arena.Linked where
  keys : ∀ name : String, name ∈ arena.registry ↔ name ∈ arena.types
  indexed : ∀ (name : String) i, arena.types[name]? = some i →
    ∃ node, arena.node? i = some node ∧ node.declaration.nodeClass.isType ∧
      toString node.declaration.browseName = name ∧
      arena.registry[name]? = some node.declaration.node
  once : ∀ (name other : String) i, arena.types[name]? = some i → arena.types[other]? = some i →
    name = other
  marked : ∀ i, arena.isRegistered i ↔ ∃ name : String, arena.types[name]? = some i
  kept : ∃ books, arena.Booked books
  booked : ∀ books, arena.Booked books → books.positions = arena.types ∧
    (∀ name : String, books.ids[name]? = arena.registry[name]?) ∧
    books.marked.Nodup ∧ ∀ i, i ∈ books.marked ↔ arena.isRegistered i

theorem Sprouted.consistent (sprouted : arena.Sprouted) : arena.Consistent := by
  have indexed := sprouted.indexed
  have entry (name : String) (i : Nat) (registered : arena.types[name]? = some i) :
      ∃ node, arena.node? i = some node ∧ node.declaration.nodeClass.isType ∧
        toString node.declaration.browseName = name ∧
        arena.registry[name]? = some node.declaration.node := by
    obtain ⟨node, there, named, id⟩ := indexed.registry registered
    obtain ⟨isType, same⟩ := Bool.and_eq_true_iff.1 named
    exact ⟨node, there, isType, eq_of_beq same, id⟩
  refine { sprouted.linked with
    keys := fun name => ?_
    indexed := entry
    once := fun name other i registered registered' => ?_
    marked := indexed.isRegistered_iff
    kept := sprouted.booked
    booked := fun books booked => ?_ }
  · rw [Std.TreeMap.mem_iff_isSome_getElem?, Std.TreeMap.mem_iff_isSome_getElem?]
    cases registered : arena.types[name]? with
    | none => rw [registry_eq_none registered]; rfl
    | some i =>
        obtain ⟨node, -, -, id⟩ := indexed.registry registered
        rw [id]
        rfl
  · obtain ⟨node, there, -, named, -⟩ := entry name i registered
    obtain ⟨node', there', -, named', -⟩ := entry other i registered'
    obtain rfl := Option.some.inj (there.symm.trans there')
    exact named.symm.trans named'
  · refine ⟨booked.positions_eq, booked.ids_eq, booked.nodup_marked, fun i => ?_⟩
    rw [booked.mem_marked_iff, indexed.isRegistered_iff]

end Arena

end AddressSpace
