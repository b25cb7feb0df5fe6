import AddressSpace.Proofs.Crawl.Books
import AddressSpace.Proofs.Crawl.Flatten
import AddressSpace.Proofs.TypeLibrary

namespace AddressSpace

variable {arena : Arena} {i : Nat} {line : List Nat}

namespace Arena

def Has (arena : Arena) (i : Nat) (id : NodeId) : Prop :=
  ∃ line, arena.Ancestry line i ∧
    ∃ j ∈ line, ∃ node, arena.node? j = some node ∧ node.declaration.node = id

theorem Ancestry.unique {other : List Nat} (ancestry : arena.Ancestry line i)
    (ancestry' : arena.Ancestry other i) (linked : arena.Linked) : line = other := by
  have found := ancestry.lineWithin? linked (Nat.lt_succ_self i)
  rw [ancestry'.lineWithin? linked (Nat.lt_succ_self i)] at found
  exact (List.reverse_injective (Option.some.inj found)).symm

theorem Linked.lineHas_iff (linked : arena.Linked) (inside : i < arena.size) (id : NodeId) :
    arena.lineHas i id ↔ arena.Has i id := by
  have there : arena.node? i = some arena.nodes[i] := Array.getElem?_eq_getElem inside
  obtain ⟨line, ancestry⟩ := linked.ancestry there
  have has : arena.lineHas i id ↔
      ∃ j ∈ line, ∃ node, arena.node? j = some node ∧ node.declaration.node = id := by
    unfold lineHas
    rw [ancestry.line? linked there]
    simp [List.any_eq_true, Option.any_eq_true]
  rw [has]
  constructor
  · intro listed
    exact ⟨line, ancestry, listed⟩
  · rintro ⟨other, ancestry', listed⟩
    rwa [ancestry.unique ancestry' linked]

end Arena

namespace Browser
open Exchange

variable {σ : Type} (browser : Browser σ) (check : Arena → Nat → NodeId → Bool)
  (ofVariableType : Bool)

def visitBy : (levels : Nat) → (parent : Nat) → Neighbour → Crawling σ Unit
  | 0, parent, found => do
    let _ ← browser.enter ofVariableType parent found
  | levels + 1, parent, found => do
    let i ← browser.enter ofVariableType parent found
    if check (← get).arena parent found.node then pure ()
    else
      let below ← Crawling.onServer ((browser.browse found.node .instancesAndTypes).tolerate [])
      below.forM (visitBy levels i)

def discoverBy (maxDepth : Nat) (base : NodeId) : Crawling σ Unit := do
  let base ← Exchange.ofExcept (browser.namespaces.canonical base)
  let root ← Crawling.addRoot (rootDeclaration base ofVariableType)
  let found ← Crawling.onServer (browser.browse base .instancesAndTypes)
  found.forM (browser.visitBy check ofVariableType (maxDepth - 1) root)

variable {browser check ofVariableType}

theorem enter_congr {α : Type} {parent size : Nat} (inside : parent < size) (found : Neighbour)
    {next next' : Nat → Crawling σ α}
    (same : ∀ i crawl, size ≤ i → Crawl.Sprouted (i + 1) crawl → next i crawl = next' i crawl)
    {crawl : Crawl σ} (sprouted : crawl.Sprouted size) :
    (browser.enter ofVariableType parent found >>= next) crawl =
      (browser.enter ofVariableType parent found >>= next') crawl := by
  unfold enter
  rw [bind_assoc, bind_assoc]
  refine (Crawling.keeps_sprouted _ size).bind_congr sprouted fun rule new sprouted' => ?_
  let declaration := found.declaration rule ofVariableType
  have inside' := Nat.lt_of_lt_of_le inside sprouted'.2
  exact same new.arena.size ⟨new.arena.add parent declaration, new.server⟩ sprouted'.2
    ⟨sprouted'.1.child inside' declaration, Nat.le_of_eq (Arena.size_add ..).symm⟩

section

variable (right : ∀ arena : Arena, arena.Sprouted → ∀ i < arena.size, ∀ id,
  check arena i id = arena.lineHas i id)
include right

theorem visitBy_eq (levels : Nat) {parent size : Nat} (inside : parent < size) (found : Neighbour)
    {crawl : Crawl σ} (sprouted : crawl.Sprouted size) :
    browser.visitBy check ofVariableType levels parent found crawl =
      browser.visit ofVariableType levels parent found crawl := by
  induction levels generalizing parent size found crawl with
  | zero => rfl
  | succ levels ih =>
      rw [visitBy, visit]
      -- After the node has been entered both crawls are in one state, and ask their checks there.
      refine enter_congr inside found (fun i entered later sprouted => ?_) sprouted
      have inside' : parent < entered.arena.size := by
        have := sprouted.2
        omega
      rw [bind_ok (get_apply _), bind_ok (get_apply _),
        right entered.arena sprouted.1 parent inside' found.node]
      split
      · rfl
      · refine (Crawling.keeps_sprouted _ (i + 1)).bind_congr sprouted fun below new sprouted => ?_
        exact keeps_forM_congr
          (browser.keeps_sprouted_visit ofVariableType levels (Nat.lt_succ_self i))
          (fun found _ => ih (Nat.lt_succ_self i) found) below sprouted

theorem discoverBy_eq (maxDepth : Nat) (base : NodeId) {crawl : Crawl σ}
    (sprouted : crawl.arena.Sprouted) :
    browser.discoverBy check ofVariableType maxDepth base crawl =
      browser.discover maxDepth base ofVariableType crawl := by
  rw [discover_eq_forM, discoverBy]
  cases browser.namespaces.canonical base with
  | error cause => rfl
  | ok root =>
      let declaration := rootDeclaration root ofVariableType
      have planted : Crawl.Sprouted (crawl.arena.size + 1)
          (⟨crawl.arena.push none declaration, crawl.server⟩ : Crawl σ) :=
        ⟨.top sprouted declaration, Nat.le_of_eq (Arena.size_push_none ..).symm⟩
      rw [bind_ok (ofExcept_ok root _), bind_ok (ofExcept_ok root _)]
      have added : (Crawling.addRoot declaration : Crawling σ Nat) crawl =
          .ok crawl.arena.size ⟨crawl.arena.push none declaration, crawl.server⟩ := rfl
      rw [bind_ok added, bind_ok added]
      refine (Crawling.keeps_sprouted _ _).bind_congr planted fun found new sprouted => ?_
      have inside := Nat.lt_succ_self crawl.arena.size
      exact keeps_forM_congr (browser.keeps_sprouted_visit ofVariableType _ inside)
        (fun neighbour _ => visitBy_eq right _ inside neighbour) found sprouted

end

end Browser

namespace TypeMap

theorem contains_eq_isSome (map : TypeMap) (name : String) :
    map.contains name = (map.get? name).isSome :=
  Std.TreeMap.contains_eq_isSome_getElem?

theorem contains_insert_of_ne (map : TypeMap) {name other : String} (different : name ≠ other)
    (entry : Descriptor) : (map.insert name entry).2.contains other = map.contains other := by
  rw [contains_eq_isSome, contains_eq_isSome, get?_insert, if_neg different, Option.or_none]

theorem fst_insert (map : TypeMap) (name : String) (entry : Descriptor) :
    (map.insert name entry).1 = !map.contains name := by
  unfold insert
  cases map.contains name <;> rfl

theorem size_insert (map : TypeMap) (name : String) (entry : Descriptor) :
    (map.insert name entry).2.size = map.size + (map.insert name entry).1.toNat := by
  by_cases present : map.contains name
  · rw [insert, if_pos present]
    rfl
  · rw [insert, if_neg present, size, Std.TreeMap.size_insert]
    exact if_neg present

variable {ε : Type} (chosen : String × ε → Option Descriptor)

def lacking (map : TypeMap) (entries : List (String × ε)) : List (String × ε) :=
  entries.filter fun entry => (chosen entry).isSome && !map.contains entry.1

theorem lacking_insert (map : TypeMap) {name : String} {entries : List (String × ε)}
    (absent : name ∉ entries.map (·.1)) (entry : Descriptor) :
    (map.insert name entry).2.lacking chosen entries = map.lacking chosen entries := by
  refine List.filter_congr fun other listed => ?_
  have different : name ≠ other.1 := by
    rintro rfl
    exact absent (List.mem_map_of_mem listed)
  rw [contains_insert_of_ne map different]

theorem foldl_insertChosen (entries : List (String × ε))
    (distinct : (entries.map (·.1)).Nodup) (count : Nat) (map : TypeMap) :
    (entries.foldl (insertChosen chosen) (count, map)).1 =
        count + (map.lacking chosen entries).length ∧
      (entries.foldl (insertChosen chosen) (count, map)).2.size =
        map.size + (map.lacking chosen entries).length := by
  induction entries generalizing count map with
  | nil => exact ⟨rfl, rfl⟩
  | cons entry rest ih =>
      rw [List.map_cons, List.nodup_cons] at distinct
      rw [List.foldl_cons, insertChosen, lacking, List.filter_cons]
      cases is : chosen entry with
      | none => exact ih distinct.2 count map
      | some descriptor =>
          dsimp only [Option.elim_some]
          obtain ⟨counts, size⟩ := ih distinct.2
            (count + (map.insert entry.1 descriptor).1.toNat) (map.insert entry.1 descriptor).2
          -- No other entry has this name, so the rest lacks what it has lacked before.
          rw [lacking_insert chosen map distinct.1] at counts size
          rw [counts, size, size_insert, fst_insert]
          by_cases present : map.contains entry.1
          · simp [present, lacking]
          · simp [present, lacking]
            omega

end TypeMap

namespace Arena

theorem nodup_registered (arena : Arena) : (arena.registered.map (·.1)).Nodup := by
  refine List.pairwise_map.2 (List.Pairwise.filterMap _ ?_ Std.TreeMap.distinct_keys_toList)
  rintro ⟨name, i⟩ ⟨name', i'⟩ different entry is entry' is'
  obtain ⟨node, -, rfl⟩ := Option.map_eq_some_iff.1 is
  obtain ⟨node', -, rfl⟩ := Option.map_eq_some_iff.1 is'
  exact fun same => different (Std.compare_eq_iff_eq.2 same)

theorem count_build (arena : Arena) (uri : String) (map : TypeMap) :
    let missing := (map.lacking (arena.flattened? uri) arena.registered).map (·.1)
    missing.Nodup ∧ (arena.build uri map).1 = missing.length ∧
      (arena.build uri map).2.size = map.size + missing.length := by
  have distinct := arena.nodup_registered
  obtain ⟨counts, size⟩ :=
    TypeMap.foldl_insertChosen (arena.flattened? uri) arena.registered distinct 0 map
  dsimp only
  rw [List.length_map, build_eq_foldl]
  rw [Nat.zero_add] at counts
  exact ⟨distinct.sublist (List.filter_sublist.map _), counts, size⟩

theorem Linked.mem_lacking_iff (linked : arena.Linked) (uri : String) (map : TypeMap)
    (name : String) : name ∈ (map.lacking (arena.flattened? uri) arena.registered).map (·.1) ↔
      map.get? name = none ∧ ∃ i node, arena.types[name]? = some i ∧ arena.node? i = some node ∧
        node.declaration.node.uri = uri := by
  have flattens (i : Nat) (node : ArenaNode) (there : arena.node? i = some node) :
      (arena.flattened? uri (name, i, node)).isSome ↔ node.declaration.node.uri = uri := by
    obtain ⟨entry, flattened, -⟩ := linked.flatten name there
    unfold flattened?
    rw [flattened]
    split
    case isTrue here => exact iff_of_true rfl here
    case isFalse elsewhere => exact iff_of_false Bool.false_ne_true elsewhere
  unfold TypeMap.lacking
  simp only [List.mem_map, List.mem_filter, Prod.exists, exists_and_right, exists_eq_right,
    Bool.and_eq_true, Bool.not_eq_true', TypeMap.contains_eq_isSome, Option.isSome_eq_false_iff,
    Option.isNone_iff_eq_none, mem_registered]
  constructor
  · rintro ⟨i, node, ⟨registered, there⟩, wanted, absent⟩
    exact ⟨absent, i, node, registered, there, (flattens i node there).1 wanted⟩
  · rintro ⟨absent, i, node, registered, there, wanted⟩
    exact ⟨i, node, ⟨registered, there⟩, (flattens i node there).2 wanted, absent⟩

theorem get?_build_of_none {uri : String} {map : TypeMap} {name : String}
    (absent : map.get? name = none) (flat : Descriptor) :
    (arena.build uri map).2.get? name = some flat ↔ ∃ i node, arena.types[name]? = some i ∧
      arena.node? i = some node ∧ node.declaration.node.uri = uri ∧
      arena.flatten name i = .ok flat := by
  rw [get?_build, absent, Option.none_or, staged?_eq_some]
  simp only [mem_registered, List.mem_singleton, and_assoc]

/-- Whatever an arena has been crawled from, its links and its types belong together.  A registered
type is flattened, a check for cycles says just whether the id is on the line, so that the crawls
would have gone the same way by any other right check, and a tree is whole.  A map of a namespace is
built by inserting its registered types under the names that the map does not have. -/
theorem crawled_consistent (crawled : arena.Crawled) :
    arena.Consistent ∧
    (∀ (name : String) i, arena.types[name]? = some i → ∃ flat, arena.flatten name i = .ok flat) ∧
    ((∀ i < arena.size, ∀ id, arena.lineHas i id ↔ arena.Has i id) ∧
      ∀ {σ : Type} (browser : Browser σ) (check : Arena → Nat → NodeId → Bool),
        (∀ arena : Arena, arena.Sprouted → ∀ i < arena.size, ∀ id,
          check arena i id ↔ arena.Has i id) →
        ∀ ofVariableType maxDepth base server,
          browser.discoverBy check ofVariableType maxDepth base ⟨arena, server⟩ =
            browser.discover maxDepth base ofVariableType ⟨arena, server⟩) ∧
    ((∀ i node, arena.node? i = some node →
        arena.tree i = ⟨node.declaration, (arena.offspring i).map arena.tree⟩) ∧
      ∀ i, ∀ j ∈ arena.offspring i, i < j) ∧
    ∀ uri map,
      (∀ name entry, map.get? name = some entry →
        (arena.build uri map).2.get? name = some entry) ∧
      (∀ name, map.get? name = none → ∀ flat, (arena.build uri map).2.get? name = some flat ↔
        ∃ i node, arena.types[name]? = some i ∧ arena.node? i = some node ∧
          node.declaration.node.uri = uri ∧ arena.flatten name i = .ok flat) ∧
      ∃ inserted : List String, inserted.Nodup ∧
        (∀ name, name ∈ inserted ↔ map.get? name = none ∧
          ∃ i node, arena.types[name]? = some i ∧ arena.node? i = some node ∧
            node.declaration.node.uri = uri) ∧
        (arena.build uri map).1 = inserted.length ∧
        (arena.build uri map).2.size = map.size + inserted.length := by
  have sprouted := crawled.sprouted
  have consistent := sprouted.consistent
  have linked := consistent.toLinked
  refine ⟨consistent, fun name i registered => ?_,
    ⟨fun i inside => linked.lineHas_iff inside,
      fun browser check right ofVariableType maxDepth base server => ?_⟩,
    ⟨fun i node there => linked.tree_eq there, fun i j below => ?_⟩,
    fun uri map => ⟨fun name entry present => ?_, fun name absent => get?_build_of_none absent, ?_⟩⟩
  · obtain ⟨node, there, -⟩ := consistent.indexed name i registered
    obtain ⟨flat, flattens, -⟩ := linked.flatten name there
    exact ⟨flat, flattens⟩
  · refine Browser.discoverBy_eq (fun arena sprouted i inside id => ?_) maxDepth base sprouted
    exact Bool.eq_iff_iff.2 ((right arena sprouted i inside id).trans
      (sprouted.linked.lineHas_iff inside id).symm)
  · obtain ⟨child, there, parent, -⟩ := mem_offspring.1 below
    exact consistent.parents j i child there parent
  · rw [get?_build, present, Option.some_or]
  · obtain ⟨distinct, counts, size⟩ := arena.count_build uri map
    exact ⟨_, distinct, linked.mem_lacking_iff uri map, counts, size⟩

/-- A server that has one of the types of the machines again, and that is lost below a new one. -/
def fadingTransport : Transport Unit :=
  { machineTransport with
    browse := fun request =>
      if request.node = .standard Standard.baseDataVariableType then
        pure { references := [
          { node := .standard 100, nodeClass := 8, browseName := ⟨0, "Machine"⟩ },
          { node := .standard 110, nodeClass := 16, browseName := ⟨0, "Gauge"⟩ }] }
      else if request.node = .standard 110 then Exchange.fail ConnectionError.notConnected
      else pure {} }

def fadingBrowser : Browser Unit := ⟨fadingTransport, .ofList [Standard.namespaceUri], 1⟩

def fadingCrawl : Except Error Unit × Crawl Unit :=
  (fadingBrowser.discover 5 (Standard.node Standard.baseDataVariableType) true).result
    ⟨machineArena, ()⟩

theorem crawled_consistent_fading :
    let map := (machineArena.build Standard.namespaceUri .empty).2
    (fadingCrawl.1.toOption = none ∧ fadingCrawl.2.arena.size = 9) ∧
    fadingCrawl.2.arena.Consistent ∧
    (fadingCrawl.2.arena.build Standard.namespaceUri map).1 = 1 ∧
    (fadingCrawl.2.arena.build Standard.namespaceUri map).2.size = map.size + 1 := by
  intro map
  have lost : fadingCrawl.1.toOption = none ∧ fadingCrawl.2.arena.size = 9 := by
    unfold fadingCrawl machineArena
    rw [Browser.discover_eq_forM, Browser.discover_eq_forM]
    decide +kernel
  have one : (fadingCrawl.2.arena.build Standard.namespaceUri map).1 = 1 := by
    unfold map fadingCrawl machineArena
    rw [Browser.discover_eq_forM, Browser.discover_eq_forM]
    decide +kernel
  have crawled : fadingCrawl.2.arena.Crawled := .discover (.discover .empty _ _ _ _ _) _ _ _ _ _
  obtain ⟨consistent, -, -, -, builds⟩ := crawled_consistent crawled
  obtain ⟨-, -, inserted, -, -, counts, size⟩ := builds Standard.namespaceUri map
  have single : inserted.length = 1 := by
    rw [counts] at one
    exact one
  rw [single] at size
  exact ⟨lost, consistent, one, size⟩

end Arena

end AddressSpace
