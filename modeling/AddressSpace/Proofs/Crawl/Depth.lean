import AddressSpace.Proofs.Crawl.Growth

namespace AddressSpace

namespace Arena

variable {arena grown : Arena} {maxDepth i : Nat} {id : NodeId} {ids other above : List NodeId}

theorem Lineage.unique (line : arena.Lineage i ids) (line' : arena.Lineage i other) :
    ids = other := by
  induction line generalizing other with
  | root there top =>
      cases line' with
      | root there' top' =>
          rw [there] at there'
          cases there'
          rfl
      | child there' parent' earlier' above' =>
          rw [there] at there'
          cases there'
          cases top.symm.trans parent'
  | child there parent earlier above ih =>
      cases line' with
      | root there' top' =>
          rw [there] at there'
          cases there'
          cases parent.symm.trans top'
      | child there' parent' earlier' above' =>
          rw [there] at there'
          cases there'
          cases parent.symm.trans parent'
          rw [ih above']

theorem grown_push_none (arena : Arena) (declaration : Declaration) :
    Grown arena (arena.push none declaration) := by
  intro i node there
  refine ⟨node.children, ?_⟩
  rw [node?_push_none, if_neg (Nat.ne_of_lt (lt_size there)), there]

/-- Each node is at most `maxDepth` links below a root, and one with children does not have the id
of any of its parents. -/
def Shallow (maxDepth : Nat) (arena : Arena) : Prop :=
  ∀ i node, arena.node? i = some node → ∃ above,
    arena.Lineage i (node.declaration.node :: above) ∧ above.length ≤ maxDepth ∧
      (node.children ≠ #[] → node.declaration.node ∉ above)

structure Fertile (maxDepth : Nat) (arena : Arena) (i : Nat) (id : NodeId) (above : List NodeId) :
    Prop where
  line : arena.Lineage i (id :: above)
  fresh : id ∉ above
  short : above.length < maxDepth

theorem shallow_empty : Shallow maxDepth empty := by
  intro i node there
  cases there

theorem Shallow.push (shallow : arena.Shallow maxDepth) (declaration : Declaration) :
    (arena.push none declaration).Shallow maxDepth := by
  intro i node there
  have nodes := node?_push_none arena declaration i
  rw [nodes] at there
  by_cases last : i = arena.size
  · rw [if_pos last] at there nodes
    cases there
    exact ⟨[], .root nodes rfl, Nat.zero_le _, fun _ => List.not_mem_nil⟩
  · rw [if_neg last] at there
    obtain ⟨above, line, short, fresh⟩ := shallow i node there
    exact ⟨above, line.grow (grown_push_none arena declaration), short, fresh⟩

theorem Shallow.add (shallow : arena.Shallow maxDepth) {parent : Nat}
    (fertile : arena.Fertile maxDepth parent id above) (declaration : Declaration) :
    (arena.add parent declaration).Shallow maxDepth := by
  intro i node there
  have inside := fertile.line.inside
  rw [node?_add declaration inside] at there
  by_cases last : i = arena.size
  · rw [if_pos last] at there
    cases there
    rw [last]
    exact ⟨id :: above, fertile.line.add declaration, fertile.short, fun some => absurd rfl some⟩
  · rw [if_neg last] at there
    obtain ⟨old, there', rfl⟩ := Option.map_eq_some_iff.1 there
    obtain ⟨above', line, short, fresh⟩ := shallow i old there'
    have line' := line.grow (grown_add arena parent declaration inside)
    by_cases here : parent = i
    · subst here
      -- The parent has children from now on.
      obtain ⟨same, rfl⟩ := List.cons.inj (line.unique fertile.line)
      rw [if_pos rfl]
      exact ⟨above', line', short, fun _ => same ▸ fertile.fresh⟩
    · rw [if_neg here]
      exact ⟨above', line', short, fresh⟩

theorem Fertile.grow (fertile : arena.Fertile maxDepth i id above) (more : Grown arena grown) :
    grown.Fertile maxDepth i id above :=
  ⟨fertile.line.grow more, fertile.fresh, fertile.short⟩

theorem Fertile.child {j : Nat} (fertile : arena.Fertile maxDepth i id above) {found : NodeId}
    (line : arena.Lineage j (found :: id :: above)) (deeper : above.length + 1 < maxDepth)
    (absent : arena.lineHas i found = false) :
    arena.Fertile maxDepth j found (id :: above) := by
  rw [fertile.line.lineHas, decide_eq_false_iff_not] at absent
  exact ⟨line, absent, deeper⟩

theorem fertile_root (positive : 0 < maxDepth) (arena : Arena) (declaration : Declaration) :
    (arena.push none declaration).Fertile maxDepth arena.size declaration.node [] := by
  have there := (node?_push_none arena declaration arena.size).trans (if_pos rfl)
  exact ⟨.root there rfl, List.not_mem_nil, positive⟩

inductive CrawledWithin (maxDepth : Nat) : Arena → Prop
  | empty : CrawledWithin maxDepth .empty
  | discover {σ : Type} {arena : Arena} (before : CrawledWithin maxDepth arena)
      (browser : Browser σ) (base : NodeId) (ofVariableType : Bool) (server : σ) :
      CrawledWithin maxDepth
        ((browser.discover maxDepth base ofVariableType).result ⟨arena, server⟩).2.arena

end Arena

section Crawling
open Exchange Browser

variable {σ : Type} (browser : Browser σ) (ofVariableType : Bool) {maxDepth : Nat}

def Crawl.Extends (maxDepth : Nat) (start : Arena) (crawl : Crawl σ) : Prop :=
  crawl.arena.Shallow maxDepth ∧ start.Grown crawl.arena

theorem Crawling.keeps_extends {α : Type} (exchange : Exchange σ α) (start : Arena) :
    Keeps (Crawl.Extends maxDepth start) (fun _ => True) (Crawling.onServer exchange) :=
  (keeps_true exchange).within (fun _ _ => trivial) fun _ extends' _ _ => extends'

theorem Browser.keeps_extends_enter_bind {α : Type} {start : Arena} {parent : Nat} {id : NodeId}
    {above : List NodeId} (fertile : start.Fertile maxDepth parent id above) (found : Neighbour)
    {next : Nat → Crawling σ α}
    (goesOn : ∀ i grown, start.Grown grown → grown.Lineage i (found.node :: id :: above) →
      Keeps (Crawl.Extends maxDepth grown) (fun _ => True) (next i)) :
    Keeps (Crawl.Extends maxDepth start) (fun _ => True)
      (browser.enter ofVariableType parent found >>= next) := by
  apply browser.keeps_of_enter ofVariableType (fun _ _ _ extends' => extends')
  rintro arena server rule ⟨shallow, before⟩
  let declaration := found.declaration rule ofVariableType
  have fertile' := fertile.grow before
  have after := before.trans (Arena.grown_add arena parent declaration fertile'.line.inside)
  have ends := goesOn arena.size (arena.add parent declaration) after
    (fertile'.line.add declaration) ⟨arena.add parent declaration, server⟩
    ⟨shallow.add fertile' declaration, .refl _⟩
  exact ends.imp fun crawl kept => ⟨kept.1, after.trans kept.2⟩

theorem Browser.keeps_extends_visit (levels : Nat) {start : Arena} {parent : Nat} {id : NodeId}
    {above : List NodeId} (fertile : start.Fertile maxDepth parent id above)
    (room : above.length + levels < maxDepth) (found : Neighbour) :
    Keeps (Crawl.Extends maxDepth start) (fun _ => True)
      (browser.visit ofVariableType levels parent found) := by
  induction levels generalizing start parent id above found with
  | zero =>
      apply browser.keeps_extends_enter_bind ofVariableType fertile found
      intro i grown _ _
      exact keeps_pure ()
  | succ levels ih =>
      apply browser.keeps_extends_enter_bind ofVariableType fertile found
      intro i grown after line crawl kept
      rw [bind_ok (get_apply crawl)]
      have fertile' := fertile.grow (after.trans kept.2)
      split
      · exact .ok kept
      case isFalse absent =>
        have below := fertile'.child (line.grow kept.2) (by omega) (Bool.eq_false_iff.2 absent)
        have deeper : Keeps (Crawl.Extends maxDepth crawl.arena) (fun _ => True) (do
            let found ← Crawling.onServer
              ((browser.browse found.node .instancesAndTypes).tolerate [])
            found.forM (browser.visit ofVariableType levels i)) :=
          (Crawling.keeps_extends _ _).bind fun found =>
            keeps_forM (ih below (by simp; omega)) found
        exact (deeper crawl ⟨kept.1, .refl _⟩).imp
          fun last extends' => ⟨extends'.1, kept.2.trans extends'.2⟩

theorem Browser.keeps_shallow_discover (positive : 0 < maxDepth) (base : NodeId) :
    Keeps (fun crawl : Crawl σ => crawl.arena.Shallow maxDepth) (fun _ => True)
      (browser.discover maxDepth base ofVariableType) := by
  apply browser.keeps_of_visits ofVariableType
  intro arena server root shallow
  let declaration := rootDeclaration root ofVariableType
  have fertile := Arena.fertile_root positive arena declaration
  have below : Keeps (@Crawl.Extends σ maxDepth (arena.push none declaration)) (fun _ => True) (do
      let found ← Crawling.onServer (browser.browse root .instancesAndTypes)
      found.forM (browser.visit ofVariableType (maxDepth - 1) arena.size)) :=
    (Crawling.keeps_extends _ _).bind fun found =>
      keeps_forM (browser.keeps_extends_visit ofVariableType _ fertile (by simp; omega)) found
  have ends := below ⟨arena.push none declaration, server⟩ ⟨shallow.push declaration, .refl _⟩
  exact ends.imp fun crawl kept => kept.1

theorem Arena.CrawledWithin.shallow {arena : Arena} (positive : 0 < maxDepth)
    (crawled : arena.CrawledWithin maxDepth) : arena.Shallow maxDepth := by
  induction crawled with
  | empty => exact shallow_empty
  | discover before browser base ofVariableType server ih =>
      exact (browser.keeps_shallow_discover ofVariableType positive base).result ih

end Crawling

end AddressSpace
