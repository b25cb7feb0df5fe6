import AddressSpace.Proofs.Crawl.Descent
import AddressSpace.Proofs.Crawl.Lineage

namespace AddressSpace

namespace Arena

inductive Sprouted : Arena → Prop
  | empty : Sprouted .empty
  | top {arena : Arena} (before : Sprouted arena) (declaration : Declaration) :
      Sprouted (arena.push none declaration)
  | child {arena : Arena} (before : Sprouted arena) {parent : Nat} (inside : parent < arena.size)
      (declaration : Declaration) : Sprouted (arena.add parent declaration)

/-- An arena that some crawls have found, one after the other and each to whatever end. -/
inductive Crawled : Arena → Prop
  | empty : Crawled .empty
  | discover {σ : Type} {arena : Arena} (before : Crawled arena) (browser : Browser σ)
      (maxDepth : Nat) (base : NodeId) (ofVariableType : Bool) (server : σ) :
      Crawled ((browser.discover maxDepth base ofVariableType).result ⟨arena, server⟩).2.arena

variable {arena : Arena}

theorem Sprouted.linked (sprouted : arena.Sprouted) : arena.Linked := by
  induction sprouted with
  | empty => exact linked_empty
  | top before declaration ih => exact ih.push declaration
  | child before inside declaration ih => exact ih.add declaration inside

def Indexed (arena : Arena) : Prop :=
  ∀ (name : String) i, arena.types[name]? = some i →
    ∃ node, arena.node? i = some node ∧ node.isTypeNamed name

theorem Sprouted.indexed (sprouted : arena.Sprouted) : arena.Indexed := by
  induction sprouted with
  | empty =>
      intro name i registered
      rw [Arena.empty, Std.TreeMap.getElem?_emptyc] at registered
      cases registered
  | @top arena before declaration ih =>
      intro name i registered
      obtain ⟨node, there, named⟩ := ih name i registered
      refine ⟨node, ?_, named⟩
      rw [node?_push_none, if_neg (Nat.ne_of_lt (lt_size there)), there]
  | @child arena before parent inside declaration ih =>
      intro name i registered
      rw [types_add] at registered
      rw [node?_add declaration inside]
      rcases Option.or_eq_some_iff.1 registered with older | ⟨-, newer⟩
      · obtain ⟨node, there, named⟩ := ih name i older
        rw [if_neg (Nat.ne_of_lt (lt_size there)), there]
        refine ⟨_, rfl, ?_⟩
        split
        · exact named
        · exact named
      · split at newer
        case isTrue named =>
          cases newer
          exact ⟨_, if_pos rfl, named⟩
        case isFalse => cases newer

end Arena

section Crawling
open Exchange Browser

variable {σ : Type} (browser : Browser σ) (ofVariableType : Bool)

def Crawl.Sprouted (size : Nat) (crawl : Crawl σ) : Prop :=
  crawl.arena.Sprouted ∧ size ≤ crawl.arena.size

theorem Crawling.keeps_sprouted {α : Type} (exchange : Exchange σ α) (size : Nat) :
    Keeps (Crawl.Sprouted size) (fun _ => True) (Crawling.onServer exchange) :=
  (keeps_true exchange).within (fun _ _ => trivial) fun _ sprouted _ _ => sprouted

theorem Browser.keeps_of_enter {α : Type} {P : Crawl σ → Prop} {parent : Nat} {found : Neighbour}
    {next : Nat → Crawling σ α}
    (served : ∀ arena server new, P ⟨arena, server⟩ → P ⟨arena, new⟩)
    (goesOn : ∀ arena server rule, P ⟨arena, server⟩ → EndsIn P (fun _ => True)
      (next arena.size ⟨arena.add parent (found.declaration rule ofVariableType), server⟩)) :
    Keeps P (fun _ => True) (browser.enter ofVariableType parent found >>= next) := by
  have ruled : Keeps P (fun _ => True) (Crawling.onServer (browser.ruleOf found)) :=
    (keeps_true _).within (fun _ _ => trivial) fun crawl kept new _ => served _ _ new kept
  unfold Browser.enter
  rw [bind_assoc]
  apply ruled.bind
  intro rule crawl kept
  exact goesOn crawl.arena crawl.server rule kept

theorem Browser.keeps_enter_bind {α : Type} {parent size : Nat} (inside : parent < size)
    (found : Neighbour) {next : Nat → Crawling σ α}
    (goesOn : ∀ i, size ≤ i → Keeps (Crawl.Sprouted (i + 1)) (fun _ => True) (next i)) :
    Keeps (Crawl.Sprouted size) (fun _ => True)
      (browser.enter ofVariableType parent found >>= next) := by
  apply browser.keeps_of_enter ofVariableType (fun _ _ _ sprouted => sprouted)
  rintro arena server rule ⟨sprouted, grown⟩
  dsimp only at sprouted grown
  have inside' : parent < arena.size := Nat.lt_of_lt_of_le inside grown
  let declaration := found.declaration rule ofVariableType
  have larger := Arena.size_add arena parent declaration
  have ends := goesOn arena.size grown ⟨arena.add parent declaration, server⟩
    ⟨sprouted.child inside' declaration, Nat.le_of_eq larger.symm⟩
  exact ends.imp fun crawl kept => ⟨kept.1, by have := kept.2; omega⟩

theorem Browser.keeps_sprouted_visit (levels : Nat) {parent size : Nat} (inside : parent < size)
    (found : Neighbour) : Keeps (Crawl.Sprouted size) (fun _ => True)
      (browser.visit ofVariableType levels parent found) := by
  induction levels generalizing parent size found with
  | zero => exact browser.keeps_enter_bind ofVariableType inside found fun _ _ => keeps_pure ()
  | succ levels ih =>
      refine browser.keeps_enter_bind ofVariableType inside found fun i _ => ?_
      refine keeps_get.bind fun crawl => keeps_ite (keeps_pure ()) ?_
      exact (Crawling.keeps_sprouted _ _).bind fun below =>
        keeps_forM (ih (Nat.lt_succ_self i)) below

theorem Browser.keeps_of_visits {P : Crawl σ → Prop} {maxDepth : Nat} {base : NodeId}
    (goesOn : ∀ arena server root, P ⟨arena, server⟩ → EndsIn P (fun _ => True) ((do
      let found ← Crawling.onServer (browser.browse root .instancesAndTypes)
      found.forM (browser.visit ofVariableType (maxDepth - 1) arena.size) : Crawling σ Unit)
        ⟨arena.push none (rootDeclaration root ofVariableType), server⟩)) :
    Keeps P (fun _ => True) (browser.discover maxDepth base ofVariableType) := by
  rw [discover_eq_forM]
  apply (keeps_ofExcept fun _ _ => trivial).bind
  intro root crawl kept
  exact goesOn crawl.arena crawl.server root kept

theorem Browser.keeps_sprouted_discover (maxDepth : Nat) (base : NodeId) :
    Keeps (fun crawl : Crawl σ => crawl.arena.Sprouted) (fun _ => True)
      (browser.discover maxDepth base ofVariableType) := by
  apply browser.keeps_of_visits ofVariableType
  intro arena server root sprouted
  let declaration := rootDeclaration root ofVariableType
  have below : Keeps (@Crawl.Sprouted σ (arena.size + 1)) (fun _ => True) (do
      let found ← Crawling.onServer (browser.browse root .instancesAndTypes)
      found.forM (browser.visit ofVariableType (maxDepth - 1) arena.size)) :=
    (Crawling.keeps_sprouted _ _).bind fun found =>
      keeps_forM (browser.keeps_sprouted_visit ofVariableType _ (Nat.lt_succ_self _)) found
  have ends := below ⟨arena.push none declaration, server⟩
    ⟨.top sprouted declaration, Nat.le_of_eq (Arena.size_push_none ..).symm⟩
  exact ends.imp fun crawl kept => kept.1

theorem Arena.Crawled.sprouted {arena : Arena} (crawled : arena.Crawled) : arena.Sprouted := by
  induction crawled with
  | empty => exact .empty
  | discover before browser maxDepth base ofVariableType server ih =>
      exact (browser.keeps_sprouted_discover ofVariableType maxDepth base).result ih

end Crawling

end AddressSpace
