import AddressSpace.Proofs.Exchange

namespace AddressSpace.Browser
open Exchange

variable {σ : Type} (browser : Browser σ) (ofVariableType : Bool) (maxDepth : Nat)

def visit : (levels : Nat) → (parent : Nat) → Neighbour → Crawling σ Unit
  | 0, parent, found => do
    let _ ← browser.enter ofVariableType parent found
  | levels + 1, parent, found => do
    let i ← browser.enter ofVariableType parent found
    if (← get).arena.lineHas parent found.node then pure ()
    else
      let below ← Crawling.onServer ((browser.browse found.node .instancesAndTypes).tolerate [])
      below.forM (visit levels i)

theorem enterAll_eq_forM (stack : List Pending) :
    browser.enterAll ofVariableType maxDepth stack = stack.forM fun item =>
      browser.visit ofVariableType (maxDepth - item.depth) item.parent item.found := by
  -- By the recursion of `enterAll`: `ih` is about the rest of the stack as it is, and `ihBelow`
  -- about the rest with the neighbours on top that the first one has pushed.
  induction stack using enterAll.induct maxDepth with
  | case1 => rw [enterAll]; rfl
  | case2 parent found depth stack ih ihBelow =>
      rw [enterAll, List.forM_eq_forM, List.forM_cons]
      by_cases deeper : depth < maxDepth
      · obtain ⟨levels, left⟩ : ∃ levels, maxDepth - depth = levels + 1 :=
          Nat.exists_eq_add_one_of_ne_zero (Nat.sub_ne_zero_of_lt deeper)
        have left' : maxDepth - (depth + 1) = levels := by omega
        rw [left, visit, bind_assoc]
        refine bind_congr fun i => ?_
        rw [if_pos deeper, bind_assoc]
        refine bind_congr fun state => ?_
        split
        · rw [pure_bind, ih, List.forM_eq_forM]
        · rw [bind_assoc]
          refine bind_congr fun below => ?_
          rw [ihBelow i deeper below, Pending.pushAll_eq, List.forM_eq_forM, List.forM_append,
            List.forM_map]
          simp only [left']
          rfl
      · have left : maxDepth - depth = 0 := by omega
        rw [left, visit, bind_assoc]
        refine bind_congr fun i => ?_
        rw [if_neg deeper, pure_bind, ih, List.forM_eq_forM]

theorem discover_eq_forM (base : NodeId) :
    browser.discover maxDepth base ofVariableType = (do
      let base ← Exchange.ofExcept (browser.namespaces.canonical base)
      let root ← Crawling.addRoot (rootDeclaration base ofVariableType)
      let found ← Crawling.onServer (browser.browse base .instancesAndTypes)
      found.forM (browser.visit ofVariableType (maxDepth - 1) root)) := by
  unfold discover
  refine bind_congr fun base => bind_congr fun root => bind_congr fun found => ?_
  rw [enterAll_eq_forM, Pending.pushAll_eq, List.append_nil, List.forM_eq_forM, List.forM_map]
  rfl

end AddressSpace.Browser
