import AddressSpace.Proofs.Crawl.Descent
import AddressSpace.Proofs.Keeping.Browser

namespace AddressSpace
open Exchange

variable {σ : Type} {P : σ → Prop} {E : Error → Prop}

theorem Crawling.keeps_onServer {α : Type} {exchange : Exchange σ α} (keeps : Keeps P E exchange) :
    Keeps (fun crawl => P crawl.server) E (onServer exchange) :=
  keeps.within (fun _ kept => kept) fun _ _ _ kept => kept

namespace Browser

variable {browser : Browser σ} (harmless : ∀ cause : Error, cause.isConnection = false → E cause)
  (asks : browser.transport.Asks P E)
include harmless asks

theorem keeps_enter (ofVariableType : Bool) (parent : Nat) (found : Neighbour) :
    Keeps (fun crawl => P crawl.server) E (browser.enter ofVariableType parent found) := by
  have ruled : Keeps P E (browser.ruleOf found) :=
    keeps_ite (keeps_pure _) ((keeps_modellingRule harmless asks found.node).tolerate _)
  exact (Crawling.keeps_onServer ruled).bind fun rule crawl kept => .ok kept

theorem keeps_visit (ofVariableType : Bool) (levels parent : Nat) (found : Neighbour) :
    Keeps (fun crawl => P crawl.server) E
      (browser.visit ofVariableType levels parent found) := by
  induction levels generalizing parent found with
  | zero => exact (keeps_enter harmless asks _ _ _).bind fun _ => keeps_pure ()
  | succ levels ih =>
      refine (keeps_enter harmless asks _ _ _).bind fun i => keeps_get.bind fun crawl => ?_
      refine keeps_ite (keeps_pure ()) ?_
      exact (Crawling.keeps_onServer ((keeps_browse harmless asks _ _).tolerate [])).bind
        fun below => keeps_forM (ih i) below

theorem keeps_discover_of_asks (maxDepth : Nat) (base : NodeId) (ofVariableType : Bool) :
    Keeps (fun crawl => P crawl.server) E (browser.discover maxDepth base ofVariableType) := by
  rw [discover_eq_forM]
  refine (keeps_harmless harmless (browser.namespaces.harmless_canonical base)).bind fun root => ?_
  refine Keeps.bind (fun crawl kept => .ok kept) fun i => ?_
  refine (Crawling.keeps_onServer (keeps_browse harmless asks _ _)).bind fun found => ?_
  exact keeps_forM (keeps_visit harmless asks ofVariableType _ i) found

omit asks in
theorem keeps_discover (calls : browser.transport.Keeps P E) (maxDepth : Nat) (base : NodeId)
    (ofVariableType : Bool) :
    Keeps (fun crawl => P crawl.server) E (browser.discover maxDepth base ofVariableType) :=
  keeps_discover_of_asks harmless calls.asks maxDepth base ofVariableType

end Browser

end AddressSpace
