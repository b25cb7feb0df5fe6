import AddressSpace.Proofs.Renaming.Browser
import AddressSpace.TypeLibrary

namespace AddressSpace.Browser.Renamed
open Exchange

variable {σ τ : Type} {ρ : Equiv.Perm UInt16} {R : σ → τ → Prop} {browser : Browser σ}
  {browser' : Browser τ} (renamed : Renamed ρ R browser browser')
include renamed

def SameCrawl (R : σ → τ → Prop) (crawl : Crawl σ) (crawl' : Crawl τ) : Prop :=
  crawl'.arena = crawl.arena ∧ R crawl.server crawl'.server

omit renamed in
theorem onCrawl {α β : Type} {V : α → β → Prop} {exchange : Exchange σ α} {exchange' : Exchange τ β}
    (alike : Alike R V exchange exchange') :
    Alike (SameCrawl R) V (Crawling.onServer exchange) (Crawling.onServer exchange') :=
  alike.within (fun _ _ same => same.2) fun _ _ same _ _ related => ⟨same.1, related⟩

theorem enter (ofVariableType : Bool) (parent : Nat) (found : Neighbour) :
    Alike (SameCrawl R) Eq (browser.enter ofVariableType parent found)
      (browser'.enter ofVariableType parent found) := by
  have ruled : Alike R Eq (browser.ruleOf found) (browser'.ruleOf found) :=
    alike_ite (alike_pure rfl) ((renamed.modellingRule found.node).tolerate rfl)
  refine (onCrawl ruled).bind fun rule rule' same => ?_
  subst same
  intro crawl crawl' same
  obtain ⟨arena, server⟩ := crawl
  obtain ⟨arena', server'⟩ := crawl'
  obtain ⟨rfl, related⟩ := same
  exact .ok rfl ⟨rfl, related⟩

theorem visit (ofVariableType : Bool) (levels parent : Nat) (found : Neighbour) :
    Alike (SameCrawl R) Eq (browser.visit ofVariableType levels parent found)
      (browser'.visit ofVariableType levels parent found) := by
  induction levels generalizing parent found with
  | zero =>
      refine (renamed.enter ofVariableType parent found).bind fun i i' same => ?_
      exact alike_pure rfl
  | succ levels ih =>
      refine (renamed.enter ofVariableType parent found).bind fun i i' same => ?_
      subst same
      refine alike_get.bind fun crawl crawl' same => ?_
      rw [same.1]
      refine alike_ite (alike_pure rfl) ?_
      refine (onCrawl ((renamed.browse found.node _).tolerate rfl)).bind fun below below' same => ?_
      subst same
      exact alike_forM (ih i) below

theorem discover (maxDepth : Nat) (base : NodeId) (ofVariableType : Bool) :
    Alike (SameCrawl R) Eq (browser.discover maxDepth base ofVariableType)
      (browser'.discover maxDepth base ofVariableType) := by
  rw [discover_eq_forM, discover_eq_forM, renamed.namespaces.canonical]
  refine (alike_ofExcept (agree_rfl _)).bind fun root root' same => ?_
  subst same
  have added : Alike (SameCrawl R) Eq (Crawling.addRoot (rootDeclaration root ofVariableType))
      (Crawling.addRoot (rootDeclaration root ofVariableType)) := by
    intro crawl crawl' same
    obtain ⟨arena, server⟩ := crawl
    obtain ⟨arena', server'⟩ := crawl'
    obtain ⟨rfl, related⟩ := same
    exact .ok rfl ⟨rfl, related⟩
  refine added.bind fun i i' same => ?_
  subst same
  refine (onCrawl (renamed.browse root _)).bind fun found found' same => ?_
  subst same
  exact alike_forM (renamed.visit ofVariableType _ i) found

omit renamed in
theorem fromEmpty {crawl : Crawling σ Unit} {crawl' : Crawling τ Unit}
    (alike : Alike (SameCrawl R) Eq crawl crawl') : Alike R Eq crawl.fromEmpty crawl'.fromEmpty := by
  intro server server' related
  have ends := alike ⟨.empty, server⟩ ⟨.empty, server'⟩ ⟨rfl, related⟩
  unfold Crawling.fromEmpty
  generalize crawl ⟨.empty, server⟩ = result at ends
  generalize crawl' ⟨.empty, server'⟩ = result' at ends
  cases ends with
  | ok same found => exact .ok found.1.symm found.2
  | error found => exact .error found.2

theorem crawlTypes (maxDepth : Nat) :
    Alike R Eq (browser.crawlTypes maxDepth) (browser'.crawlTypes maxDepth) :=
  fromEmpty ((renamed.discover maxDepth _ true).bind fun _ _ _ => renamed.discover maxDepth _ false)

def SameSurvey (R : σ → τ → Prop) (survey : Surveyed σ) (survey' : Surveyed τ) : Prop :=
  survey'.superTypes = survey.superTypes ∧ R survey.server survey'.server

omit renamed in
theorem onSurvey {α β : Type} {V : α → β → Prop} {exchange : Exchange σ α}
    {exchange' : Exchange τ β} (alike : Alike R V exchange exchange') :
    Alike (SameSurvey R) V (Survey.onServer exchange) (Survey.onServer exchange') :=
  alike.within (fun _ _ same => same.2) fun _ _ same _ _ related => ⟨same.1, related⟩

theorem superType (type : NodeId) :
    Alike (SameSurvey R) Eq (browser.superType type) (browser'.superType type) := by
  refine alike_get.bind fun survey survey' same => ?_
  rw [same.1]
  cases survey.superTypes.lookup type with
  | some known => exact alike_pure rfl
  | none =>
      have fetched : Alike R Eq (browser.fetchSuperType type) (browser'.fetchSuperType type) := by
        refine (renamed.browse type _).bind fun found found' same => ?_
        subst same
        split <;> exact alike_pure rfl
      refine (onSurvey fetched).bind fun answer answer' same => ?_
      subst same
      have kept : Alike (SameSurvey R) Eq
          (modify fun survey => { survey with superTypes := (type, answer) :: survey.superTypes })
          (modify fun survey => { survey with superTypes := (type, answer) :: survey.superTypes }) :=
        alike_modify fun survey survey' same => ⟨congrArg ((type, answer) :: ·) same.1, same.2⟩
      exact kept.bind fun _ _ _ => alike_pure rfl

theorem reaches (expected : NodeId) (remaining : Nat) (current : NodeId) :
    Alike (SameSurvey R) Eq (browser.reaches expected remaining current)
      (browser'.reaches expected remaining current) := by
  induction remaining generalizing current with
  | zero => exact alike_pure rfl
  | succ remaining ih =>
      unfold Browser.reaches
      refine alike_ite (alike_pure rfl) ?_
      refine (renamed.superType current).bind fun next next' same => ?_
      subst same
      cases next with
      | none => exact alike_pure rfl
      | some next => exact ih next

theorem isSameOrSubtype (depth : Nat) (expected candidate : NodeId) :
    Alike (SameSurvey R) Eq (browser.isSameOrSubtype depth expected candidate)
      (browser'.isSameOrSubtype depth expected candidate) := by
  unfold Browser.isSameOrSubtype
  refine alike_ite (alike_pure rfl) ?_
  rw [renamed.namespaces.canonical, renamed.namespaces.canonical]
  refine (alike_ofExcept (agree_rfl _)).bind fun expected expected' same => ?_
  subst same
  refine (alike_ofExcept (agree_rfl _)).bind fun candidate candidate' same => ?_
  subst same
  exact renamed.reaches expected depth candidate

omit renamed in
theorem filterSurvey {α : Type} {ask : α → Survey σ Bool} {ask' : α → Survey τ Bool}
    (each : ∀ a, Alike (SameSurvey R) Eq (ask a) (ask' a)) (as : List α) :
    Alike (SameSurvey R) Eq (Browser.filterSurvey ask as) (Browser.filterSurvey ask' as) := by
  induction as with
  | nil => exact alike_pure rfl
  | cons a rest ih =>
      refine (each a).bind fun keep keep' same => ?_
      subst same
      refine ih.bind fun kept kept' same => ?_
      subst same
      exact alike_pure rfl

theorem browseInstances (depth : Nat) (start : NodeId) (context : BrowseContext) (type : NodeId) :
    Alike (SameSurvey R) Eq (browser.browseInstances depth start context type)
      (browser'.browseInstances depth start context type) := by
  refine (onSurvey (renamed.readNodeClass type)).bind fun typeClass typeClass' same => ?_
  subst same
  cases instanceClass? typeClass with
  | none => exact alike_fail _
  | some nodeClass =>
      refine (onSurvey (renamed.browse start _)).bind fun found found' same => ?_
      subst same
      exact filterSurvey (fun neighbour => renamed.isSameOrSubtype depth type _) found

end AddressSpace.Browser.Renamed
