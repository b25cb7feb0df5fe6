import AddressSpace.Hierarchy
import AddressSpace.Path
import AddressSpace.Proofs.Crawl.Descent
import AddressSpace.Proofs.Renaming
import Mathlib.Data.List.Forall2

namespace AddressSpace
open Exchange

variable {σ τ : Type} {ρ : Equiv.Perm UInt16} {R : σ → τ → Prop}

structure ReadAnswer.Alike (V : Value → Value → Prop) (answer answer' : ReadAnswer) : Prop where
  status : answer'.status = answer.status
  values : List.Forall₂ (fun data data' => data'.status = data.status ∧ V data.value data'.value)
    answer.values answer'.values

theorem ReadAnswer.alike_rename (answer : ReadAnswer) :
    answer.Alike (fun value value' => value' = value.rename ρ) (answer.rename ρ) := by
  refine ⟨rfl, ?_⟩
  rw [ReadAnswer.rename, List.forall₂_map_right_iff]
  exact List.forall₂_same.2 fun data _ => ⟨rfl, rfl⟩

theorem ReadAnswer.Alike.single {V : Value → Value → Prop} {answer answer' : ReadAnswer}
    (alike : answer.Alike V answer') (node : String) :
    Agree V (answer.single node) (answer'.single node) := by
  obtain ⟨status, values⟩ := answer
  obtain ⟨status', values'⟩ := answer'
  obtain ⟨rfl, related⟩ := alike
  unfold ReadAnswer.single
  dsimp only
  by_cases bad : status'.isBad
  · rw [if_pos bad, if_pos bad]
    exact .error _
  · rw [if_neg bad, if_neg bad]
    have counted := related.length_eq
    cases related with
    | nil => exact .error _
    | @cons data data' rest rest' first others =>
        cases others with
        | nil =>
            dsimp only
            rw [first.1]
            split
            · exact .error _
            · exact .ok first.2
        | cons =>
            dsimp only at counted ⊢
            rw [counted]
            exact .error _

/-- The values of two namespace arrays: an array and a permuted one, or the same value that is no
array of strings. -/
inductive SameArray (ρ : Equiv.Perm UInt16) : Value → Value → Prop
  | array {value value' : Value} {uris uris' : List String} (strings : value.strings? = some uris)
      (strings' : value'.strings? = some uris') (permuted : Permuted ρ uris uris') :
      SameArray ρ value value'
  | other {value : Value} (unreadable : value.strings? = none) : SameArray ρ value (value.rename ρ)

theorem Value.strings?_rename (value : Value) : (value.rename ρ).strings? = value.strings? := by
  have single : ∀ value : Value, (value.rename ρ).string? = value.string? := by
    intro value
    cases value <;> rfl
  have all : ∀ items : List Value, (Value.renameAll ρ items).mapM Value.string? =
      items.mapM Value.string? := by
    intro items
    induction items with
    | nil => rfl
    | cons value rest ih => rw [Value.renameAll, List.mapM_cons, List.mapM_cons, single, ih]
  cases value with
  | array items => exact all items
  | _ => rfl

theorem SameArray.table {value value' : Value} (same : SameArray ρ value value') (node : String) :
    Agree (NamespaceTable.Renamed ρ) (NamespaceTable.ofValue node value)
      (NamespaceTable.ofValue node value') := by
  unfold NamespaceTable.ofValue
  cases same with
  | array strings strings' permuted =>
      rw [strings, strings']
      exact .ok permuted.renamed_ofList
  | other unreadable =>
      rw [Value.strings?_rename, unreadable, Value.typeName_rename]
      exact .error _

def arrayRequest : List ReadRequest := [{ node := .standard Standard.namespaceArray }]

theorem map_rename_ne_arrayRequest (zero : ρ 0 = 0) {requests : List ReadRequest}
    (other : requests ≠ arrayRequest) : requests.map (·.rename ρ) ≠ arrayRequest := by
  intro renamed
  obtain ⟨⟨node, attr⟩, rfl, alone⟩ := List.map_eq_singleton_iff.1 renamed
  obtain ⟨node', rfl⟩ := (ReadRequest.mk.injEq ..).mp alone
  obtain rfl : node = _ := (WireId.rename_eq_standard zero).1 node'
  exact other rfl

/-- The second server answers each renamed request with the renamed answer of the first one, and has
a permuted namespace array. -/
structure Transport.Renamed (ρ : Equiv.Perm UInt16) (R : σ → τ → Prop) (transport : Transport σ)
    (transport' : Transport τ) : Prop where
  array : Alike R (ReadAnswer.Alike (SameArray ρ)) (transport.read arrayRequest)
    (transport'.read arrayRequest)
  read : ∀ requests, requests ≠ arrayRequest → Alike R (fun answer answer' =>
    answer' = answer.rename ρ) (transport.read requests)
      (transport'.read (requests.map (·.rename ρ)))
  browse : ∀ request, Alike R (fun page page' => page' = page.rename ρ)
    (transport.browse request) (transport'.browse (request.rename ρ))
  browseNext : ∀ point, Alike R (fun page page' => page' = page.rename ρ)
    (transport.browseNext point) (transport'.browseNext point)
  translate : ∀ request, Alike R (fun answer answer' => answer' = answer.rename ρ)
    (transport.translate request) (transport'.translate (request.rename ρ))

theorem Transport.Renamed.fetch {transport : Transport σ} {transport' : Transport τ}
    (renamed : Transport.Renamed ρ R transport transport') :
    Alike R (NamespaceTable.Renamed ρ) (NamespaceTable.fetch transport)
      (NamespaceTable.fetch transport') :=
  renamed.array.bind fun _ _ same => (alike_ofExcept (same.single _)).bind fun _ _ same =>
    alike_ofExcept (same.table _)

namespace Browser

structure Renamed (ρ : Equiv.Perm UInt16) (R : σ → τ → Prop) (browser : Browser σ)
    (browser' : Browser τ) : Prop where
  transport : Transport.Renamed ρ R browser.transport browser'.transport
  namespaces : NamespaceTable.Renamed ρ browser.namespaces browser'.namespaces
  maxPages : browser'.maxPages = browser.maxPages

namespace Renamed

variable {browser : Browser σ} {browser' : Browser τ} (renamed : Renamed ρ R browser browser')
include renamed

theorem collectPages (start : NodeId) (left : Nat) (page : Page) :
    Alike R (fun found found' => found' = found.map (·.rename ρ))
      (browser.collectPages start left page) (browser'.collectPages start left (page.rename ρ)) := by
  induction left generalizing page with
  | zero =>
      obtain ⟨status, references, next⟩ := page
      unfold Browser.collectPages
      refine alike_ite (alike_fail _) ?_
      cases next with
      | none => exact alike_pure rfl
      | some point =>
          dsimp only [Page.rename]
          rw [renamed.maxPages]
          exact alike_fail _
  | succ left ih =>
      obtain ⟨status, references, next⟩ := page
      unfold Browser.collectPages
      refine alike_ite (alike_fail _) ?_
      cases next with
      | none => exact alike_pure rfl
      | some point =>
          refine (renamed.transport.browseNext point).bind fun next next' same => ?_
          subst same
          refine (ih next).bind fun behind behind' same => ?_
          subst same
          exact alike_pure (List.map_append).symm

theorem neighbour (reference : Reference) :
    browser'.neighbour (reference.rename ρ) = browser.neighbour reference := by
  unfold Browser.neighbour
  simp only [Reference.rename, renamed.namespaces.decode, renamed.namespaces.decodeName]

theorem request (start : NodeId) (context : BrowseContext) :
    browser'.request start context = (browser.request start context).map (·.rename ρ) := by
  unfold Browser.request
  rw [renamed.namespaces.encode, renamed.namespaces.encode]
  cases browser.namespaces.encode start with
  | error cause => rfl
  | ok node => cases browser.namespaces.encode context.referenceType <;> rfl

theorem browse (start : NodeId) (context : BrowseContext) :
    Alike R Eq (browser.browse start context) (browser'.browse start context) := by
  unfold Browser.browse
  rw [renamed.request, renamed.maxPages]
  refine (alike_ofExcept (agree_map _ _)).bind fun request request' same => ?_
  subst same
  refine (renamed.transport.browse request).bind fun page page' same => ?_
  subst same
  refine (renamed.collectPages start _ page).bind fun found found' same => ?_
  subst same
  have each : browser'.neighbour ∘ (·.rename ρ) = browser.neighbour := funext renamed.neighbour
  rw [List.mapM_map, each]
  exact alike_ofExcept (agree_rfl _)

theorem readAttribute (node : NodeId) {attr : Attribute} (other : attr ≠ .value) :
    Alike R (fun value value' => value' = value.rename ρ) (browser.readAttribute node attr)
      (browser'.readAttribute node attr) := by
  unfold Browser.readAttribute
  rw [renamed.namespaces.encode]
  refine (alike_ofExcept (agree_map _ _)).bind fun id id' same => ?_
  subst same
  have elsewhere : [({ node := id, attr } : ReadRequest)] ≠ arrayRequest := by
    intro same
    injection same with same
    injection same with _ same
    exact other same
  refine (renamed.transport.read _ elsewhere).bind fun answer answer' same => ?_
  subst same
  exact alike_ofExcept (answer.alike_rename.single _)

theorem readNodeClass (node : NodeId) :
    Alike R Eq (browser.readNodeClass node) (browser'.readNodeClass node) := by
  refine (renamed.readAttribute node (by decide)).bind fun value value' same => ?_
  subst same
  cases value with
  | int32 n =>
      dsimp only [Value.rename]
      split
      · exact alike_pure rfl
      · exact alike_fail _
  | _ => exact alike_fail _

theorem readBrowseName (node : NodeId) :
    Alike R Eq (browser.readBrowseName node) (browser'.readBrowseName node) := by
  refine (renamed.readAttribute node (by decide)).bind fun value value' same => ?_
  subst same
  cases value with
  | qualifiedName name =>
      dsimp only [Value.rename]
      rw [renamed.namespaces.decodeName]
      refine (alike_ofExcept (agree_rfl _)).bind fun name name' same => ?_
      subst same
      exact alike_pure rfl
  | _ => exact alike_fail _

theorem modellingRule (node : NodeId) :
    Alike R Eq (browser.modellingRule node) (browser'.modellingRule node) := by
  refine (renamed.browse node _).bind fun found found' same => ?_
  subst same
  exact alike_pure rfl

theorem typeDefinition (node : NodeId) :
    Alike R Eq (browser.typeDefinition node) (browser'.typeDefinition node) := by
  refine (renamed.browse node _).bind fun found found' same => ?_
  subst same
  match found with
  | [] => exact alike_fail _
  | [found] => exact alike_pure rfl
  | _ :: _ :: _ => exact alike_fail _

theorem implementedNamespace (machine : NodeId) :
    Alike R Eq (browser.implementedNamespace machine) (browser'.implementedNamespace machine) := by
  refine (renamed.typeDefinition machine).bind fun node node' same => ?_
  subst same
  exact alike_pure rfl

theorem identificationValues (identification : NodeId) :
    Alike R Eq (browser.identificationValues identification)
      (browser'.identificationValues identification) := by
  refine (renamed.browse identification _).bind fun found found' same => ?_
  subst same
  exact alike_pure rfl

theorem pathRequest (start : NodeId) (name : QualifiedName) :
    browser'.pathRequest start name = (browser.pathRequest start name).map (·.rename ρ) := by
  have kind := WireId.rename_standard renamed.namespaces.zero Standard.hierarchicalReferences
  unfold Browser.pathRequest
  split
  · rfl
  · split
    · rfl
    · rw [renamed.namespaces.encode, renamed.namespaces.encodeName]
      cases browser.namespaces.encode start with
      | error cause => rfl
      | ok wire =>
          cases browser.namespaces.encodeName name with
          | error cause => rfl
          | ok wireName =>
              simp [Except.map, bind, Except.bind, PathRequest.rename, PathElement.rename, kind]

omit renamed in
theorem firstTarget (start : NodeId) (name : QualifiedName) (answer : PathAnswer) :
    Browser.firstTarget start name (answer.rename ρ) =
      (Browser.firstTarget start name answer).map (·.rename ρ) := by
  obtain ⟨status, results⟩ := answer
  unfold Browser.firstTarget PathAnswer.rename
  dsimp only
  split
  · rfl
  · match results with
    | [] => rfl
    | [⟨status, targets⟩] =>
        by_cases missing : status = Status.badNoMatch
        · simp [PathTargets.rename, missing, Except.map]
        · by_cases bad : status.isBad
          · simp [PathTargets.rename, missing, bad, Except.map]
          · cases targets <;> simp [PathTargets.rename, missing, bad, Except.map]
    | _ :: _ :: _ => simp [Except.map]

theorem resolve (start : NodeId) (name : QualifiedName) :
    Alike R Eq (browser.resolve start name) (browser'.resolve start name) := by
  unfold Browser.resolve
  rw [renamed.pathRequest]
  refine (alike_ofExcept (agree_map _ _)).bind fun request request' same => ?_
  subst same
  refine (renamed.transport.translate request).bind fun answer answer' same => ?_
  subst same
  rw [firstTarget]
  refine (alike_ofExcept (agree_map _ _)).bind fun target target' same => ?_
  subst same
  rw [renamed.namespaces.decode]
  exact alike_ofExcept (agree_rfl _)

theorem resolveAll (start : NodeId) (names : List QualifiedName) :
    Alike R Eq (browser.resolveAll start names) (browser'.resolveAll start names) := by
  induction names generalizing start with
  | nil => exact alike_pure rfl
  | cons name rest ih =>
      unfold Browser.resolveAll
      rw [List.foldlM_cons, List.foldlM_cons]
      refine (renamed.resolve start name).bind fun next next' same => ?_
      subst same
      exact ih next

end Renamed

end Browser

end AddressSpace
