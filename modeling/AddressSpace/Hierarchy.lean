import AddressSpace.Browse

namespace AddressSpace

abbrev SuperTypes := List (NodeId × Option NodeId)

structure Surveyed (σ : Type) where
  superTypes : SuperTypes
  server : σ

abbrev Survey (σ α : Type) := Exchange (Surveyed σ) α

namespace Survey

variable {σ α : Type}

def onServer (exchange : Exchange σ α) : Survey σ α :=
  exchange.within (·.server) fun server state => { state with server }

end Survey

namespace Browser

variable {σ : Type}

def superTypeContext : BrowseContext :=
  { BrowseContext.ofReference (Standard.node Standard.hasSubtype) with
    direction := .backward, resultMask := .none }

def fetchSuperType (browser : Browser σ) (type : NodeId) : Exchange σ (Option NodeId) := do
  match ← browser.browse type superTypeContext with
  | [found] => pure (some found.node)
  | _ => pure none

/-- The supertype of a type, from what is known or else from the server.  An answer becomes known, a
failure does not. -/
def superType (browser : Browser σ) (type : NodeId) : Survey σ (Option NodeId) := do
  match (← get).superTypes.lookup type with
  | some known => pure known
  | none =>
    let answer ← Survey.onServer (browser.fetchSuperType type)
    modify fun state => { state with superTypes := (type, answer) :: state.superTypes }
    pure answer

def reaches (browser : Browser σ) (expected : NodeId) : (remaining : Nat) → (current : NodeId) →
    Survey σ Bool
  | 0, current => pure (current = expected)
  | remaining + 1, current =>
    if current = expected then pure true
    else do
      match ← browser.superType current with
      | some next => browser.reaches expected remaining next
      | none => pure false

def isSameOrSubtype (browser : Browser σ) (depth : Nat) (expected candidate : NodeId) :
    Survey σ Bool :=
  if candidate.isNull then pure false
  else do
    let expected ← Exchange.ofExcept (browser.namespaces.canonical expected)
    let candidate ← Exchange.ofExcept (browser.namespaces.canonical candidate)
    browser.reaches expected depth candidate

def instanceClass? : NodeClass → Option NodeClass
  | .objectType => some .object
  | .variableType => some .var
  | _ => none

def instanceContext (context : BrowseContext) (nodeClass : NodeClass) : BrowseContext :=
  { context with
    classMask := .ofClass nodeClass
    resultMask := context.resultMask ||| .typeDefinition }

def filterSurvey {α : Type} (ask : α → Survey σ Bool) : List α → Survey σ (List α)
  | [] => pure []
  | a :: rest => do
    let keep ← ask a
    let kept ← filterSurvey ask rest
    pure (if keep then a :: kept else kept)

def browseInstances (browser : Browser σ) (depth : Nat) (start : NodeId) (context : BrowseContext)
    (type : NodeId) : Survey σ (List Neighbour) := do
  let typeClass ← Survey.onServer (browser.readNodeClass type)
  match instanceClass? typeClass with
  | none => Exchange.fail (SchemaError.invalidNodeClass (toString type) typeClass.name)
  | some nodeClass =>
    let found ← Survey.onServer (browser.browse start (instanceContext context nodeClass))
    filterSurvey (fun neighbour => browser.isSameOrSubtype depth type neighbour.typeDefinition)
      found

end Browser

end AddressSpace
