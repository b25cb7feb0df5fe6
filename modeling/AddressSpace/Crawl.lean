import AddressSpace.Crawl.Arena

/-!
Crawling the types of a server.

`Browser.discover` walks from a base type along all hierarchical references and puts what it finds
into an arena, each node before the nodes below it.  What has been found and not yet been entered
waits on a stack.  The walk does not go below a node at the depth bound, or below a node with the id
of one of its parents.  Only the loss of the connection ends it early.
-/

namespace AddressSpace

structure Crawl (σ : Type) where
  arena : Arena
  server : σ

abbrev Crawling (σ α : Type) := Exchange (Crawl σ) α

/-- A conversation whose errors, except the loss of the connection, give way to a fallback. -/
def Exchange.tolerate {σ α : Type} (fallback : α) (exchange : Exchange σ α) : Exchange σ α :=
  fun state =>
    match exchange state with
    | .ok a new => .ok a new
    | .error cause new => if cause.isConnection then .error cause new else .ok fallback new

namespace Crawling

variable {σ α : Type}

def onServer (exchange : Exchange σ α) : Crawling σ α :=
  exchange.within (·.server) fun server state => { state with server }

def addRoot (declaration : Declaration) : Crawling σ Nat := fun state =>
  .ok state.arena.size { state with arena := state.arena.push none declaration }

def addBelow (parent : Nat) (declaration : Declaration) : Crawling σ Nat := fun state =>
  .ok state.arena.size { state with arena := state.arena.add parent declaration }

end Crawling

structure Pending where
  parent : Nat
  found : Neighbour
  depth : Nat

namespace Pending

def pushAll (parent depth : Nat) (found : List Neighbour) (stack : List Pending) : List Pending :=
  found.reverse.foldl (fun stack neighbour => ⟨parent, neighbour, depth⟩ :: stack) stack

theorem pushAll_eq (parent depth : Nat) (found : List Neighbour) (stack : List Pending) :
    pushAll parent depth found stack = found.map (⟨parent, ·, depth⟩) ++ stack := by
  rw [pushAll, List.foldl_reverse]
  induction found with
  | nil => rfl
  | cons neighbour rest ih => rw [List.foldr_cons, ih]; rfl

/-- Some numbers after the first of them has given way to any count of smaller ones. -/
def Unwound (after before : List Nat) : Prop :=
  ∃ top rest front, before = top :: rest ∧ after = front ++ rest ∧ ∀ n ∈ front, n < top

theorem acc_append {front rest : List Nat}
    (smaller : ∀ n ∈ front, ∀ stack, Acc Unwound stack → Acc Unwound (n :: stack))
    (accessible : Acc Unwound rest) : Acc Unwound (front ++ rest) := by
  induction front with
  | nil => exact accessible
  | cons n front ih =>
    exact smaller n (by simp) _ (ih fun m member => smaller m (by simp [member]))

theorem acc_cons (top : Nat) : ∀ rest, Acc Unwound rest → Acc Unwound (top :: rest) := by
  induction top using Nat.strongRecOn with
  | _ top ih =>
    intro rest accessible
    refine .intro _ ?_
    rintro _ ⟨_, _, front, same, rfl, bound⟩
    obtain ⟨rfl, rfl⟩ := List.cons.inj same
    exact acc_append (fun n member => ih n (bound n member)) accessible

theorem unwound_wellFounded : WellFounded Unwound := by
  refine ⟨fun stack => ?_⟩
  induction stack with
  | nil => exact .intro _ fun _ ⟨_, _, _, same, _⟩ => nomatch same
  | cons top rest ih => exact acc_cons top rest ih

structure Levels where
  counts : List Nat

instance : WellFoundedRelation Levels :=
  ⟨InvImage Unwound Levels.counts, InvImage.wf _ unwound_wellFounded⟩

def levels (maxDepth : Nat) (stack : List Pending) : Levels := ⟨stack.map (maxDepth - ·.depth)⟩

end Pending

def Neighbour.declaration (found : Neighbour) (rule : ModellingRule) (ofVariableType : Bool) :
    Declaration where
  node := found.node
  browseName := found.browseName
  typeDefinition := found.typeDefinition
  nodeClass := found.nodeClass
  rule
  ofBaseDataVariableType := ofVariableType

namespace Browser

variable {σ : Type}

def ruleOf (browser : Browser σ) (found : Neighbour) : Exchange σ ModellingRule :=
  if found.nodeClass.isType then pure .optional
  else (browser.modellingRule found.node).tolerate .optional

def enter (browser : Browser σ) (ofVariableType : Bool) (parent : Nat) (found : Neighbour) :
    Crawling σ Nat := do
  let rule ← Crawling.onServer (browser.ruleOf found)
  Crawling.addBelow parent (found.declaration rule ofVariableType)

def enterAll (browser : Browser σ) (ofVariableType : Bool) (maxDepth : Nat) :
    List Pending → Crawling σ Unit
  | [] => pure ()
  | ⟨parent, found, depth⟩ :: stack => do
    let i ← browser.enter ofVariableType parent found
    if depth < maxDepth then
      -- A node that lies below itself is entered once more, but what is below it is not.
      if (← get).arena.lineHas parent found.node then browser.enterAll ofVariableType maxDepth stack
      else
        let below ← Crawling.onServer
          ((browser.browse found.node .instancesAndTypes).tolerate [])
        browser.enterAll ofVariableType maxDepth (Pending.pushAll i (depth + 1) below stack)
    else browser.enterAll ofVariableType maxDepth stack
  termination_by stack => Pending.levels maxDepth stack
  decreasing_by
    · exact ⟨_, _, [], rfl, rfl, by simp⟩
    · refine ⟨_, _, below.map fun _ => maxDepth - (depth + 1), rfl, ?_, ?_⟩
      · simp [Pending.levels, Pending.pushAll_eq, Function.comp_def]
      · intro n member
        obtain ⟨_, _, rfl⟩ := List.mem_map.1 member
        show maxDepth - (depth + 1) < maxDepth - depth
        omega
    · exact ⟨_, _, [], rfl, rfl, by simp⟩

def rootDeclaration (base : NodeId) (ofVariableType : Bool) : Declaration where
  node := base
  browseName := ⟨base.uri, ""⟩
  nodeClass := if ofVariableType then .variableType else .objectType
  rule := .mandatory
  ofBaseDataVariableType := ofVariableType

/-- Crawls what lies at most `maxDepth` levels below a base type. -/
def discover (browser : Browser σ) (maxDepth : Nat) (base : NodeId) (ofVariableType : Bool) :
    Crawling σ Unit := do
  let base ← Exchange.ofExcept (browser.namespaces.canonical base)
  let root ← Crawling.addRoot (rootDeclaration base ofVariableType)
  let found ← Crawling.onServer (browser.browse base .instancesAndTypes)
  browser.enterAll ofVariableType maxDepth (Pending.pushAll root 1 found [])

end Browser

end AddressSpace
