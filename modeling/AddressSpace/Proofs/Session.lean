import AddressSpace.Proofs.Exchange
import AddressSpace.Session

namespace AddressSpace
open Exchange

inductive Question
  | browse (start : NodeId) (context : BrowseContext)
  | browseInstances (start : NodeId) (context : BrowseContext) (type : NodeId)
  | isSameOrSubtype (expected candidate : NodeId)
  | resolve (start : NodeId) (names : List QualifiedName)
  | typeDefinition (node : NodeId)
  | modellingRule (node : NodeId)
  | implementedNamespace (machine : NodeId)
  | identificationValues (identification : NodeId)
  | readBrowseName (node : NodeId)
  | machines (start : NodeId)

inductive Answer
  | neighbours (found : List Neighbour)
  | verdict (answer : Bool)
  | node (id : NodeId)
  | rule (rule : ModellingRule)
  | text (text : String)
  | values (values : List IdentificationValue)

theorem Session.onServer_bind {σ α β : Type} (exchange : Exchange σ α)
    (next : α → Exchange (Session σ) β) (session : Session σ) :
    (Session.onServer exchange >>= next) session =
      match exchange session.server with
      | .ok a server => next a { session with server }
      | .error cause server => .error cause { session with server } := by
  simp only [bind, EStateM.bind, Session.onServer, Exchange.within]
  cases exchange session.server <;> rfl

namespace Client

variable {σ : Type} (client : Client σ)

def respond : Question → Exchange (Session σ) Answer
  | .browse start context => do pure (.neighbours (← client.browse start context))
  | .browseInstances start context type => do
    pure (.neighbours (← client.browseInstances start context type))
  | .isSameOrSubtype expected candidate => do
    pure (.verdict (← client.isSameOrSubtype expected candidate))
  | .resolve start names => do pure (.node (← client.ask (·.resolveAll start names)))
  | .typeDefinition node => do pure (.node (← client.ask (·.typeDefinition node)))
  | .modellingRule node => do pure (.rule (← client.ask (·.modellingRule node)))
  | .implementedNamespace machine => do
    pure (.text (← client.ask (·.implementedNamespace machine)))
  | .identificationValues identification => do
    pure (.values (← client.ask (·.identificationValues identification)))
  | .readBrowseName node => do pure (.text (← client.ask (·.readBrowseName node)))
  | .machines start => do pure (.neighbours (← client.ask (·.machines start)))

def responses : List Question → Session σ → List (Except Error Answer)
  | [], _ => []
  | question :: rest, session =>
    let (answer, session) := (client.respond question).result session
    answer :: responses rest session

def through (namespaces : NamespaceTable) : Browser σ where
  transport := client.transport
  namespaces
  maxPages := client.config.maxPages.toNat

theorem rebuild_apply (config : Config) (session : Session σ) :
    client.rebuild config session =
      match NamespaceTable.fetch client.transport session.server with
      | .error cause server => .error cause { session with server }
      | .ok namespaces server =>
        match (client.through namespaces).crawlTypes config.maxCrawlDepth.toNat server with
        | .error cause server => .error cause { session with server, namespaces, superTypes := [] }
        | .ok arena server =>
          let library := TypeLibrary.ofArena arena
            (TypeLibrary.targets arena namespaces config.typeNamespaces)
          .ok library.types.size { session with server, namespaces, superTypes := [], library } := by
  unfold rebuild
  rw [Session.onServer_bind]
  cases NamespaceTable.fetch client.transport session.server with
  | error cause server => rfl
  | ok namespaces server =>
      dsimp only
      rw [bind_ok (modify_apply _ _), bind_ok (get_apply _), Session.onServer_bind]
      dsimp only
      cases crawled : (client.through namespaces).crawlTypes config.maxCrawlDepth.toNat server with
      | error cause server =>
          have same := crawled
          unfold through at same
          simp only [browser, same]
      | ok arena server =>
          have same := crawled
          unfold through at same
          simp only [browser, same]
          rfl

theorem rebuild_ok {config : Config} {session rebuilt : Session σ} {count : Nat}
    (ends : client.rebuild config session = .ok count rebuilt) : rebuilt.superTypes = [] := by
  rw [rebuild_apply] at ends
  split at ends
  · cases ends
  · split at ends <;> cases ends
    rfl

theorem rebuild_error {config : Config} {session new : Session σ} {cause : Error}
    (ends : client.rebuild config session = .error cause new) : new.library = session.library := by
  rw [rebuild_apply] at ends
  split at ends
  · cases ends
    rfl
  · split at ends <;> cases ends
    rfl

end Client

/-- The first subscription with an id, and the subscriptions before and behind it. -/
structure Session.Holds {σ : Type} (session : Session σ) (id : Guid) (front : List Subscription)
    (subscription : Subscription) (back : List Subscription) : Prop where
  subscriptions : session.subscriptions = front ++ subscription :: back
  others : ∀ earlier ∈ front, earlier.id ≠ id
  named : subscription.id = id

theorem Session.holds_of_find? {σ : Type} {session : Session σ} {id : Guid}
    {subscription : Subscription}
    (found : session.subscriptions.find? (·.id = id) = some subscription) :
    ∃ front back, session.Holds id front subscription back ∧
      session.subscriptions.eraseP (·.id = id) = front ++ back := by
  obtain ⟨named, front, back, whole, others⟩ := List.find?_eq_some_iff_append.1 found
  have others' : ∀ earlier ∈ front, ¬ earlier.id = id := by simpa using others
  refine ⟨front, back, ⟨whole, others', of_decide_eq_true named⟩, ?_⟩
  rw [whole, List.eraseP_append_right _ (by simpa using others'), List.eraseP_cons, named,
    cond_true]

theorem Client.unsubscribe_apply {σ : Type} (client : Client σ) (id : Guid) (session : Session σ) :
    client.unsubscribe id session =
      match session.subscriptions.find? (·.id = id) with
      | none => .error (NotFoundError.subscription (toString id)) session
      | some subscription =>
        let left := { session with subscriptions := session.subscriptions.eraseP (·.id = id) }
        match subscription.item with
        | none => .ok () left
        | some item =>
          match client.transport.unsubscribe item session.server with
          | .ok _ server => .ok () { left with server }
          | .error cause server => .error cause { left with server } := by
  unfold unsubscribe
  rw [bind_ok (get_apply _)]
  cases session.subscriptions.find? (·.id = id) with
  | none => rfl
  | some subscription =>
      dsimp only
      rw [bind_ok (modify_apply _ _)]
      cases subscription.item with
      | none => rfl
      | some item =>
          dsimp only [Session.onServer, Exchange.within]
          cases client.transport.unsubscribe item session.server <;> rfl

end AddressSpace
