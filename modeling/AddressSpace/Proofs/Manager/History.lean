import AddressSpace.Manager
import AddressSpace.Proofs.Keeping.Session

namespace AddressSpace

inductive Call
  | connect
  | ask (question : Question)
  | readValues (nodes : List NodeId)
  | namespaces
  | subscribe (id : Guid) (node : NodeId) (listener : Listener)
  | unsubscribe (id : Guid)
  | typeDescriptor (name : String)
  | typeNode (name : String)
  | shutdown

def Call.isGuarded : Call → Bool
  | ask _ | readValues _ | namespaces | subscribe .. => true
  | connect | unsubscribe _ | typeDescriptor _ | typeNode _ | shutdown => false

inductive Reply
  | done
  | answer (answer : Answer)
  | values (values : List Json)
  | uris (uris : List String)
  | subscribed (id : Guid)
  | descriptor (descriptor : Descriptor)
  | node (id : NodeId)

inductive Event (σ : Type)
  | call (call : Call)
  | change (change : σ → σ)

structure History (σ : Type) where
  manager : Manager σ
  /-- The beginnings of the attempts so far, the latest first. -/
  attempts : List (Manager σ) := []
  changes : List (σ → σ) := []

namespace Client

variable {σ : Type} (client : Client σ)

def call : Call → Exchange (Manager σ) Reply
  | .connect => do client.connect; pure .done
  | .ask question => client.guarded do pure (.answer (← client.respond question))
  | .readValues nodes => client.guarded do pure (.values (← client.ask (·.readValues nodes)))
  | .namespaces => client.guarded do pure (.uris (← get).namespaces.toList)
  | .subscribe id node listener => client.guarded do
    pure (.subscribed (← client.subscribe id node listener))
  | .unsubscribe id => do Manager.onSession (client.unsubscribe id); pure .done
  | .typeDescriptor name => do
    pure (.descriptor (← Exchange.ofExcept ((← get).typeDescriptor name)))
  | .typeNode name => do pure (.node (← Exchange.ofExcept ((← get).typeNode name)))
  | .shutdown => do client.shutdown; pure .done

def attempts (manager : Manager σ) : Bool :=
  !manager.stopped && !(manager.state = .connected && client.isLive manager)

def beginning (manager : Manager σ) : Manager σ :=
  if manager.state = .connected then manager.noteFault else manager

def succeeds (beginning : Manager σ) : Bool :=
  match client.attempt beginning with
  | .ok .. => true
  | .error .. => false

def rebuilt? (beginning : Manager σ) : Option (Session σ) :=
  match client.openSession client.config beginning.session with
  | .ok _ opened =>
    match client.rebuild client.config opened with
    | .ok _ rebuilt => some rebuilt
    | .error .. => none
  | .error .. => none

/-- The library of the most recent successful attempt, the empty one if there was none.  The
attempts are given by their beginnings, the latest first. -/
def published (attempts : List (Manager σ)) : TypeLibrary :=
  match attempts.find? client.succeeds with
  | some beginning => ((client.rebuilt? beginning).map (·.library)).getD .empty
  | none => .empty

def react (manager : Manager σ) : Event σ → Manager σ
  | .call call => ((client.call call).result manager).2
  | .change change =>
    manager.mapSession fun session => { session with server := change session.server }

def record (history : History σ) (event : Event σ) : History σ :=
  let manager := client.react history.manager event
  match event with
  | .call .connect =>
    if client.attempts history.manager then
      { manager, attempts := beginning history.manager :: history.attempts }
    else { history with manager }
  | .call _ => { history with manager }
  | .change change => { history with manager, changes := history.changes ++ [change] }

def history (events : List (Event σ)) (server : σ) : History σ :=
  events.foldl client.record { manager := { session := { server } } }

theorem manager_record (history : History σ) (event : Event σ) :
    (client.record history event).manager = client.react history.manager event := by
  unfold record
  cases event with
  | call call =>
      cases call with
      | connect =>
          dsimp only
          split <;> rfl
      | _ => rfl
  | change change => rfl

theorem manager_history (events : List (Event σ)) (server : σ) :
    (client.history events server).manager =
      events.foldl client.react { session := { server } } := by
  have folded : ∀ (events : List (Event σ)) (history : History σ),
      (events.foldl client.record history).manager = events.foldl client.react history.manager := by
    intro events
    induction events with
    | nil => exact fun _ => rfl
    | cons event rest ih =>
        intro history
        rw [List.foldl_cons, List.foldl_cons, ih, manager_record]
  exact folded events _

end Client

inductive Transport.Leads {σ : Type} (transport : Transport σ) : σ → σ → Prop
  | endpoints (url server) : Leads transport server ((transport.endpoints url).result server).2
  | connect (endpoint options server) :
      Leads transport server ((transport.connect endpoint options).result server).2
  | disconnect (server) : Leads transport server (transport.disconnect.result server).2
  | browse (request server) : Leads transport server ((transport.browse request).result server).2
  | browseNext (point server) :
      Leads transport server ((transport.browseNext point).result server).2
  | read (requests server) : Leads transport server ((transport.read requests).result server).2
  | translate (request server) :
      Leads transport server ((transport.translate request).result server).2
  | subscribe (node listener server) :
      Leads transport server ((transport.subscribe node listener).result server).2
  | unsubscribe (item server) :
      Leads transport server ((transport.unsubscribe item).result server).2

inductive Since {σ : Type} (transport : Transport σ) (start : σ) : List (σ → σ) → σ → Prop
  | start : Since transport start [] start
  | call {changes : List (σ → σ)} {server new : σ} (before : Since transport start changes server)
      (leads : transport.Leads server new) : Since transport start changes new
  | change {changes : List (σ → σ)} {server : σ} (before : Since transport start changes server)
      (change : σ → σ) : Since transport start (changes ++ [change]) (change server)

/-- A supertype that the server has told after `start`, at a time when some of the changes had
happened. -/
def Client.ToldSince {σ : Type} (client : Client σ) (rebuilt : Session σ) (changes : List (σ → σ))
    (entry : NodeId × Option NodeId) : Prop :=
  ∃ earlier server new, earlier <+: changes ∧
    Since client.transport rebuilt.server earlier server ∧
    (client.through rebuilt.namespaces).fetchSuperType entry.1 server = .ok entry.2 new

end AddressSpace
