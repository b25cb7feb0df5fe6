import AddressSpace.Proofs.Manager.Course
import AddressSpace.Proofs.Manager.Published
import AddressSpace.Proofs.Manager.Time

namespace AddressSpace
open Exchange

variable {σ : Type} {client : Client σ} {manager : Manager σ}

namespace Manager

structure Closed (manager : Manager σ) : Prop where
  state : manager.state = .shuttingDown
  stopped : manager.stopped
  loop : manager.loop = .idle
  items : ∀ subscription ∈ manager.session.subscriptions, subscription.item = none

def closedReply (manager : Manager σ) : Call → Except Error Reply
  | .connect | .ask _ | .readValues _ | .namespaces | .subscribe .. =>
    .error ConnectionError.shuttingDown
  | .unsubscribe id =>
    if manager.session.subscriptions.any (·.id = id) then .ok .done
    else .error (NotFoundError.subscription (toString id))
  | .typeDescriptor name => (manager.typeDescriptor name).map .descriptor
  | .typeNode name => (manager.typeNode name).map .node
  | .shutdown => .ok .done

def giveUp (manager : Manager σ) : Call → Manager σ
  | .unsubscribe id => manager.mapSession fun session =>
    { session with subscriptions := session.subscriptions.eraseP (·.id = id) }
  | _ => manager

theorem Closed.giveUp (closed : manager.Closed) (call : Call) : (manager.giveUp call).Closed := by
  cases call with
  | unsubscribe id =>
      exact ⟨closed.state, closed.stopped, closed.loop,
        fun subscription listed => closed.items subscription (List.mem_of_mem_eraseP listed)⟩
  | _ => exact closed

end Manager

namespace Client

theorem unsubscribe_bare {session : Session σ}
    (bare : ∀ subscription ∈ session.subscriptions, subscription.item = none) (id : Guid) :
    (client.unsubscribe id).result session =
      (if session.subscriptions.any (·.id = id) then .ok ()
        else .error (NotFoundError.subscription (toString id)),
      { session with subscriptions := session.subscriptions.eraseP (·.id = id) }) := by
  unfold Exchange.result
  rw [unsubscribe_apply]
  cases found : session.subscriptions.find? (·.id = id) with
  | none =>
      have missing : ¬ session.subscriptions.any (·.id = id) := by
        rw [List.any_eq_true]
        rintro ⟨subscription, listed, same⟩
        exact List.find?_eq_none.1 found subscription listed same
      rw [if_neg missing, List.eraseP_of_forall_not (by simpa using found)]
  | some subscription =>
      have listed := List.mem_of_find?_eq_some found
      have same := List.find?_some found
      have present : session.subscriptions.any (·.id = id) :=
        List.any_eq_true.2 ⟨subscription, listed, same⟩
      dsimp only
      rw [if_pos present, bare subscription listed]

theorem closed_call (closed : manager.Closed) (call : Call) :
    (client.call call).result manager = (manager.closedReply call, manager.giveUp call) := by
  have apart : manager.state ≠ .connected := by
    rw [closed.state]
    decide
  have refused {call : Call} (guards : call.isGuarded) :
      (client.call call).result manager = (.error ConnectionError.shuttingDown, manager) := by
    rw [result_eq_error, call_refused guards (.inl apart), if_pos closed.state, if_neg apart]
  cases call with
  | connect =>
      have idle : ¬ client.attempts manager := by
        simp [Client.attempts, closed.stopped]
      rw [result_call_connect, result_connect, if_neg idle, if_pos closed.stopped]
      rfl
  | ask question => exact refused rfl
  | readValues nodes => exact refused rfl
  | namespaces => exact refused rfl
  | subscribe id node listener => exact refused rfl
  | unsubscribe id =>
      rw [result_call_unsubscribe, unsubscribe_bare closed.items]
      refine Prod.ext ?_ rfl
      show Except.map _ (if _ then _ else _) = if _ then _ else _
      split <;> rfl
  | typeDescriptor name => exact result_call_typeDescriptor name manager
  | typeNode name => exact result_call_typeNode name manager
  | shutdown =>
      rw [result_call_shutdown, result_shutdown, if_pos closed.stopped]
      rfl

theorem closed_start (closed : manager.Closed) :
    Manager.start.result manager = (.error ConnectionError.shuttingDown, manager) := by
  rw [result_eq_error, start_apply, if_pos closed.stopped]

theorem passTime_idle (idle : manager.loop = .idle) (goal : Option ConnectionState)
    (deadline fuel : Nat) :
    client.passTime goal deadline fuel manager = (false, { manager with clock := deadline }) := by
  cases fuel with
  | zero => rfl
  | succ fuel =>
      unfold passTime
      rw [Manager.atNextTurn?, idle]

end Client

def Action.change : Action σ → σ → σ
  | .event (.change change) => change
  | _ => id

structure Manager.Outlasts (manager : Manager σ) (server : σ) (library : TypeLibrary) : Prop where
  closed : manager.Closed
  server : manager.session.server = server
  library : manager.session.library = library

namespace Client

theorem outlasts_act {server : σ} {library : TypeLibrary}
    (outlasts : manager.Outlasts server library) (action : Action σ) :
    (client.act manager action).Outlasts (action.change server) library := by
  have closed := outlasts.closed
  have later (clock : Nat) : ({ manager with clock } : Manager σ).Outlasts server library :=
    ⟨⟨closed.state, closed.stopped, closed.loop, closed.items⟩, outlasts.server, outlasts.library⟩
  cases action with
  | event event =>
      cases event with
      | change change =>
          exact ⟨⟨closed.state, closed.stopped, closed.loop, closed.items⟩,
            congrArg change outlasts.server, outlasts.library⟩
      | call call =>
          show ((client.call call).result manager).2.Outlasts server library
          rw [closed_call closed]
          refine ⟨closed.giveUp call, ?_, ?_⟩
          · rw [← outlasts.server]
            cases call <;> rfl
          · rw [← outlasts.library]
            cases call <;> rfl
  | start =>
      show (Manager.start.result manager).2.Outlasts server library
      rw [closed_start closed]
      exact outlasts
  | sleep milliseconds =>
      show (client.sleep milliseconds manager).Outlasts server library
      rw [sleep, passTime_idle closed.loop]
      exact later _
  | waitFor goal milliseconds =>
      show (client.waitFor goal milliseconds manager).2.Outlasts server library
      unfold waitFor
      split
      · rw [sleep, passTime_idle closed.loop]
        exact later _
      · rw [passTime_idle closed.loop]
        exact later _

theorem outlasts_foldl {server : σ} {library : TypeLibrary}
    (outlasts : manager.Outlasts server library) (actions : List (Action σ)) :
    (actions.foldl client.act manager).Outlasts
      (actions.foldl (fun server action => action.change server) server) library := by
  induction actions generalizing manager server with
  | nil => exact outlasts
  | cons action later ih => exact ih (outlasts_act outlasts action)

theorem outlasts_shutdown (going : manager.stopped = false) :
    (client.shutdown.result manager).2.Outlasts
      (client.closeSession.result manager.session).2.server manager.session.library := by
  have library : (client.closeSession.result manager.session).2.library =
      manager.session.library := by
    rw [result_closeSession]
    split <;> rfl
  rw [result_shutdown, if_neg (Bool.eq_false_iff.1 going)]
  exact ⟨⟨rfl, rfl, rfl, items_closeSession manager.session⟩, rfl, library⟩

theorem closeSession_disconnects (ends : ∀ server new,
      client.transport.disconnect server = .ok () new → client.transport.isConnected new = false)
    {session : Session σ} (closes : (client.closeSession.result session).1 = .ok ()) :
    client.transport.isConnected (client.closeSession.result session).2.server = false := by
  rw [server_closeSession]
  rw [result_closeSession] at closes
  by_cases connected : client.transport.isConnected session.server
  · rw [if_pos connected] at closes ⊢
    exact ends session.server _ (result_eq_ok.1 (Prod.ext closes rfl))
  · rw [if_neg connected]
    exact Bool.eq_false_iff.2 connected

end Client

theorem shutdown_mem_of_unrolls {actions : List (Action σ)} {pieces : List (List (Event σ))}
    (unrolls : List.Forall₂ Action.Unrolls actions pieces)
    (listed : .call .shutdown ∈ pieces.flatten) : .event (.call .shutdown) ∈ actions := by
  -- starting, sleeping and waiting unroll to connects only
  induction unrolls with
  | nil => cases listed
  | @cons action events actions pieces first rest ih =>
      rw [List.flatten_cons, List.mem_append] at listed
      rcases listed with here | behind
      · have alone : action = .event (.call .shutdown) := by
          cases first with
          | event event => rw [List.mem_singleton.1 here]
          | start => cases here
          | sleep milliseconds connects => cases List.eq_of_mem_replicate here
          | waitFor goal milliseconds connects => cases List.eq_of_mem_replicate here
        rw [alone]
        exact List.mem_cons_self
      · exact List.mem_cons_of_mem action (ih behind)

namespace Client

theorem not_stopped_run {actions : List (Action σ)} (never : .event (.call .shutdown) ∉ actions)
    (server : σ) : (client.run actions server).stopped = false := by
  obtain ⟨pieces, unrolls, same⟩ := client.run_unrolls actions server
  rw [same.stopped]
  exact not_stopped_history (fun listed => never (shutdown_mem_of_unrolls unrolls listed)) server

theorem not_connected_foldl {actions : List (Action σ)}
    (closed : ∀ action ∈ actions, ∀ server, client.transport.isConnected server = false →
      client.transport.isConnected (action.change server) = false)
    {server : σ} (ended : client.transport.isConnected server = false) :
    client.transport.isConnected
      (actions.foldl (fun server action => action.change server) server) = false := by
  induction actions generalizing server with
  | nil => exact ended
  | cons action later ih =>
      obtain ⟨first, others⟩ := List.forall_mem_cons.1 closed
      exact ih others (first server ended)

/-- Whatever has been done before the first shutdown of a manager, and whatever is done later:
(a) it stays shut down, nothing more reaches its server, and its library is that of the most recent
attempt that has succeeded before;
(b) it is not started again, and each call gets the reply of a manager that has been shut down, with
no effect but that a subscription may be given up;
(c) if the shutdown has succeeded, no session is open any more. -/
theorem shutdown_final (client : Client σ) {before : List (Action σ)}
    (first : .event (.call .shutdown) ∉ before) (later : List (Action σ)) (server : σ) :
    let last := client.run before server
    let closing := client.shutdown.result last
    let manager := later.foldl client.act closing.2
    manager.state = .shuttingDown ∧
    manager.session.server =
      later.foldl (fun server action => action.change server) closing.2.session.server ∧
    (∃ pieces, List.Forall₂ Action.Unrolls before pieces ∧
      last.Matches (client.history pieces.flatten server).manager ∧
      manager.session.library =
        client.published (client.history pieces.flatten server).attempts) ∧
    Manager.start.result manager = (.error ConnectionError.shuttingDown, manager) ∧
    (∀ call, (client.call call).result manager =
      (manager.closedReply call, manager.giveUp call)) ∧
    ((∀ server new, client.transport.disconnect server = .ok () new →
        client.transport.isConnected new = false) →
      (∀ action ∈ later, ∀ server, client.transport.isConnected server = false →
        client.transport.isConnected (action.change server) = false) →
      closing.1 = .ok () → client.isLive manager = false) := by
  have going := client.not_stopped_run first server
  obtain ⟨pieces, unrolls, same⟩ := client.run_unrolls before server
  have published := (client.sound_history pieces.flatten server).library
  have closes := client.result_shutdown (client.run before server)
  have outlasts := client.outlasts_foldl (client.outlasts_shutdown going) later
  rw [if_neg (Bool.eq_false_iff.1 going)] at closes
  dsimp only
  refine ⟨outlasts.closed.state, ?_, ⟨pieces, unrolls, same, ?_⟩, closed_start outlasts.closed,
    closed_call outlasts.closed, fun ends closed done => ?_⟩
  · rw [outlasts.server, closes]
  · rw [outlasts.library, same.session, published]
  · unfold isLive
    rw [outlasts.server]
    rw [closes] at done
    exact not_connected_foldl closed (closeSession_disconnects ends done)

end Client

def gate : Transport Bool where
  isConnected isOpen := isOpen
  endpoints url := pure [.ofMode url .none]
  connect _ _ := set true
  disconnect := set false
  browse _ := pure {}
  browseNext _ := pure {}
  read _ := pure { values := [.good (.array [.string Standard.namespaceUri])] }
  translate _ := pure {}
  subscribe _ _ := pure 0
  unsubscribe _ := pure ()

def gateClient : Client Bool := ⟨gate, .ofEndpoint "opc.tcp://gate"⟩

theorem shutdown_final_gate :
    let last := gateClient.run [.start, .sleep 1000, .event (.call .connect)] false
    let closing := gateClient.shutdown.result last
    let manager := [.start, .event (.call .connect), .sleep 1000].foldl gateClient.act closing.2
    closing.1 = .ok () ∧ manager.state = .shuttingDown ∧
    manager.session.server = closing.2.session.server ∧ gateClient.isLive manager = false := by
  have first : .event (.call .shutdown) ∉
      ([.start, .sleep 1000, .event (.call .connect)] : List (Action Bool)) := by
    simp
  have done : (gateClient.shutdown.result
      (gateClient.run [.start, .sleep 1000, .event (.call .connect)] false)).1 = .ok () := by
    rw [Client.result_shutdown, if_neg (Bool.eq_false_iff.1 (Client.not_stopped_run first false)),
      Client.result_closeSession]
    split <;> rfl
  have finality := gateClient.shutdown_final first
    [.start, .event (.call .connect), .sleep 1000] false
  dsimp only at finality ⊢
  generalize gateClient.shutdown.result
    (gateClient.run [.start, .sleep 1000, .event (.call .connect)] false) = closing at *
  obtain ⟨down, server, -, -, -, closes⟩ := finality
  refine ⟨done, down, server, closes ?_ ?_ done⟩
  · intro server new ends
    cases ends
    rfl
  · simp [Action.change]

end AddressSpace
