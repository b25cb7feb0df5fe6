import AddressSpace.Proofs.Manager.History

namespace AddressSpace
open Exchange

variable {σ : Type} {client : Client σ} {manager : Manager σ}

namespace Manager

variable (manager : Manager σ)

@[simp] theorem session_setState (next : ConnectionState) :
    (manager.setState next).session = manager.session := by
  unfold setState
  split <;> rfl

@[simp] theorem session_record (change : ConnectionStats → ConnectionStats) :
    (manager.record change).session = manager.session := rfl

@[simp] theorem session_wake : manager.wake.session = manager.session := by
  unfold wake
  split <;> rfl

@[simp] theorem state_wake : manager.wake.state = manager.state := by
  unfold wake
  split <;> rfl

theorem state_setState_ne {next : ConnectionState} (other : next ≠ .connected) :
    (manager.setState next).state ≠ .connected := by
  unfold setState
  by_cases stays : manager.state.isTerminal ∨ manager.state = next
  · rw [if_pos stays]
    rcases stays with terminal | same
    · intro connected
      rw [connected] at terminal
      cases terminal
    · rw [same]
      exact other
  · rw [if_neg stays]
    exact other

theorem state_setState {next : ConnectionState} (alive : manager.state ≠ .shuttingDown) :
    (manager.setState next).state = next := by
  unfold setState
  split
  case isTrue stays =>
      rcases stays with terminal | same
      · cases state : manager.state <;> rw [state] at terminal alive
        case shuttingDown => exact absurd rfl alive
        all_goals cases terminal
      · exact same
  case isFalse => rfl

@[simp] theorem stopped_wake : manager.wake.stopped = manager.stopped := by
  unfold wake
  split <;> rfl

end Manager

theorem Transport.maintains_true (transport : Transport σ) : transport.Maintains fun _ => True :=
  ⟨fun _ => keeps_true _, fun _ _ => keeps_true _, keeps_true _, fun _ => keeps_true _,
    fun _ => keeps_true _, fun _ => keeps_true _, fun _ => keeps_true _, fun _ _ => keeps_true _,
    fun _ => keeps_true _⟩

theorem Session.stands_self (session : Session σ) :
    session.Stands (fun _ => True) (fun _ => True) session :=
  ⟨trivial, fun _ _ => trivial, rfl, rfl⟩

namespace Client

theorem establish_apply (manager : Manager σ) :
    client.establish manager =
      match client.openSession client.config manager.session with
      | .error cause session => .error cause { manager with session }
      | .ok _ opened =>
        match client.rebuild client.config opened with
        | .error cause session => .error cause { manager with session }
        | .ok _ rebuilt =>
          match client.rearm rebuilt with
          | .error cause session =>
            .error cause (({ manager with session }).record ConnectionStats.recordRebuild)
          | .ok _ session =>
            .ok () (({ manager with session }).record ConnectionStats.recordRebuild) := by
  unfold establish
  simp only [bind, EStateM.bind, Manager.onSession, Exchange.within]
  cases client.openSession client.config manager.session with
  | error cause session => rfl
  | ok _ opened =>
      dsimp only
      cases client.rebuild client.config opened with
      | error cause session => rfl
      | ok _ rebuilt =>
          simp only [modify_apply, Manager.record]
          cases client.rearm rebuilt <;> rfl

theorem establish_ends (manager : Manager σ) :
    (∃ session, client.establish manager =
      .ok () (({ manager with session }).record ConnectionStats.recordRebuild)) ∨
    ∃ cause session, client.establish manager = .error cause { manager with session } := by
  rw [establish_apply]
  cases client.openSession client.config manager.session with
  | error cause session => exact .inr ⟨cause, session, rfl⟩
  | ok endpoint opened =>
      dsimp only
      cases client.rebuild client.config opened with
      | error cause session => exact .inr ⟨cause, session, rfl⟩
      | ok count rebuilt =>
          have arms : EndsIn (rebuilt.Stands (fun _ => True) fun _ => True) (fun _ => False)
              (client.rearm rebuilt) :=
            keeps_rearm client.transport.maintains_true rebuilt rebuilt.stands_self
          dsimp only
          generalize client.rearm rebuilt = result at arms
          cases arms with
          | error never _ => exact never.elim
          | @ok armed session kept => exact .inl ⟨session, rfl⟩

theorem attempt_of_ok {new : Manager σ} (establishes : client.establish
      ((manager.setState .connecting).record ConnectionStats.recordAttempt) = .ok () new) :
    client.attempt manager =
      .ok () ((new.record ConnectionStats.recordSuccess).setState .connected) := by
  unfold attempt
  dsimp only
  rw [establishes]

theorem attempt_of_error {cause : Error} {new : Manager σ} (establishes : client.establish
      ((manager.setState .connecting).record ConnectionStats.recordAttempt) = .error cause new) :
    client.attempt manager = .error cause (({ new.record ConnectionStats.recordFailure with
      session := (client.closeSession.result new.session).2 }).setState .disconnected) := by
  unfold attempt
  dsimp only
  rw [establishes]
  dsimp only
  rw [Manager.onSession, result_within]
  rfl

theorem connect_apply (manager : Manager σ) :
    client.connect manager =
      if client.attempts manager then client.attempt (beginning manager)
      else if manager.stopped then .error ConnectionError.shuttingDown manager
      else .ok () manager := by
  unfold connect attempts beginning
  rw [bind_ok (get_apply _)]
  by_cases stopped : manager.stopped
  · simp [stopped]
  · by_cases connected : manager.state = .connected
    · by_cases live : client.isLive manager
      · simp [stopped, connected, live]
      · simp [stopped, connected, live, bind_ok (modify_apply _ _)]
    · simp [stopped, connected]

theorem result_connect (manager : Manager σ) :
    client.connect.result manager =
      if client.attempts manager then client.attempt.result (beginning manager)
      else (if manager.stopped then .error ConnectionError.shuttingDown else .ok (), manager) := by
  unfold Exchange.result
  rw [connect_apply]
  by_cases attempts : client.attempts manager
  · rw [if_pos attempts, if_pos attempts]
  · rw [if_neg attempts, if_neg attempts]
    by_cases stopped : manager.stopped
    · rw [if_pos stopped, if_pos stopped]
    · rw [if_neg stopped, if_neg stopped]

theorem not_stopped_of_attempts (attempts : client.attempts manager) : manager.stopped = false := by
  simp only [Client.attempts, Bool.and_eq_true, Bool.not_eq_true'] at attempts
  exact attempts.1

theorem result_call_connect (manager : Manager σ) :
    (client.call .connect).result manager =
      ((client.connect.result manager).1.map fun _ => .done, (client.connect.result manager).2) :=
  result_bind_pure client.connect (fun _ => Reply.done) manager

theorem start_apply (manager : Manager σ) :
    Manager.start manager =
      if manager.stopped then .error ConnectionError.shuttingDown manager
      else .ok () (if manager.loop = .idle then { manager with loop := .due } else manager) := by
  unfold Manager.start
  rw [bind_ok (get_apply _)]
  by_cases stopped : manager.stopped
  · rw [if_pos stopped, if_pos stopped]
    rfl
  · rw [if_neg stopped, if_neg stopped]
    split <;> rfl

theorem result_closeSession (session : Session σ) :
    client.closeSession.result session =
      if client.transport.isConnected session.server then
        ((client.transport.disconnect.result session.server).1,
          { session.forgetItems with
            server := (client.transport.disconnect.result session.server).2 })
      else (.ok (), session.forgetItems) := by
  have ends : client.closeSession.result session =
      (if client.transport.isConnected session.server then
        Session.onServer client.transport.disconnect
      else pure ()).result session.forgetItems := by
    unfold closeSession Exchange.result
    rw [bind_ok (modify_apply _ _), bind_ok (get_apply _)]
    rfl
  rw [ends]
  by_cases connected : client.transport.isConnected session.server
  · rw [if_pos connected, if_pos connected]
    exact result_within _ _ client.transport.disconnect session.forgetItems
  · rw [if_neg connected, if_neg connected]
    rfl

theorem items_closeSession (session : Session σ) :
    ∀ subscription ∈ (client.closeSession.result session).2.subscriptions,
      subscription.item = none := by
  have bare : ∀ subscription ∈ session.forgetItems.subscriptions, subscription.item = none := by
    intro subscription listed
    obtain ⟨armed, -, rfl⟩ := List.mem_map.1 listed
    rfl
  rw [result_closeSession]
  split <;> exact bare

theorem server_closeSession (session : Session σ) :
    (client.closeSession.result session).2.server =
      if client.transport.isConnected session.server then
        (client.transport.disconnect.result session.server).2
      else session.server := by
  rw [result_closeSession]
  split <;> rfl

theorem shutdown_apply (manager : Manager σ) :
    client.shutdown manager =
      if manager.stopped then .ok () manager
      else Manager.onSession client.closeSession
        { manager.publish .shuttingDown with stopped := true, loop := .idle } := by
  unfold shutdown
  rw [bind_ok (get_apply _)]
  split <;> rfl

theorem result_shutdown (manager : Manager σ) :
    client.shutdown.result manager =
      if manager.stopped then (.ok (), manager)
      else ((client.closeSession.result manager.session).1,
        { manager.publish .shuttingDown with
          stopped := true, loop := .idle
          session := (client.closeSession.result manager.session).2 }) := by
  unfold Exchange.result
  rw [shutdown_apply]
  by_cases stopped : manager.stopped
  · rw [if_pos stopped, if_pos stopped]
  · rw [if_neg stopped, if_neg stopped]
    exact result_within Manager.session (fun session manager => { manager with session })
      client.closeSession { manager.publish .shuttingDown with stopped := true, loop := .idle }

theorem result_call_shutdown (manager : Manager σ) :
    (client.call .shutdown).result manager =
      ((client.shutdown.result manager).1.map fun _ => .done,
        (client.shutdown.result manager).2) :=
  result_bind_pure client.shutdown (fun _ => Reply.done) manager

theorem keeps_guarded_of {α : Type} {P : Manager σ → Prop} {operation : Exchange (Session σ) α}
    (woken : ∀ manager, P manager → P manager.wake)
    (keeps : Keeps P (fun _ => True) (Manager.onSession operation)) :
    Keeps P (fun _ => True) (client.guarded operation) := by
  intro manager kept
  unfold guarded
  cases client.refusal? manager with
  | some cause =>
      refine .error trivial ?_
      split
      · exact woken manager kept
      · exact kept
  | none =>
      have ends := keeps manager kept
      dsimp only
      generalize Manager.onSession operation manager = result at ends
      cases ends with
      | ok kept' => exact .ok kept'
      | @error cause new _ kept' =>
          refine .error trivial ?_
          split
          · exact woken new kept'
          · exact kept'

theorem result_call_unsubscribe (id : Guid) (manager : Manager σ) :
    (client.call (.unsubscribe id)).result manager =
      (((client.unsubscribe id).result manager.session).1.map fun _ => .done,
        { manager with session := ((client.unsubscribe id).result manager.session).2 }) := by
  refine (result_bind_pure (Manager.onSession (client.unsubscribe id)) (fun _ => Reply.done)
    manager).trans ?_
  rw [Manager.onSession, result_within]

theorem result_call_typeDescriptor (name : String) (manager : Manager σ) :
    (client.call (.typeDescriptor name)).result manager =
      ((manager.typeDescriptor name).map .descriptor, manager) :=
  result_ofExcept_bind_pure (manager.typeDescriptor name) Reply.descriptor manager

theorem result_call_typeNode (name : String) (manager : Manager σ) :
    (client.call (.typeNode name)).result manager = ((manager.typeNode name).map .node, manager) :=
  result_ofExcept_bind_pure (manager.typeNode name) Reply.node manager

end Client

end AddressSpace
