import AddressSpace.Proofs.Manager.Items
import AddressSpace.Proofs.Manager.Published
import AddressSpace.Proofs.Merge

/-!
# Subscriptions outlast sessions

Whatever happens to the sessions of a manager, its subscriptions are those that have been made and
not been given up since, and while its session is open their items are backed by the server:
`history_subscriptions`.
-/

namespace AddressSpace
open Exchange

variable {σ α : Type}

/-! ## Logs -/

structure Outcome where
  call : Call
  succeeded : Bool

namespace Outcome

def subscription? : Outcome → Option Subscription
  | ⟨.subscribe id node listener, true⟩ => some ⟨id, node, listener, none⟩
  | _ => none

def givesUp (outcome : Outcome) (id : Guid) : Bool :=
  match outcome.call with
  | .unsubscribe other => other = id
  | _ => false

end Outcome

/-- The subscriptions that have been made, but for those that have been given up since. -/
def standing : List Outcome → List Subscription
  | [] => []
  | outcome :: later =>
    match outcome.subscription? with
    | some subscription =>
      if later.any (·.givesUp subscription.id) then standing later
      else subscription :: standing later
    | none => standing later

theorem standing_append_singleton (log : List Outcome) (outcome : Outcome) :
    standing (log ++ [outcome]) =
      (standing log).filter (!outcome.givesUp ·.id) ++ outcome.subscription?.toList := by
  induction log with
  | nil =>
      rw [List.nil_append, standing, standing]
      cases outcome.subscription? <;> rfl
  | cons first later ih =>
      rw [List.cons_append, standing, standing, ih]
      cases first.subscription? with
      | none => rfl
      | some subscription =>
          dsimp only
          rw [List.any_append, List.any_cons, List.any_nil, Bool.or_false]
          by_cases gone : later.any (·.givesUp subscription.id)
          · simp [gone]
          · by_cases gives : outcome.givesUp subscription.id
            · simp [gone, gives]
            · simp [gone, gives]

theorem standing_sublist (log : List Outcome) :
    (standing log).Sublist (log.filterMap Outcome.subscription?) := by
  induction log with
  | nil => exact .slnil
  | cons outcome later ih =>
      rw [standing]
      cases made : outcome.subscription? with
      | none =>
          rw [List.filterMap_cons_none made]
          exact ih
      | some subscription =>
          rw [List.filterMap_cons_some made]
          dsimp only
          split
          · exact ih.cons _
          · exact ih.cons_cons _

def Event.subscribed? : Event σ → Option Guid
  | .call (.subscribe id _ _) => some id
  | _ => none

namespace Client

def log (client : Client σ) : List (Event σ) → Manager σ → List Outcome
  | [], _ => []
  | .call call :: later, manager =>
    ⟨call, ((client.call call).result manager).1.toBool⟩ ::
      client.log later (client.react manager (.call call))
  | .change change :: later, manager => client.log later (client.react manager (.change change))

theorem ids_log (client : Client σ) (events : List (Event σ)) (manager : Manager σ) :
    (((client.log events manager).filterMap Outcome.subscription?).map (·.id)).Sublist
      (events.filterMap Event.subscribed?) := by
  induction events generalizing manager with
  | nil => exact .slnil
  | cons event later ih =>
      cases event with
      | change change => exact ih _
      | call call =>
          rw [log]
          cases call with
          | subscribe id node listener =>
              cases ((client.call (.subscribe id node listener)).result manager).1.toBool with
              | true => exact (ih _).cons_cons _
              | false => exact (ih _).cons _
          | _ => exact ih _

end Client

structure Manager.GoesOn (monitor : Monitor σ) (transport : Transport σ) (manager new : Manager σ) :
    Prop where
  session : manager.session.GoesOn monitor transport new.session
  state : new.state = manager.state
  stopped : new.stopped = manager.stopped

namespace Client

variable {client : Client σ} {monitor : Monitor σ} {manager : Manager σ}

def recorded (manager : Manager σ) : List Subscription :=
  manager.session.subscriptions.map Subscription.bare

/-- A manager whose subscriptions hold items only while it is connected, and whose items the server
backs as long as the session is open. -/
structure Tended (client : Client σ) (monitor : Monitor σ) (manager : Manager σ) : Prop where
  released : manager.state ≠ .connected →
    ∀ subscription ∈ manager.session.subscriptions, subscription.item = none
  backed : manager.state = .connected → client.isLive manager → monitor.Backs manager.session
  stopped : manager.state = .shuttingDown → manager.stopped

theorem tended_bare
    (bare : ∀ subscription ∈ manager.session.subscriptions, subscription.item = none)
    (state : manager.state ≠ .connected)
    (stopped : manager.state = .shuttingDown → manager.stopped) :
    client.Tended monitor manager :=
  ⟨fun _ => bare, fun connected => absurd connected state, stopped⟩

theorem Tended.goesOn {new : Manager σ} (tended : client.Tended monitor manager)
    (goesOn : manager.GoesOn monitor client.transport new) :
    client.Tended monitor new ∧ recorded new = recorded manager := by
  have server := goesOn.session
  refine ⟨⟨fun other => ?_, fun connected live => ?_, fun down => ?_⟩, ?_⟩
  · rw [server.subscriptions]
    rw [goesOn.state] at other
    exact tended.released other
  · rw [goesOn.state] at connected
    obtain ⟨more, going⟩ := server.server
    exact (tended.backed connected (going.connected live)).goesOn server live
  · rw [goesOn.stopped]
    rw [goesOn.state] at down
    exact tended.stopped down
  · rw [recorded, recorded, server.subscriptions]

/-! ## Calls on an open session -/

theorem guarded_result (client : Client σ) (operation : Exchange (Session σ) α)
    (manager : Manager σ) :
    ∃ answer new, (client.guarded operation).result manager = (answer, new) ∧
      new.state = manager.state ∧ new.stopped = manager.stopped ∧
      ((answer.toBool = false ∧ new.session = manager.session) ∨
        (manager.state = .connected ∧ client.isLive manager ∧
          operation.result manager.session = (answer, new.session))) := by
  unfold guarded Exchange.result
  dsimp only
  cases refused : client.refusal? manager with
  | some cause =>
      refine ⟨.error cause, _, rfl, ?_⟩
      split
      · exact ⟨manager.state_wake, manager.stopped_wake, .inl ⟨rfl, manager.session_wake⟩⟩
      · exact ⟨rfl, rfl, .inl ⟨rfl, rfl⟩⟩
  | none =>
      obtain ⟨connected, live⟩ : manager.state = .connected ∧ client.isLive manager := by
        unfold refusal? at refused
        cases state : manager.state <;> rw [state] at refused <;> simp at refused
        exact ⟨rfl, refused⟩
      unfold Manager.onSession Exchange.within
      dsimp only
      cases ran : operation manager.session with
      | ok a session => exact ⟨.ok a, _, rfl, rfl, rfl, .inr ⟨connected, live, rfl⟩⟩
      | error cause session =>
          refine ⟨.error cause, _, rfl, ?_⟩
          split
          · refine ⟨Manager.state_wake _, Manager.stopped_wake _, .inr ⟨connected, live, ?_⟩⟩
            rw [Manager.session_wake]
          · exact ⟨rfl, rfl, .inr ⟨connected, live, rfl⟩⟩

theorem goesOn_self (session : Session σ) : session.GoesOn monitor client.transport session :=
  ⟨⟨[], .refl _⟩, rfl, rfl⟩

theorem goesOn_guarded {operation : Exchange (Session σ) α}
    (goesOn : ∀ session : Session σ,
      session.GoesOn monitor client.transport (operation.result session).2)
    (manager : Manager σ) :
    manager.GoesOn monitor client.transport ((client.guarded operation).result manager).2 := by
  obtain ⟨answer, new, ends, state, stopped, outcome⟩ := client.guarded_result operation manager
  rw [ends]
  refine ⟨?_, state, stopped⟩
  rcases outcome with ⟨-, refused⟩ | ⟨-, -, ran⟩
  · rw [refused]
    exact goesOn_self _
  · have going := goesOn manager.session
    rw [ran] at going
    exact going

section

variable (monitors : client.transport.Monitors monitor)
include monitors

theorem goesOn_readValues (nodes : List NodeId) (session : Session σ) :
    session.GoesOn monitor client.transport
      ((client.ask (·.readValues nodes)).result session).2 := by
  have asks := monitors.asks session.server
  have stands : session.Stands _ (fun _ => True)
      ((client.ask (·.readValues nodes)).result session).2 :=
    (keeps_ask asks fun _ asks => Browser.keeps_readValues (fun _ _ => trivial) asks nodes).result
      ⟨.refl _, fun _ _ => trivial, rfl, rfl⟩
  exact ⟨⟨[], stands.server⟩, stands.namespaces, (keeps_subscriptions_ask _).result rfl⟩

theorem goesOn_call {call : Call} (connects : call ≠ .connect) (shuts : call ≠ .shutdown)
    (subscribes : ∀ id node listener, call ≠ .subscribe id node listener)
    (unsubscribes : ∀ id, call ≠ .unsubscribe id) (manager : Manager σ) :
    manager.GoesOn monitor client.transport ((client.call call).result manager).2 := by
  have stays : manager.GoesOn monitor client.transport manager := ⟨goesOn_self _, rfl, rfl⟩
  cases call with
  | connect => exact absurd rfl connects
  | shutdown => exact absurd rfl shuts
  | subscribe id node listener => exact absurd rfl (subscribes id node listener)
  | unsubscribe id => exact absurd rfl (unsubscribes id)
  | ask question =>
      refine goesOn_guarded (fun session => ?_) manager
      rw [result_bind_pure]
      exact goesOn_respond monitors question session
  | readValues nodes =>
      refine goesOn_guarded (fun session => ?_) manager
      rw [result_bind_pure]
      exact goesOn_readValues monitors nodes session
  | namespaces =>
      have goesOn : ∀ session : Session σ, session.GoesOn monitor client.transport
          ((do pure (.uris (← get).namespaces.toList) : Exchange (Session σ) Reply).result
            session).2 := goesOn_self
      exact goesOn_guarded goesOn manager
  | typeDescriptor name =>
      have kept : Keeps (manager.GoesOn monitor client.transport) (fun _ => True)
          (client.call (.typeDescriptor name)) :=
        keeps_get.bind fun _ => (keeps_ofExcept fun _ _ => trivial).bind fun _ => keeps_pure _
      exact kept.result stays
  | typeNode name =>
      have kept : Keeps (manager.GoesOn monitor client.transport) (fun _ => True)
          (client.call (.typeNode name)) :=
        keeps_get.bind fun _ => (keeps_ofExcept fun _ _ => trivial).bind fun _ => keeps_pure _
      exact kept.result stays

/-! ## Subscribing and unsubscribing -/

theorem tended_subscribe (tended : client.Tended monitor manager) (id : Guid) (node : NodeId)
    (listener : Listener) :
    let result := (client.call (.subscribe id node listener)).result manager
    client.Tended monitor result.2 ∧ recorded result.2 = recorded manager ++
      (Outcome.subscription? ⟨.subscribe id node listener, result.1.toBool⟩).toList := by
  obtain ⟨answer, new, ends, state, stopped, outcome⟩ := client.guarded_result
    (do pure (Reply.subscribed (← client.subscribe id node listener))) manager
  have same : (client.call (.subscribe id node listener)).result manager = (answer, new) := ends
  rw [same]
  have failed : answer.toBool = false →
      manager.session.GoesOn monitor client.transport new.session →
      client.Tended monitor new ∧ recorded new = recorded manager ++
        (Outcome.subscription? ⟨.subscribe id node listener, answer.toBool⟩).toList := by
    intro failure session
    rw [failure]
    obtain ⟨tended', kept⟩ := tended.goesOn ⟨session, state, stopped⟩
    exact ⟨tended', kept.trans (List.append_nil _).symm⟩
  rcases outcome with ⟨failure, refused⟩ | ⟨connected, live, ran⟩
  · refine failed failure ?_
    rw [refused]
    exact goesOn_self _
  · rw [result_bind_pure] at ran
    obtain ⟨cause, session, fails, goesOn⟩ | ⟨wire, item, server, encoded, asked, succeeds⟩ :=
      subscribe_cases monitors id node listener manager.session
    · rw [Exchange.result, fails] at ran
      obtain ⟨rfl, rfl⟩ := Prod.mk.inj ran
      exact failed rfl goesOn
    · rw [Exchange.result, succeeds] at ran
      obtain ⟨rfl, whole⟩ := Prod.mk.inj ran
      dsimp only at whole
      have stays := state.trans connected
      refine ⟨⟨fun other => absurd stays other, fun _ live' => ?_, fun down => ?_⟩, ?_⟩
      · rw [← whole]
        rw [isLive, ← whole] at live'
        exact backs_subscribed monitors (tended.backed connected live) id encoded asked live'
      · rw [stays] at down
        cases down
      · rw [recorded, ← whole]
        dsimp only
        rw [List.map_append]
        rfl

theorem tended_unsubscribe (tended : client.Tended monitor manager) (id : Guid) :
    let new := ((client.call (.unsubscribe id)).result manager).2
    client.Tended monitor new ∧ recorded new = (recorded manager).eraseP (·.id = id) := by
  obtain ⟨server, ended, left, goesOn, own⟩ := unsubscribe_result monitors id manager.session
  dsimp only
  rw [result_call_unsubscribe, left]
  refine ⟨⟨fun other subscription listed => ?_, fun connected live => ?_, tended.stopped⟩, ?_⟩
  · exact tended.released other subscription (List.mem_of_mem_eraseP listed)
  · exact backs_unsubscribed (tended.backed connected (goesOn.connected live)) goesOn own live
  · rw [recorded, recorded, List.eraseP_map]
    rfl

/-! ## Connecting -/

structure Reopened (client : Client σ) (monitor : Monitor σ) (session new : Session σ) : Prop where
  bare : new.subscriptions.map Subscription.bare = session.subscriptions
  asked : monitor.asked new.server = monitor.asked session.server ++
    new.subscriptions.filterMap (·.request? new.namespaces)
  backs : client.transport.isConnected new.server → monitor.Backs new

theorem establish_cases
    (bare : ∀ subscription ∈ manager.session.subscriptions, subscription.item = none) :
    (∃ new, client.establish manager = .ok () new ∧ new.state = manager.state ∧
      client.Reopened monitor manager.session new.session) ∨
    ∃ cause new, client.establish manager = .error cause new ∧ new.state = manager.state ∧
      new.session.subscriptions = manager.session.subscriptions := by
  rw [establish_apply]
  obtain ⟨server, opens, asked⟩ := openSession_result monitors client.config manager.session
  unfold Exchange.result at opens
  cases opened : client.openSession client.config manager.session with
  | error cause session =>
      rw [opened] at opens
      obtain rfl : session = _ := opens
      exact .inr ⟨cause, _, rfl, rfl, rfl⟩
  | ok endpoint session =>
      rw [opened] at opens
      obtain rfl : session = _ := opens
      have rebuilds := rebuild_result monitors client.config { manager.session with server }
      unfold Exchange.result at rebuilds
      dsimp only at rebuilds ⊢
      cases rebuilt : client.rebuild client.config { manager.session with server } with
      | error cause session =>
          rw [rebuilt] at rebuilds
          exact .inr ⟨cause, _, rfl, rfl, rebuilds.2⟩
      | ok count session =>
          rw [rebuilt] at rebuilds
          obtain ⟨goesOn, kept⟩ := rebuilds
          dsimp only at goesOn kept
          rw [← kept] at bare
          obtain ⟨armed, last, count', rearms, rearmed⟩ := rearmed_rearm monitors session bare
          dsimp only
          rw [rearms]
          refine .inl ⟨_, rfl, rfl, rearmed.bare.trans kept, ?_, rearmed.backs⟩
          show monitor.asked last = monitor.asked manager.session.server ++
            armed.filterMap (·.request? session.namespaces)
          rw [rearmed.goesOn.asked, goesOn.asked, asked, List.append_nil, ← rearmed.bare,
            List.filterMap_map]
          rfl

theorem attempt_cases
    (bare : ∀ subscription ∈ manager.session.subscriptions, subscription.item = none)
    (alive : manager.state ≠ .shuttingDown) :
    (∃ new, client.attempt manager = .ok () new ∧ new.state = .connected ∧
      client.Reopened monitor manager.session new.session) ∨
    ∃ cause new, client.attempt manager = .error cause new ∧ new.state = .disconnected ∧
      new.session.subscriptions = manager.session.subscriptions := by
  have session := manager.session_setState .connecting
  have state : (manager.setState .connecting).state = .connecting := manager.state_setState alive
  have bare' := bare
  rw [← session] at bare'
  obtain ⟨new, establishes, state', reopened⟩ | ⟨cause, new, establishes, state', kept⟩ :=
      @establish_cases _ _ _ ((manager.setState .connecting).record ConnectionStats.recordAttempt)
        monitors bare'
  · refine .inl ⟨_, attempt_of_ok establishes, Manager.state_setState _ ?_, ?_⟩
    · show new.state ≠ _
      rw [state']
      exact ne_of_eq_of_ne state (by decide)
    · rw [Manager.session_setState, ← session]
      exact reopened
  · refine .inr ⟨cause, _, attempt_of_error establishes, Manager.state_setState _ ?_, ?_⟩
    · show new.state ≠ _
      rw [state']
      exact ne_of_eq_of_ne state (by decide)
    · rw [Manager.session_setState]
      show (client.closeSession.result new.session).2.subscriptions = _
      rw [subscriptions_closeSession, kept]
      show (manager.setState .connecting).session.subscriptions.map _ = _
      rw [session, Subscription.map_bare bare]

omit monitors in
theorem subscriptions_beginning (tended : client.Tended monitor manager) :
    (beginning manager).session.subscriptions = recorded manager := by
  unfold beginning
  by_cases connected : manager.state = .connected
  · rw [if_pos connected, Manager.noteFault, Manager.session_setState]
    rfl
  · rw [if_neg connected]
    exact (Subscription.map_bare (tended.released connected)).symm

omit monitors in
theorem bare_beginning (tended : client.Tended monitor manager) :
    ∀ subscription ∈ (beginning manager).session.subscriptions, subscription.item = none := by
  rw [subscriptions_beginning tended]
  intro subscription listed
  obtain ⟨armed, -, rfl⟩ := List.mem_map.1 listed
  rfl

omit monitors in
theorem beginning_alive (tended : client.Tended monitor manager)
    (attempts : client.attempts manager) : (beginning manager).state ≠ .shuttingDown := by
  have going : manager.stopped = false := by
    simp only [Client.attempts, Bool.and_eq_true, Bool.not_eq_true'] at attempts
    exact attempts.1
  unfold beginning
  by_cases connected : manager.state = .connected
  · rw [if_pos connected, Manager.noteFault, Manager.state_setState]
    · decide
    · show manager.state ≠ _
      rw [connected]
      decide
  · rw [if_neg connected]
    intro down
    rw [tended.stopped down] at going
    cases going

theorem tended_connect (tended : client.Tended monitor manager) :
    let new := ((client.call .connect).result manager).2
    client.Tended monitor new ∧ recorded new = recorded manager := by
  dsimp only
  rw [result_call_connect, Exchange.result, connect_apply]
  by_cases attempts : client.attempts manager
  · rw [if_pos attempts]
    have bare := bare_beginning tended
    have known := subscriptions_beginning tended
    obtain ⟨new, ends, state, reopened⟩ | ⟨cause, new, ends, state, kept⟩ :=
      attempt_cases monitors bare (beginning_alive tended attempts)
    · rw [ends]
      refine ⟨⟨fun other => absurd state other, fun _ live => reopened.backs live, fun down => ?_⟩,
        reopened.bare.trans known⟩
      rw [state] at down
      cases down
    · rw [ends]
      rw [← kept] at bare
      refine ⟨tended_bare bare (by rw [state]; decide) fun down => ?_, ?_⟩
      · rw [state] at down
        cases down
      · rw [recorded, Subscription.map_bare bare, kept, known]
  · rw [if_neg attempts]
    by_cases stopped : manager.stopped
    · rw [if_pos stopped]
      exact ⟨tended, rfl⟩
    · rw [if_neg stopped]
      exact ⟨tended, rfl⟩

/-! ## Shutting down -/

omit monitors in
theorem tended_shutdown (tended : client.Tended monitor manager) :
    let new := ((client.call .shutdown).result manager).2
    client.Tended monitor new ∧ recorded new = recorded manager := by
  dsimp only
  rw [result_call_shutdown, result_shutdown]
  by_cases stopped : manager.stopped
  · rw [if_pos stopped]
    exact ⟨tended, rfl⟩
  · have left := client.subscriptions_closeSession manager.session
    rw [if_neg stopped]
    refine ⟨tended_bare (fun subscription listed => ?_) (fun never => nomatch never)
      fun _ => rfl, ?_⟩
    · rw [left] at listed
      obtain ⟨armed, -, rfl⟩ := List.mem_map.1 listed
      rfl
    · rw [recorded, left, List.map_map]
      rfl

/-! ## Runs -/

theorem tended_call (tended : client.Tended monitor manager)
    (distinct : ((recorded manager).map (·.id)).Nodup) (call : Call) :
    let result := (client.call call).result manager
    let outcome : Outcome := ⟨call, result.1.toBool⟩
    client.Tended monitor result.2 ∧ recorded result.2 =
      (recorded manager).filter (!outcome.givesUp ·.id) ++ outcome.subscription?.toList := by
  have others : ∀ {new : Manager σ}, client.Tended monitor new ∧ recorded new = recorded manager →
      client.Tended monitor new ∧
        recorded new = (recorded manager).filter (fun _ => !false) ++ [] := by
    rintro new ⟨tended', same⟩
    refine ⟨tended', same.trans ?_⟩
    rw [List.append_nil]
    exact (List.filter_eq_self.2 fun _ _ => rfl).symm
  cases call with
  | connect => exact others (tended_connect monitors tended)
  | shutdown => exact others (tended_shutdown tended)
  | subscribe id node listener =>
      obtain ⟨tended', same⟩ := tended_subscribe monitors tended id node listener
      refine ⟨tended', same.trans ?_⟩
      congr 1
      exact (List.filter_eq_self.2 fun _ _ => rfl).symm
  | unsubscribe id =>
      obtain ⟨tended', same⟩ := tended_unsubscribe monitors tended id
      refine ⟨tended', same.trans ?_⟩
      rw [eraseP_eq_filter distinct]
      show _ = (recorded manager).filter _ ++ []
      rw [List.append_nil]
      refine List.filter_congr fun subscription _ => ?_
      show decide (subscription.id ≠ id) = !decide (id = subscription.id)
      simp [eq_comm]
  | _ => exact others (tended.goesOn (goesOn_call monitors (by simp) (by simp) (by simp) (by simp)
      manager))

omit monitors in
theorem goesOn_change {change : σ → σ}
    (goesOn : ∀ server, monitor.GoesOn client.transport [] [] server (change server))
    (manager : Manager σ) :
    manager.GoesOn monitor client.transport (client.react manager (.change change)) :=
  ⟨⟨⟨[], goesOn _⟩, rfl, rfl⟩, rfl, rfl⟩

theorem tended_run {events : List (Event σ)}
    (drops : ∀ change, .change change ∈ events → ∀ server,
      monitor.GoesOn client.transport [] [] server (change server))
    {log : List Outcome} (tended : client.Tended monitor manager)
    (stands : recorded manager = standing log)
    (fresh : (((log ++ client.log events manager).filterMap Outcome.subscription?).map
      (·.id)).Nodup) :
    client.Tended monitor (events.foldl client.react manager) ∧
      recorded (events.foldl client.react manager) =
        standing (log ++ client.log events manager) := by
  -- The log goes along: each call is added to it before the rest of the run.
  induction events generalizing manager log with
  | nil => exact ⟨tended, by rw [Client.log, List.append_nil]; exact stands⟩
  | cons event later ih =>
      have drops' := fun change listed => drops change (List.mem_cons_of_mem event listed)
      cases event with
      | change change =>
          obtain ⟨tended', same⟩ := tended.goesOn
            (goesOn_change (drops change List.mem_cons_self) manager)
          exact ih drops' tended' (same.trans stands) fresh
      | call call =>
          have distinct : ((recorded manager).map (·.id)).Nodup := by
            rw [stands]
            refine fresh.sublist ((standing_sublist log).trans ?_ |>.map _)
            rw [List.filterMap_append]
            exact List.sublist_append_left _ _
          obtain ⟨tended', becomes⟩ := tended_call monitors tended distinct call
          rw [stands, ← standing_append_singleton] at becomes
          rw [Client.log, List.append_cons] at fresh ⊢
          exact ih drops' tended' becomes fresh

/-- Whatever is called, and whenever sessions are lost, on a server that deals with its items as it
should the subscriptions of a manager are, in order, those that have been made and not been given up
since.  None holds an item unless the manager is connected, while its session is open the items they
hold are different ones of the server that monitor their nodes for their listeners, and an attempt
that succeeds asks the server once for each subscription whose node the new namespaces can tell it. -/
theorem history_subscriptions {events : List (Event σ)}
    (drops : ∀ change, .change change ∈ events → ∀ server,
      monitor.GoesOn client.transport [] [] server (change server))
    (fresh : (events.filterMap Event.subscribed?).Nodup) (server : σ) :
    let manager := (client.history events server).manager
    recorded manager = standing (client.log events { session := { server } }) ∧
    (manager.state ≠ .connected →
      ∀ subscription ∈ manager.session.subscriptions, subscription.item = none) ∧
    (manager.state = .connected → client.isLive manager → monitor.Backs manager.session) ∧
    (client.attempts manager → ∀ new, client.connect manager = .ok () new →
      monitor.asked new.session.server = monitor.asked manager.session.server ++
        (recorded manager).filterMap (·.request? new.session.namespaces)) := by
  have initial : client.Tended monitor ({ session := { server } } : Manager σ) :=
    tended_bare (fun _ listed => nomatch listed) (fun never => nomatch never)
      fun never => nomatch never
  obtain ⟨tended, stands⟩ := @tended_run _ _ _ _ monitors events drops [] initial rfl
    (fresh.sublist (client.ids_log events _))
  rw [← manager_history] at tended stands
  dsimp only
  generalize (client.history events server).manager = manager at tended stands
  refine ⟨stands, tended.released, tended.backed, fun attempts new connects => ?_⟩
  rw [connect_apply, if_pos attempts] at connects
  obtain ⟨last, ends, -, reopened⟩ | ⟨cause, last, ends, -⟩ :=
    attempt_cases monitors (bare_beginning tended) (beginning_alive tended attempts)
  · rw [connects] at ends
    cases ends
    have same : (beginning manager).session.server = manager.session.server := by
      unfold beginning
      split
      · rw [Manager.noteFault, Manager.session_setState]
        rfl
      · rfl
    rw [reopened.asked, same, ← subscriptions_beginning tended, ← reopened.bare, List.filterMap_map]
    rfl
  · rw [connects] at ends
    cases ends

end

end Client

/-! ### A desk that loses a session -/

structure Desk where
  isOpen : Bool := false
  items : UInt32 → Option (WireId × Listener) := fun _ => none
  asked : List (WireId × Listener) := []

namespace Desk

def lose (desk : Desk) : Desk := { desk with isOpen := false, items := fun _ => none }

def accept (what : WireId × Listener) : Exchange Desk UInt32 := fun desk =>
  let number := UInt32.ofNat desk.asked.length
  let asked := desk.asked ++ [what]
  if desk.isOpen ∧ desk.items number = none then
    .ok number { desk with
      asked, items := fun item => if item = number then some what else desk.items item }
  else .error ConnectionError.notConnected { desk with asked }

def transport : Transport Desk where
  isConnected desk := desk.isOpen
  endpoints url := pure [.ofMode url .none]
  connect _ _ := modify fun desk => { desk with isOpen := true, items := fun _ => none }
  disconnect := modify lose
  browse _ := pure {}
  browseNext _ := pure {}
  read _ := pure { values := [.good (.array [.string Standard.namespaceUri])] }
  translate _ := pure {}
  subscribe wire listener := accept (wire, listener)
  unsubscribe item := modify fun desk =>
    { desk with items := fun other => if other = item then none else desk.items other }

def view : Monitor Desk := ⟨Desk.items, Desk.asked⟩

def client : Client Desk := ⟨transport, .ofEndpoint "opc.tcp://desk"⟩

theorem goesOn_lose (desk : Desk) : view.GoesOn transport [] [] desk desk.lose :=
  ⟨(List.append_nil _).symm, fun never => (nomatch never), fun never => nomatch never⟩

theorem goesOn_accept (what : WireId × Listener) (desk : Desk) :
    view.GoesOn transport [] [what] desk ((accept what).result desk).2 := by
  unfold accept Exchange.result
  dsimp only
  by_cases free : desk.isOpen ∧ desk.items (UInt32.ofNat desk.asked.length) = none
  · rw [if_pos free]
    refine ⟨rfl, id, fun _ item other _ there => ?_⟩
    have apart : item ≠ UInt32.ofNat desk.asked.length := by
      rintro rfl
      cases free.2.symm.trans there
    exact (if_neg apart).trans there
  · rw [if_neg free]
    exact ⟨rfl, id, fun _ _ _ _ => id⟩

theorem accepted {what : WireId × Listener} {desk new : Desk} {item : UInt32}
    (accepts : accept what desk = .ok item new) :
    desk.items item = none ∧ new.items item = some what := by
  unfold accept at accepts
  dsimp only at accepts
  by_cases free : desk.isOpen ∧ desk.items (UInt32.ofNat desk.asked.length) = none
  · rw [if_pos free] at accepts
    cases accepts
    exact ⟨free.2, if_pos rfl⟩
  · rw [if_neg free] at accepts
    cases accepts

theorem monitors : transport.Monitors view :=
  ⟨fun _ desk => .refl desk, fun _ _ _ => rfl, goesOn_lose, fun _ desk => .refl desk,
    fun _ desk => .refl desk, fun _ desk => .refl desk, fun _ desk => .refl desk,
    fun wire listener desk => goesOn_accept (wire, listener) desk,
    fun _ _ _ _ _ accepts _ => accepted accepts,
    fun _ _ => ⟨(List.append_nil _).symm, id, fun _ _ _ spared there =>
      (if_neg fun same => spared (List.mem_singleton.2 same)).trans there⟩⟩

def events : List (Event Desk) :=
  [.call .connect, .call (.subscribe ⟨1⟩ (Standard.node 100) ⟨0⟩),
    .call (.subscribe ⟨2⟩ (Standard.node 101) ⟨0⟩), .call (.subscribe ⟨3⟩ (Standard.node 102) ⟨0⟩),
    .call (.unsubscribe ⟨2⟩), .change lose, .call (.subscribe ⟨4⟩ (Standard.node 103) ⟨0⟩),
    .call .connect]

end Desk

/-- Of three subscriptions made before the session is lost, the two that are not given up have new
items in the next one, and the one tried in between is not made. -/
theorem history_subscriptions_desk :
    let manager := (Desk.client.history Desk.events {}).manager
    Client.recorded manager =
      standing (Desk.client.log Desk.events { session := { server := {} } }) ∧
    Client.recorded manager =
      [⟨⟨1⟩, Standard.node 100, ⟨0⟩, none⟩, ⟨⟨3⟩, Standard.node 102, ⟨0⟩, none⟩] ∧
    manager.session.subscriptions.map (·.item) = [some 3, some 4] ∧
    Desk.view.Backs manager.session := by
  have drops : ∀ change, .change change ∈ Desk.events → ∀ desk,
      Desk.view.GoesOn Desk.client.transport [] [] desk (change desk) := by
    intro change listed
    simp only [Desk.events, List.mem_cons, reduceCtorEq, Event.change.injEq, List.not_mem_nil,
      or_false, false_or] at listed
    subst listed
    exact Desk.goesOn_lose
  have fresh : (Desk.events.filterMap Event.subscribed?).Nodup := by decide
  obtain ⟨stands, -, backed, -⟩ :=
    Client.history_subscriptions Desk.monitors drops fresh {}
  have ends : let manager := (Desk.client.history Desk.events {}).manager
      manager.state = .connected ∧ Desk.client.isLive manager ∧
      Client.recorded manager =
        [⟨⟨1⟩, Standard.node 100, ⟨0⟩, none⟩, ⟨⟨3⟩, Standard.node 102, ⟨0⟩, none⟩] ∧
      manager.session.subscriptions.map (·.item) = [some 3, some 4] := by
    rw [Client.manager_history]
    simp only [Desk.events, List.foldl, Client.react, Client.call, Client.connect]
    -- The crawl has to be a descent to be evaluated.
    delta Client.attempt Client.establish Client.rebuild Browser.crawlTypes
    simp only [Browser.discover_eq_forM]
    decide +kernel
  exact ⟨stands, ends.2.2.1, ends.2.2.2, backed ends.1 ends.2.1⟩

end AddressSpace
