import AddressSpace.Proofs.Keeping.Session
import Mathlib.Data.List.Nodup

/-!
# Monitored items

A `Monitor` sees what the items of a server's session monitor and what the server has been asked to
monitor.  On servers that deal with items as `Transport.Monitors` says, the items of a session's
subscriptions are `Backs`ed by those of the server: each operation of a session keeps this as long
as the session stays open, and `rearm` makes it so from the start, `rearmed_rearm`.
-/

namespace AddressSpace
open Exchange

variable {σ : Type}

/-! ## Servers -/

structure Monitor (σ : Type) where
  item? : σ → UInt32 → Option (WireId × Listener)
  asked : σ → List (WireId × Listener)

/-- A server has been asked for some `more` and has opened no session.  If its session is still open,
all its items but the `ended` ones are as before; a session that is lost may have lost its items. -/
structure Monitor.GoesOn (monitor : Monitor σ) (transport : Transport σ) (ended : List UInt32)
    (more : List (WireId × Listener)) (server new : σ) : Prop where
  asked : monitor.asked new = monitor.asked server ++ more
  connected : transport.isConnected new → transport.isConnected server
  items : transport.isConnected new → ∀ item what, item ∉ ended →
    monitor.item? server item = some what → monitor.item? new item = some what

/-- Only `connect` opens sessions, only `subscribe` makes items, each with a number that no other
item of the session has, and only `unsubscribe` ends one in an open session. -/
structure Transport.Monitors (transport : Transport σ) (monitor : Monitor σ) : Prop where
  endpoints : ∀ url server,
    monitor.GoesOn transport [] [] server ((transport.endpoints url).result server).2
  connect : ∀ endpoint options server,
    monitor.asked ((transport.connect endpoint options).result server).2 = monitor.asked server
  disconnect : ∀ server, monitor.GoesOn transport [] [] server (transport.disconnect.result server).2
  browse : ∀ request server,
    monitor.GoesOn transport [] [] server ((transport.browse request).result server).2
  browseNext : ∀ point server,
    monitor.GoesOn transport [] [] server ((transport.browseNext point).result server).2
  read : ∀ requests server,
    monitor.GoesOn transport [] [] server ((transport.read requests).result server).2
  translate : ∀ request server,
    monitor.GoesOn transport [] [] server ((transport.translate request).result server).2
  subscribe : ∀ wire listener server, monitor.GoesOn transport [] [(wire, listener)] server
    ((transport.subscribe wire listener).result server).2
  subscribed : ∀ wire listener server item new,
    transport.subscribe wire listener server = .ok item new → transport.isConnected new →
      monitor.item? server item = none ∧ monitor.item? new item = some (wire, listener)
  unsubscribe : ∀ item server,
    monitor.GoesOn transport [item] [] server ((transport.unsubscribe item).result server).2

namespace Monitor.GoesOn

variable {monitor : Monitor σ} {transport : Transport σ} {ended ended' : List UInt32}
  {more more' : List (WireId × Listener)} {server middle new : σ}

theorem refl (server : σ) : monitor.GoesOn transport [] [] server server :=
  ⟨(List.append_nil _).symm, id, fun _ _ _ _ => id⟩

theorem trans (first : monitor.GoesOn transport ended more server middle)
    (second : monitor.GoesOn transport ended' more' middle new) :
    monitor.GoesOn transport (ended ++ ended') (more ++ more') server new := by
  refine ⟨?_, fun open' => first.connected (second.connected open'),
    fun open' item what spared there => ?_⟩
  · rw [second.asked, first.asked, List.append_assoc]
  · rw [List.mem_append, not_or] at spared
    exact second.items open' item what spared.2
      (first.items (second.connected open') item what spared.1 there)

theorem none_of_none (goesOn : monitor.GoesOn transport [] more server new)
    (open' : transport.isConnected new) {item : UInt32} (absent : monitor.item? new item = none) :
    monitor.item? server item = none := by
  cases there : monitor.item? server item with
  | none => rfl
  | some what =>
      rw [goesOn.items open' item what List.not_mem_nil there] at absent
      cases absent

end Monitor.GoesOn

theorem Transport.Monitors.asks {transport : Transport σ} {monitor : Monitor σ}
    (monitors : transport.Monitors monitor) (start : σ) :
    transport.Asks (monitor.GoesOn transport [] [] start) fun _ => True := by
  have keeps : ∀ {α : Type} (exchange : Exchange σ α),
      (∀ server, monitor.GoesOn transport [] [] server (exchange.result server).2) →
        Exchange.Keeps (monitor.GoesOn transport [] [] start) (fun _ => True) exchange :=
    fun exchange goesOn => keeps_of_result fun server before => before.trans (goesOn server)
  exact ⟨fun request => keeps _ (monitors.browse request),
    fun point => keeps _ (monitors.browseNext point),
    fun requests => keeps _ (monitors.read requests),
    fun request => keeps _ (monitors.translate request)⟩

/-! ## Subscriptions -/

/-- What a subscription asks a server to monitor, if its node can be told the server at all. -/
def Subscription.request? (namespaces : NamespaceTable) (subscription : Subscription) :
    Option (WireId × Listener) :=
  (namespaces.encode subscription.node).toOption.map fun wire => (wire, subscription.listener)

def Subscription.bare (subscription : Subscription) : Subscription :=
  { subscription with item := none }

theorem Subscription.bare_of_none {subscription : Subscription} (none : subscription.item = none) :
    subscription.bare = subscription := by
  obtain ⟨id, node, listener, item⟩ := subscription
  cases none
  rfl

theorem Subscription.map_bare {subscriptions : List Subscription}
    (none : ∀ subscription ∈ subscriptions, subscription.item = none) :
    subscriptions.map bare = subscriptions := by
  have same := List.map_congr_left fun subscription listed => bare_of_none (none subscription listed)
  rw [same, List.map_id']

/-- The items of the subscriptions of a session are all different, and each is an item of the server
that monitors the node of its subscription for its listener. -/
structure Monitor.Backs (monitor : Monitor σ) (session : Session σ) : Prop where
  distinct : (session.subscriptions.filterMap (·.item)).Nodup
  monitored : ∀ subscription ∈ session.subscriptions, ∀ item, subscription.item = some item →
    ∃ wire, session.namespaces.encode subscription.node = .ok wire ∧
      monitor.item? session.server item = some (wire, subscription.listener)

structure Session.GoesOn (monitor : Monitor σ) (transport : Transport σ) (session new : Session σ) :
    Prop where
  server : ∃ more, monitor.GoesOn transport [] more session.server new.server
  namespaces : new.namespaces = session.namespaces
  subscriptions : new.subscriptions = session.subscriptions

theorem Monitor.Backs.goesOn {monitor : Monitor σ} {transport : Transport σ}
    {session new : Session σ} (backs : monitor.Backs session)
    (goesOn : session.GoesOn monitor transport new) (open' : transport.isConnected new.server) :
    monitor.Backs new := by
  obtain ⟨more, server⟩ := goesOn.server
  constructor
  · rw [goesOn.subscriptions]
    exact backs.distinct
  · intro subscription listed item holds
    rw [goesOn.subscriptions] at listed
    obtain ⟨wire, encoded, there⟩ := backs.monitored subscription listed item holds
    refine ⟨wire, ?_, server.items open' item _ List.not_mem_nil there⟩
    rw [goesOn.namespaces]
    exact encoded

namespace Client

variable {client : Client σ} {monitor : Monitor σ} {session : Session σ}

/-! ## Questions -/

section Questions

variable {α : Type} {subscriptions : List Subscription}

theorem keeps_subscriptions_ask (question : Browser σ → Exchange σ α) :
    Keeps (fun session => session.subscriptions = subscriptions) (fun _ => True)
      (client.ask question) :=
  keeps_get.bind fun _ => (keeps_true _).within (fun _ _ => trivial) fun _ kept _ _ => kept

theorem keeps_subscriptions_askAboutTypes (question : Browser σ → Survey σ α) :
    Keeps (fun session => session.subscriptions = subscriptions) (fun _ => True)
      (client.askAboutTypes question) :=
  keeps_get.bind fun _ => (keeps_true _).within (fun _ _ => trivial) fun _ kept _ _ => kept

theorem keeps_subscriptions_respond (question : Question) :
    Keeps (fun session => session.subscriptions = subscriptions) (fun _ => True)
      (client.respond question) := by
  cases question with
  | browseInstances start context type =>
      exact (keeps_subscriptions_askAboutTypes _).bind fun _ => keeps_pure _
  | isSameOrSubtype expected candidate =>
      exact (keeps_subscriptions_askAboutTypes _).bind fun _ => keeps_pure _
  | _ => exact (keeps_subscriptions_ask _).bind fun _ => keeps_pure _

end Questions

section

variable (monitors : client.transport.Monitors monitor)
include monitors

theorem goesOn_respond (question : Question) (session : Session σ) :
    session.GoesOn monitor client.transport ((client.respond question).result session).2 := by
  have asks := monitors.asks session.server
  have stands : session.Stands _ (fun _ => True) ((client.respond question).result session).2 :=
    (keeps_respond asks (fun _ _ _ _ _ _ => trivial) question).result
      ⟨.refl _, fun _ _ => trivial, rfl, rfl⟩
  exact ⟨⟨[], stands.server⟩, stands.namespaces, (keeps_subscriptions_respond question).result rfl⟩

/-! ## Subscribing -/

theorem subscribe_cases (id : Guid) (node : NodeId) (listener : Listener) (session : Session σ) :
    (∃ cause new, client.subscribe id node listener session = .error cause new ∧
      session.GoesOn monitor client.transport new) ∨
    ∃ wire item server, session.namespaces.encode node = .ok wire ∧
      client.transport.subscribe wire listener session.server = .ok item server ∧
      client.subscribe id node listener session = .ok id { session with
        server, subscriptions := session.subscriptions ++ [⟨id, node, listener, some item⟩] } := by
  unfold subscribe
  rw [bind_ok (get_apply _)]
  cases encoded : session.namespaces.encode node with
  | error cause => exact .inl ⟨cause, session, rfl, ⟨[], .refl _⟩, rfl, rfl⟩
  | ok wire =>
      rw [bind_ok (ofExcept_ok wire _), Session.onServer_bind]
      have goesOn := monitors.subscribe wire listener session.server
      unfold Exchange.result at goesOn
      cases asked : client.transport.subscribe wire listener session.server with
      | error cause server =>
          rw [asked] at goesOn
          exact .inl ⟨cause, _, rfl, ⟨_, goesOn⟩, rfl, rfl⟩
      | ok item server => exact .inr ⟨wire, item, server, rfl, asked, rfl⟩

theorem backs_subscribed (backs : monitor.Backs session) (id : Guid) {node : NodeId}
    {listener : Listener} {wire : WireId} {item : UInt32} {server : σ}
    (encoded : session.namespaces.encode node = .ok wire)
    (asked : client.transport.subscribe wire listener session.server = .ok item server)
    (open' : client.transport.isConnected server) :
    monitor.Backs { session with
      server, subscriptions := session.subscriptions ++ [⟨id, node, listener, some item⟩] } := by
  obtain ⟨absent, present⟩ := monitors.subscribed wire listener _ item server asked open'
  have goesOn := monitors.subscribe wire listener session.server
  rw [Exchange.result, asked] at goesOn
  constructor
  · rw [List.filterMap_append, List.nodup_append]
    -- The number is new among the items of the server, so also among those that are held.
    refine ⟨backs.distinct, List.nodup_singleton item, fun older listed newer alone => ?_⟩
    obtain rfl : newer = item := List.mem_singleton.1 alone
    obtain ⟨subscription, listed, holds⟩ := List.mem_filterMap.1 listed
    obtain ⟨wire, -, there⟩ := backs.monitored subscription listed older holds
    rintro rfl
    rw [absent] at there
    cases there
  · intro subscription listed held holds
    rcases List.mem_append.1 listed with older | newer
    · obtain ⟨wire, encoded, there⟩ := backs.monitored subscription older held holds
      exact ⟨wire, encoded, goesOn.items open' held _ List.not_mem_nil there⟩
    · obtain rfl := List.mem_singleton.1 newer
      obtain rfl : item = held := Option.some.inj holds
      exact ⟨wire, encoded, present⟩

/-! ## Unsubscribing -/

theorem unsubscribe_result (id : Guid) (session : Session σ) :
    ∃ server ended, ((client.unsubscribe id).result session).2 = { session with
        server, subscriptions := session.subscriptions.eraseP (·.id = id) } ∧
      monitor.GoesOn client.transport ended [] session.server server ∧
      ∀ item ∈ ended, ∃ subscription, session.subscriptions.find? (·.id = id) = some subscription ∧
        subscription.item = some item := by
  unfold Exchange.result
  rw [unsubscribe_apply]
  cases found : session.subscriptions.find? (·.id = id) with
  | none =>
      refine ⟨session.server, [], ?_, .refl _, fun item listed => nomatch listed⟩
      rw [List.eraseP_of_forall_not (by simpa using found)]
  | some subscription =>
      dsimp only
      cases holds : subscription.item with
      | none => exact ⟨session.server, [], rfl, .refl _, fun item listed => nomatch listed⟩
      | some item =>
          have goesOn := monitors.unsubscribe item session.server
          unfold Exchange.result at goesOn
          dsimp only
          have alone : ∀ other ∈ [item], ∃ found, some subscription = some found ∧
              found.item = some other := by
            intro other listed
            obtain rfl := List.mem_singleton.1 listed
            exact ⟨subscription, rfl, holds⟩
          cases asked : client.transport.unsubscribe item session.server with
          | ok done server =>
              rw [asked] at goesOn
              exact ⟨server, [item], rfl, goesOn, alone⟩
          | error cause server =>
              rw [asked] at goesOn
              exact ⟨server, [item], rfl, goesOn, alone⟩

omit monitors in
theorem backs_unsubscribed (backs : monitor.Backs session) {id : Guid} {server : σ}
    {ended : List UInt32} (goesOn : monitor.GoesOn client.transport ended [] session.server server)
    (own : ∀ item ∈ ended, ∃ subscription,
      session.subscriptions.find? (·.id = id) = some subscription ∧ subscription.item = some item)
    (open' : client.transport.isConnected server) :
    monitor.Backs { session with
      server, subscriptions := session.subscriptions.eraseP (·.id = id) } := by
  have distinct := backs.distinct
  constructor
  · exact distinct.sublist ((List.eraseP_sublist ..).filterMap _)
  · intro subscription listed item holds
    obtain ⟨wire, encoded, there⟩ := backs.monitored subscription (List.mem_of_mem_eraseP listed)
      item holds
    refine ⟨wire, encoded, goesOn.items open' item _ (fun ends => ?_) there⟩
    -- Two subscriptions would hold the item that ends: the one that is gone and one that is left.
    obtain ⟨gone, found, holds'⟩ := own item ends
    obtain ⟨front, back, holder, rest⟩ := Session.holds_of_find? found
    dsimp only at listed
    rw [rest] at listed
    rw [holder.subscriptions, List.filterMap_append, List.filterMap_cons_some holds'] at distinct
    have apart := (List.nodup_middle.1 distinct).notMem
    refine apart ?_
    rw [← List.filterMap_append]
    exact List.mem_filterMap.2 ⟨subscription, listed, holds⟩

/-! ## Closing, opening and rebuilding -/

omit monitors in
theorem subscriptions_closeSession (client : Client σ) (session : Session σ) :
    ((client.closeSession).result session).2.subscriptions =
      session.subscriptions.map Subscription.bare := by
  have kept : Keeps (fun new : Session σ => new.subscriptions =
      session.subscriptions.map Subscription.bare) (fun _ => True) (do
        if client.transport.isConnected (← get).server then
          Session.onServer client.transport.disconnect) :=
    keeps_get.bind fun _ => keeps_ite
      ((keeps_true _).within (fun _ _ => trivial) fun _ kept _ _ => kept) (keeps_pure ())
  exact kept.result rfl

theorem openSession_result (config : Config) (session : Session σ) :
    ∃ server, ((client.openSession config).result session).2 = { session with server } ∧
      monitor.asked server = monitor.asked session.server := by
  unfold openSession Exchange.result
  rw [Session.onServer_bind]
  have listed := monitors.endpoints config.endpoint session.server
  unfold Exchange.result at listed
  cases answered : client.transport.endpoints config.endpoint session.server with
  | error cause server =>
      rw [answered] at listed
      exact ⟨server, rfl, listed.asked.trans (List.append_nil _)⟩
  | ok endpoints server =>
      rw [answered] at listed
      have same : monitor.asked server = monitor.asked session.server :=
        listed.asked.trans (List.append_nil _)
      dsimp only
      cases endpoints.find? (·.mode = config.securityMode) with
      | none => exact ⟨server, rfl, same⟩
      | some endpoint =>
          have connects := monitors.connect endpoint config.sessionOptions server
          unfold Exchange.result at connects
          dsimp only
          rw [Session.onServer_bind]
          dsimp only
          cases connected : client.transport.connect endpoint config.sessionOptions server with
          | error cause last =>
              rw [connected] at connects
              exact ⟨last, rfl, connects.trans same⟩
          | ok done last =>
              rw [connected] at connects
              exact ⟨last, rfl, connects.trans same⟩

theorem rebuild_result (config : Config) (session : Session σ) :
    let new := ((client.rebuild config).result session).2
    monitor.GoesOn client.transport [] [] session.server new.server ∧
      new.subscriptions = session.subscriptions := by
  have asks := monitors.asks session.server
  have fetches : Keeps (monitor.GoesOn client.transport [] [] session.server) (fun _ => True)
      (NamespaceTable.fetch client.transport) :=
    (asks.read _).bind fun _ => (keeps_ofExcept fun _ _ => trivial).bind fun _ =>
      keeps_ofExcept fun _ _ => trivial
  have fetched := fetches session.server (.refl _)
  unfold Exchange.result
  rw [rebuild_apply]
  cases read : NamespaceTable.fetch client.transport session.server with
  | error cause server =>
      rw [read] at fetched
      cases fetched with
      | error _ goesOn => exact ⟨goesOn, rfl⟩
  | ok namespaces server =>
      rw [read] at fetched
      cases fetched with
      | ok goesOn =>
          have crawled := @Browser.keeps_crawlTypes _ _ (client.through namespaces) asks
            config.maxCrawlDepth.toNat server goesOn
          dsimp only
          cases found : (client.through namespaces).crawlTypes config.maxCrawlDepth.toNat server with
          | error cause last =>
              rw [found] at crawled
              cases crawled with
              | error _ goesOn' => exact ⟨goesOn', rfl⟩
          | ok arena last =>
              rw [found] at crawled
              cases crawled with
              | ok goesOn' => exact ⟨goesOn', rfl⟩

end

/-! ## Rearming -/

structure Rearmed (client : Client σ) (monitor : Monitor σ) (namespaces : NamespaceTable)
    (subscriptions armed : List Subscription) (server new : σ) : Prop where
  bare : armed.map Subscription.bare = subscriptions
  goesOn : monitor.GoesOn client.transport [] (subscriptions.filterMap (·.request? namespaces))
    server new
  distinct : client.transport.isConnected new → (armed.filterMap (·.item)).Nodup
  fresh : client.transport.isConnected new → ∀ subscription ∈ armed, ∀ item,
    subscription.item = some item → monitor.item? server item = none
  monitored : client.transport.isConnected new → ∀ subscription ∈ armed, ∀ item,
    subscription.item = some item → ∃ wire, namespaces.encode subscription.node = .ok wire ∧
      monitor.item? new item = some (wire, subscription.listener)

variable {namespaces : NamespaceTable} {server middle new : σ}

theorem rearmed_nil : client.Rearmed monitor namespaces [] [] server server :=
  ⟨rfl, .refl _, fun _ => List.nodup_nil, fun _ _ listed => (nomatch listed),
    fun _ _ listed => (nomatch listed)⟩

theorem Rearmed.append {subscriptions subscriptions' armed armed' : List Subscription}
    (first : client.Rearmed monitor namespaces subscriptions armed server middle)
    (second : client.Rearmed monitor namespaces subscriptions' armed' middle new) :
    client.Rearmed monitor namespaces (subscriptions ++ subscriptions') (armed ++ armed') server
      new := by
  have before := second.goesOn.connected
  refine ⟨?_, ?_, fun open' => ?_, fun open' subscription listed item holds => ?_,
    fun open' subscription listed item holds => ?_⟩
  · rw [List.map_append, first.bare, second.bare]
  · rw [List.filterMap_append]
    exact first.goesOn.trans second.goesOn
  · rw [List.filterMap_append, List.nodup_append]
    refine ⟨first.distinct (before open'), second.distinct open',
      fun older listed newer listed' => ?_⟩
    obtain ⟨subscription, listed, holds⟩ := List.mem_filterMap.1 listed
    obtain ⟨subscription', listed', holds'⟩ := List.mem_filterMap.1 listed'
    -- What the first ones hold is there when the others are armed, which get what is not.
    obtain ⟨wire, -, there⟩ := first.monitored (before open') subscription listed older holds
    have absent := second.fresh open' subscription' listed' newer holds'
    rintro rfl
    rw [absent] at there
    cases there
  · rcases List.mem_append.1 listed with earlier | later
    · exact first.fresh (before open') subscription earlier item holds
    · exact first.goesOn.none_of_none (before open')
        (second.fresh open' subscription later item holds)
  · rcases List.mem_append.1 listed with earlier | later
    · obtain ⟨wire, encoded, there⟩ :=
        first.monitored (before open') subscription earlier item holds
      exact ⟨wire, encoded, second.goesOn.items open' item _ List.not_mem_nil there⟩
    · exact second.monitored open' subscription later item holds

section

variable (monitors : client.transport.Monitors monitor)
include monitors

theorem rearmed_rearmOne (subscription : Subscription) (bare : subscription.item = none)
    (server : σ) : ∃ armed new, client.rearmOne namespaces subscription server = .ok armed new ∧
      client.Rearmed monitor namespaces [subscription] [armed] server new := by
  obtain ⟨id, node, listener, item⟩ := subscription
  obtain rfl : item = none := bare
  unfold rearmOne
  dsimp only
  have without : ∀ {new : σ}, monitor.GoesOn client.transport []
      ([⟨id, node, listener, none⟩].filterMap (Subscription.request? namespaces)) server new →
      client.Rearmed monitor namespaces [⟨id, node, listener, none⟩] [⟨id, node, listener, none⟩]
        server new := by
    intro new goesOn
    refine ⟨rfl, goesOn, fun _ => List.nodup_nil, fun _ subscription listed item holds => ?_,
      fun _ subscription listed item holds => ?_⟩
    · obtain rfl := List.mem_singleton.1 listed
      cases holds
    · obtain rfl := List.mem_singleton.1 listed
      cases holds
  cases encoded : namespaces.encode node with
  | error cause =>
      refine ⟨_, server, rfl, without ?_⟩
      rw [List.filterMap_cons_none (by simp [Subscription.request?, encoded, Except.toOption])]
      exact .refl server
  | ok wire =>
      have requested : [⟨id, node, listener, none⟩].filterMap (Subscription.request? namespaces) =
          [(wire, listener)] := by
        simp [Subscription.request?, encoded, Except.toOption]
      have goesOn := monitors.subscribe wire listener server
      unfold Exchange.result at goesOn
      dsimp only
      cases asked : client.transport.subscribe wire listener server with
      | error cause new =>
          rw [asked, ← requested] at goesOn
          exact ⟨_, new, rfl, without goesOn⟩
      | ok item new =>
          rw [asked, ← requested] at goesOn
          have subscribed := monitors.subscribed wire listener server item new asked
          refine ⟨_, new, rfl, rfl, goesOn, fun _ => List.nodup_singleton item,
            fun open' subscription listed other holds => ?_,
            fun open' subscription listed other holds => ?_⟩
          · obtain rfl := List.mem_singleton.1 listed
            obtain rfl : item = other := Option.some.inj holds
            exact (subscribed open').1
          · obtain rfl := List.mem_singleton.1 listed
            obtain rfl : item = other := Option.some.inj holds
            exact ⟨wire, encoded, (subscribed open').2⟩

theorem rearmed_mapM (subscriptions : List Subscription)
    (bare : ∀ subscription ∈ subscriptions, subscription.item = none) (server : σ) :
    ∃ armed new, subscriptions.mapM (client.rearmOne namespaces) server = .ok armed new ∧
      client.Rearmed monitor namespaces subscriptions armed server new := by
  induction subscriptions generalizing server with
  | nil => exact ⟨[], server, rfl, rearmed_nil⟩
  | cons subscription rest ih =>
      obtain ⟨here, elsewhere⟩ := List.forall_mem_cons.1 bare
      obtain ⟨first, middle, one, rearmed⟩ := rearmed_rearmOne monitors subscription here server
      obtain ⟨others, new, all, rearmed'⟩ := ih elsewhere middle
      refine ⟨first :: others, new, ?_, rearmed.append rearmed'⟩
      rw [List.mapM_cons, bind_ok one, bind_ok all]
      rfl

theorem rearmed_rearm (session : Session σ)
    (bare : ∀ subscription ∈ session.subscriptions, subscription.item = none) :
    ∃ armed server count,
      client.rearm session = .ok count { session with server, subscriptions := armed } ∧
        client.Rearmed monitor session.namespaces session.subscriptions armed session.server
          server := by
  obtain ⟨armed, server, all, rearmed⟩ := rearmed_mapM monitors session.subscriptions bare
    session.server
  refine ⟨armed, server, armed.countP (·.item.isSome), ?_, rearmed⟩
  unfold rearm
  rw [bind_ok (get_apply _), Session.onServer_bind, all]
  rfl

end

theorem Rearmed.backs {subscriptions armed : List Subscription} {session : Session σ}
    (rearmed : client.Rearmed monitor session.namespaces subscriptions armed session.server server)
    (open' : client.transport.isConnected server) :
    monitor.Backs { session with server, subscriptions := armed } :=
  ⟨rearmed.distinct open', rearmed.monitored open'⟩

end Client

end AddressSpace
