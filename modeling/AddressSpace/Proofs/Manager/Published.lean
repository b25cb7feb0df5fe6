import AddressSpace.Proofs.Manager.Calls

namespace AddressSpace
open Exchange

variable {σ α : Type} {client : Client σ}

theorem Transport.maintains_since (transport : Transport σ) (start : σ) (changes : List (σ → σ)) :
    transport.Maintains (Since transport start changes) := by
  have keeps : ∀ {α : Type} (exchange : Exchange σ α),
      (∀ server, transport.Leads server (exchange.result server).2) →
        Exchange.Keeps (Since transport start changes) (fun _ => True) exchange :=
    fun exchange leads => keeps_of_result fun server before => before.call (leads server)
  exact ⟨fun url => keeps _ (.endpoints url),
    fun endpoint options => keeps _ (.connect endpoint options), keeps _ .disconnect,
    fun request => keeps _ (.browse request), fun point => keeps _ (.browseNext point),
    fun requests => keeps _ (.read requests), fun request => keeps _ (.translate request),
    fun node listener => keeps _ (.subscribe node listener), fun item => keeps _ (.unsubscribe item)⟩

theorem Manager.library_noteFault (manager : Manager σ) :
    manager.noteFault.session.library = manager.session.library := by
  unfold noteFault
  rw [session_setState]
  rfl

namespace Client

theorem attempt_rebuilt {beginning : Manager σ} {rebuilt : Session σ}
    (found : client.rebuilt? beginning = some rebuilt) {P : σ → Prop}
    (calls : client.transport.Maintains P) (kept : P rebuilt.server)
    (Q : NodeId × Option NodeId → Prop) :
    ∃ new, client.attempt beginning = .ok () new ∧ rebuilt.Stands P Q new.session := by
  unfold rebuilt? at found
  unfold attempt
  dsimp only
  rw [establish_apply, Manager.session_record, Manager.session_setState]
  cases opened : client.openSession client.config beginning.session with
  | error cause session => rw [opened] at found; cases found
  | ok endpoint session =>
      rw [opened] at found
      dsimp only at found ⊢
      cases ended : client.rebuild client.config session with
      | error cause session => rw [ended] at found; cases found
      | ok count last =>
          rw [ended] at found
          obtain rfl : last = rebuilt := Option.some.inj found
          have stands : last.Stands P Q last :=
            ⟨kept, by rw [rebuild_ok client ended]; simp, rfl, rfl⟩
          have ends : EndsIn (last.Stands P Q) (fun _ => False) (client.rearm last) :=
            keeps_rearm calls last stands
          dsimp only
          cases rearmed : client.rearm last with
          | error cause new =>
              rw [rearmed] at ends
              cases ends with
              | error never _ => exact never.elim
          | ok armed new =>
              rw [rearmed] at ends
              cases ends with
              | ok stands' =>
                  refine ⟨_, rfl, ?_⟩
                  rw [Manager.session_setState]
                  exact stands'

theorem establish_failed {manager : Manager σ} (missing : client.rebuilt? manager = none) :
    ∃ cause session, session.library = manager.session.library ∧
      client.establish manager = .error cause { manager with session } := by
  rw [establish_apply]
  unfold rebuilt? at missing
  have opening := keeps_openSession client.transport.maintains_true client.config manager.session
    manager.session.stands_self
  cases opened : client.openSession client.config manager.session with
  | error cause session =>
      rw [opened] at opening
      cases opening with
      | error _ stands => exact ⟨cause, session, stands.library, rfl⟩
  | ok endpoint session =>
      rw [opened] at missing opening
      dsimp only at missing
      cases opening with
      | ok stands =>
          cases ended : client.rebuild client.config session with
          | ok count rebuilt => rw [ended] at missing; cases missing
          | error cause last =>
              refine ⟨cause, last, (rebuild_error client ended).trans stands.library, ?_⟩
              dsimp only
              rw [ended]

theorem attempt_failed {beginning : Manager σ} (missing : client.rebuilt? beginning = none) :
    ∃ cause new, client.attempt beginning = .error cause new ∧ new.state ≠ .connected ∧
      new.session.library = beginning.session.library := by
  have missing' : client.rebuilt?
      ((beginning.setState .connecting).record ConnectionStats.recordAttempt) = none := by
    rw [← missing, rebuilt?, Manager.session_record, Manager.session_setState, rebuilt?]
  obtain ⟨cause, session, library, establishes⟩ := establish_failed missing'
  rw [Manager.session_record, Manager.session_setState] at library
  unfold attempt
  dsimp only
  rw [establishes]
  refine ⟨_, _, rfl, Manager.state_setState_ne _ (by decide), ?_⟩
  rw [Manager.session_setState]
  -- Whatever closing the session meets, it keeps the library.
  have closing := keeps_closeSession client.transport.maintains_true session session.stands_self
  simp only [Exchange.result, Manager.onSession, Exchange.within, Manager.session_record]
  generalize client.closeSession session = result at closing
  cases closing with
  | ok stands => exact stands.library.trans library
  | error _ stands => exact stands.library.trans library

section Calls

variable {P : σ → Prop} {Q : NodeId × Option NodeId → Prop} {rebuilt : Session σ} {C : Prop}

def Holds (P : σ → Prop) (Q : NodeId × Option NodeId → Prop) (rebuilt : Session σ) (C : Prop)
    (manager : Manager σ) : Prop :=
  rebuilt.Stands P Q manager.session ∧ (manager.state = .connected → C)

theorem keeps_onSession {exchange : Exchange (Session σ) α}
    (keeps : Keeps (rebuilt.Stands P Q) (fun _ => True) exchange) :
    Keeps (Holds P Q rebuilt C) (fun _ => True) (Manager.onSession exchange) :=
  keeps.within (fun _ holds => holds.1) fun _ holds _ stands => ⟨stands, holds.2⟩

theorem keeps_guarded {operation : Exchange (Session σ) α}
    (keeps : Keeps (rebuilt.Stands P Q) (fun _ => True) operation) :
    Keeps (Holds P Q rebuilt C) (fun _ => True) (client.guarded operation) := by
  refine keeps_guarded_of (fun manager holds => ⟨?_, fun connected => ?_⟩) (keeps_onSession keeps)
  · rw [Manager.session_wake]
    exact holds.1
  · rw [Manager.state_wake] at connected
    exact holds.2 connected

theorem keeps_shutdown (calls : client.transport.Maintains P) :
    Keeps (Holds P Q rebuilt C) (fun _ => True) client.shutdown := by
  intro manager holds
  rw [shutdown_apply]
  by_cases stopped : manager.stopped
  · rw [if_pos stopped]
    exact .ok holds
  · rw [if_neg stopped]
    have closing : Keeps (Holds P Q rebuilt C) (fun _ => True)
        (Manager.onSession client.closeSession) := keeps_onSession (keeps_closeSession calls)
    exact closing _ ⟨holds.1, fun never => nomatch never⟩

theorem keeps_call (calls : client.transport.Maintains P)
    (fetched : ∀ type server answer new, P server →
      (client.through rebuilt.namespaces).fetchSuperType type server = .ok answer new →
        Q (type, answer)) {call : Call} (other : call ≠ .connect) :
    Keeps (Holds P Q rebuilt C) (fun _ => True) (client.call call) := by
  cases call with
  | connect => exact absurd rfl other
  | ask question =>
      exact keeps_guarded ((keeps_respond calls.asks fetched question).bind fun _ => keeps_pure _)
  | readValues nodes =>
      exact keeps_guarded ((keeps_ask calls.asks fun _ asks =>
        Browser.keeps_readValues (fun _ _ => trivial) asks nodes).bind fun _ => keeps_pure _)
  | namespaces =>
      exact keeps_guarded (keeps_get.bind fun session =>
        keeps_pure (Reply.uris session.namespaces.toList))
  | subscribe id node listener =>
      exact keeps_guarded ((keeps_subscribe calls id node listener).bind fun _ => keeps_pure _)
  | unsubscribe id =>
      exact (keeps_onSession (keeps_unsubscribe calls id)).bind fun _ => keeps_pure _
  | typeDescriptor name =>
      exact keeps_get.bind fun _ => (keeps_ofExcept fun _ _ => trivial).bind fun _ => keeps_pure _
  | typeNode name =>
      exact keeps_get.bind fun _ => (keeps_ofExcept fun _ _ => trivial).bind fun _ => keeps_pure _
  | shutdown => exact (keeps_shutdown calls).bind fun _ => keeps_pure _

end Calls

theorem published_cons {beginning : Manager σ} {rebuilt : Session σ}
    (found : client.rebuilt? beginning = some rebuilt) (earlier : List (Manager σ)) :
    client.published (beginning :: earlier) = rebuilt.library := by
  obtain ⟨new, ends, -⟩ := attempt_rebuilt found client.transport.maintains_true trivial fun _ => True
  have success : client.succeeds beginning = true := by rw [succeeds, ends]
  rw [published, List.find?_cons_of_pos success]
  dsimp only
  rw [found]
  rfl

theorem published_cons_none {beginning : Manager σ} (missing : client.rebuilt? beginning = none)
    (earlier : List (Manager σ)) :
    client.published (beginning :: earlier) = client.published earlier := by
  obtain ⟨cause, new, ends, -⟩ := attempt_failed missing
  have failure : ¬ client.succeeds beginning = true := by
    rw [succeeds, ends]
    exact Bool.false_ne_true
  rw [published, List.find?_cons_of_neg failure, published]

theorem ToldSince.later {rebuilt : Session σ} {changes : List (σ → σ)}
    {entry : NodeId × Option NodeId} (told : client.ToldSince rebuilt changes entry)
    (change : σ → σ) : client.ToldSince rebuilt (changes ++ [change]) entry := by
  obtain ⟨earlier, server, new, before, since, asked⟩ := told
  exact ⟨earlier, server, new, before.trans (List.prefix_append _ _), since, asked⟩

theorem told_since {rebuilt : Session σ} {changes : List (σ → σ)} (type : NodeId) (server : σ)
    (answer : Option NodeId) (new : σ) (since : Since client.transport rebuilt.server changes server)
    (asked : (client.through rebuilt.namespaces).fetchSuperType type server = .ok answer new) :
    client.ToldSince rebuilt changes (type, answer) :=
  ⟨changes, server, new, List.prefix_rfl, since, asked⟩

structure Sound (client : Client σ) (history : History σ) : Prop where
  library : history.manager.session.library = client.published history.attempts
  connected : history.manager.state = .connected → ∃ beginning earlier rebuilt,
    history.attempts = beginning :: earlier ∧ client.rebuilt? beginning = some rebuilt ∧
      rebuilt.Stands (Since client.transport rebuilt.server history.changes)
        (client.ToldSince rebuilt history.changes) history.manager.session

theorem record_call {call : Call} (other : call ≠ .connect) (history : History σ) :
    client.record history (.call call) =
      { history with manager := client.react history.manager (.call call) } := by
  cases call with
  | connect => exact absurd rfl other
  | _ => rfl

theorem sound_call {history : History σ} (sound : client.Sound history) {call : Call}
    (other : call ≠ .connect) : client.Sound (client.record history (.call call)) := by
  -- The call lets the session of before stand, and so also the one that it stands for.
  rw [record_call other]
  have kept : Holds (fun _ => True) (fun _ => True) history.manager.session
      (history.manager.state = .connected) (client.react history.manager (.call call)) :=
    (keeps_call client.transport.maintains_true (fun _ _ _ _ _ _ => trivial) other).result
      ⟨⟨trivial, fun _ _ => trivial, rfl, rfl⟩, id⟩
  refine ⟨kept.1.library.trans sound.library, fun connected => ?_⟩
  obtain ⟨beginning, earlier, rebuilt, latest, found, stands⟩ := sound.connected (kept.2 connected)
  have calls := client.transport.maintains_since rebuilt.server history.changes
  have stands' := (keeps_call (C := True) calls told_since other).result
    ⟨stands, fun _ => trivial⟩
  exact ⟨beginning, earlier, rebuilt, latest, found, stands'.1⟩

theorem library_beginning (manager : Manager σ) :
    (beginning manager).session.library = manager.session.library := by
  unfold beginning
  split
  · exact Manager.library_noteFault _
  · rfl

theorem connect_failed {manager new : Manager σ} {cause : Error}
    (fails : client.connect manager = .error cause new) :
    new.session.library = manager.session.library := by
  rw [connect_apply] at fails
  split at fails
  · cases found : client.rebuilt? (beginning manager) with
    | none =>
        obtain ⟨_, last, ends, -, kept⟩ := attempt_failed found
        rw [ends] at fails
        cases fails
        exact kept.trans (library_beginning manager)
    | some rebuilt =>
        obtain ⟨_, ends, -⟩ := attempt_rebuilt found client.transport.maintains_true trivial
          fun _ => True
        rw [ends] at fails
        cases fails
  · split at fails <;> cases fails
    rfl

theorem sound_connect {history : History σ} (sound : client.Sound history) :
    client.Sound (client.record history (.call .connect)) := by
  have reacts : client.react history.manager (.call .connect) =
      (client.connect.result history.manager).2 :=
    congrArg Prod.snd (result_call_connect history.manager)
  unfold record
  dsimp only
  rw [reacts, Exchange.result, connect_apply]
  by_cases attempts : client.attempts history.manager
  · rw [if_pos attempts, if_pos attempts]
    cases found : client.rebuilt? (beginning history.manager) with
    | none =>
        obtain ⟨cause, new, ends, state, kept⟩ := attempt_failed found
        rw [ends]
        -- The attempt does not count, so that the last success before it stays the latest.
        refine ⟨?_, fun connected => absurd connected state⟩
        rw [published_cons_none found]
        exact kept.trans ((library_beginning _).trans sound.library)
    | some rebuilt =>
        -- All that the session learns from here on is told after the rebuild, with no change yet.
        obtain ⟨new, ends, stands⟩ := attempt_rebuilt found
          (client.transport.maintains_since rebuilt.server []) .start
          (client.ToldSince rebuilt [])
        rw [ends]
        refine ⟨?_, fun _ => ⟨_, _, rebuilt, rfl, found, stands⟩⟩
        rw [published_cons found]
        exact stands.library
  · rw [if_neg attempts, if_neg attempts]
    by_cases stopped : history.manager.stopped
    · rw [if_pos stopped]
      exact sound
    · rw [if_neg stopped]
      exact sound

theorem sound_change {history : History σ} (sound : client.Sound history) (change : σ → σ) :
    client.Sound (client.record history (.change change)) := by
  refine ⟨sound.library, fun connected => ?_⟩
  obtain ⟨beginning, earlier, rebuilt, latest, found, stands⟩ := sound.connected connected
  exact ⟨beginning, earlier, rebuilt, latest, found, stands.server.change change,
    fun entry member => (stands.superTypes entry member).later change, stands.namespaces,
    stands.library⟩

theorem sound_record {history : History σ} (sound : client.Sound history) (event : Event σ) :
    client.Sound (client.record history event) := by
  cases event with
  | change change => exact sound_change sound change
  | call call =>
      by_cases connects : call = .connect
      · subst connects
        exact sound_connect sound
      · exact sound_call sound connects

theorem sound_foldl (events : List (Event σ)) {history : History σ} (sound : client.Sound history) :
    client.Sound (events.foldl client.record history) := by
  induction events generalizing history with
  | nil => exact sound
  | cons event rest ih => exact ih (sound_record sound event)

theorem sound_history (events : List (Event σ)) (server : σ) :
    client.Sound (client.history events server) :=
  sound_foldl events ⟨rfl, fun never => nomatch never⟩

theorem guarded_refused {operation : Exchange (Session σ) α} {manager : Manager σ}
    (closed : manager.state ≠ .connected ∨ ¬ client.isLive manager) :
    client.guarded operation manager =
      .error (.connection (if manager.state = .shuttingDown then .shuttingDown else .notConnected))
        (if manager.state = .connected then manager.wake else manager) := by
  have refused : client.refusal? manager =
      some (if manager.state = .shuttingDown then .shuttingDown else .notConnected) := by
    unfold refusal?
    cases state : manager.state with
    | connected =>
        have lost : ¬ client.isLive manager := closed.resolve_left fun other => other state
        simp [lost]
    | disconnected => rfl
    | connecting => rfl
    | shuttingDown => rfl
  unfold guarded
  rw [refused]

theorem call_refused {call : Call} (guards : call.isGuarded) {manager : Manager σ}
    (closed : manager.state ≠ .connected ∨ ¬ client.isLive manager) :
    client.call call manager =
      .error (.connection (if manager.state = .shuttingDown then .shuttingDown else .notConnected))
        (if manager.state = .connected then manager.wake else manager) := by
  unfold Client.call
  cases call with
  | ask question => exact guarded_refused closed
  | readValues nodes => exact guarded_refused closed
  | namespaces => exact guarded_refused closed
  | subscribe id node listener => exact guarded_refused closed
  | connect => cases guards
  | unsubscribe id => cases guards
  | typeDescriptor name => cases guards
  | typeNode name => cases guards
  | shutdown => cases guards

/-- After every history:
(a) a connected manager has the namespaces and the library that the rebuild of its latest attempt
has found, and the supertypes that it knows were told after that rebuild had begun;
(b) the library is that of the most recent successful attempt, and an attempt that fails leaves it
alone;
(c) a call that needs an open session fails at once where there is none: neither the server nor
anything else of the session notices. -/
theorem history_sound (client : Client σ) (events : List (Event σ)) (server : σ) :
    let history := client.history events server
    let manager := history.manager
    let session := manager.session
    (manager.state = .connected → ∃ beginning earlier rebuilt,
      history.attempts = beginning :: earlier ∧ client.rebuilt? beginning = some rebuilt ∧
        session.namespaces = rebuilt.namespaces ∧ session.library = rebuilt.library ∧
          ∀ entry ∈ session.superTypes, client.ToldSince rebuilt history.changes entry) ∧
    session.library = client.published history.attempts ∧
    (∀ cause new, client.connect manager = .error cause new →
      new.session.library = session.library) ∧
    (∀ call : Call, call.isGuarded → manager.state ≠ .connected ∨ ¬ client.isLive manager →
      ∃ new, client.call call manager =
          .error (.connection
            (if manager.state = .shuttingDown then .shuttingDown else .notConnected)) new ∧
        new.session = session ∧ new.state = manager.state) := by
  have sound := client.sound_history events server
  dsimp only
  generalize client.history events server = history at sound
  refine ⟨fun connected => ?_, sound.library, fun cause new fails => ?_, fun call guards closed => ?_⟩
  · obtain ⟨beginning, earlier, rebuilt, latest, found, stands⟩ := sound.connected connected
    exact ⟨beginning, earlier, rebuilt, latest, found, stands.namespaces, stands.library,
      stands.superTypes⟩
  · exact connect_failed fails
  · refine ⟨_, call_refused guards closed, ?_⟩
    split
    · exact ⟨Manager.session_wake _, Manager.state_wake _⟩
    · exact ⟨rfl, rfl⟩

end Client

end AddressSpace
