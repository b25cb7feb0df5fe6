import AddressSpace.Proofs.Manager.Calls
import Mathlib.Data.List.Chain
import Mathlib.Data.List.Infix

/-!
# The course of a connection

A manager publishes states and counts what happens to its connection.  Whatever is called, and
whatever the server does, the states follow each other as they should and the counters fit them:
`history_course`.
-/

namespace AddressSpace
open Exchange

/-- The states that may be published after each other. -/
inductive ConnectionState.Leads : ConnectionState → ConnectionState → Prop
  | attempt : Leads disconnected connecting
  | succeed : Leads connecting connected
  | fail : Leads connecting disconnected
  | lose : Leads connected disconnected
  | shutDown {before : ConnectionState} (going : before ≠ shuttingDown) : Leads before shuttingDown

structure Course where
  state : ConnectionState
  earlier : List ConnectionState
  stopped : Bool
  stats : ConnectionStats

namespace Course

variable {course new : Course}

def states (course : Course) : List ConnectionState := course.state :: course.earlier

def ShutOpen (course : Course) : Prop :=
  course.state = .shuttingDown ∧ course.earlier.head? = some .connected

instance (course : Course) : Decidable course.ShutOpen := inferInstanceAs (Decidable (_ ∧ _))

def lose (course : Course) : Course :=
  { course with
    state := .disconnected, earlier := course.states, stats := course.stats.recordFault }

def succeed (course : Course) : Course :=
  { course with
    state := .connected, earlier := .connecting :: course.states
    stats := course.stats.recordAttempt.recordRebuild.recordSuccess }

def fail (course : Course) : Course :=
  { course with
    state := .disconnected, earlier := .connecting :: course.states
    stats := course.stats.recordAttempt.recordFailure }

def shutDown (course : Course) : Course :=
  { course with state := .shuttingDown, earlier := course.states, stopped := true }

structure Sound (course : Course) : Prop where
  path : course.states.IsChain fun later sooner => sooner.Leads later
  begins : course.states.getLast? = some .disconnected
  settled : course.state ≠ .connecting
  stopped : course.state = .shuttingDown ↔ course.stopped
  attempts : course.stats.attempts = course.stats.successes + course.stats.failures
  rebuilds : course.stats.rebuilds = course.stats.successes
  successes : course.stats.successes =
    course.stats.faults + if course.state = .connected ∨ course.ShutOpen then 1 else 0

theorem Sound.going (sound : course.Sound) (going : course.stopped = false) :
    course.state ≠ .shuttingDown := by
  intro down
  rw [sound.stopped.1 down] at going
  cases going

theorem Sound.lose (sound : course.Sound) (lost : course.state = .connected)
    (going : course.stopped = false) : course.lose.Sound where
  path := List.isChain_cons_cons.2 ⟨lost ▸ .lose, sound.path⟩
  begins := sound.begins
  settled := by simp [Course.lose]
  stopped := by simp [Course.lose, going]
  attempts := sound.attempts
  rebuilds := sound.rebuilds
  successes := by
    have before := sound.successes
    simpa [ShutOpen, lost, Course.lose, ConnectionStats.recordFault] using before

theorem Sound.succeed (sound : course.Sound) (idle : course.state = .disconnected)
    (going : course.stopped = false) : course.succeed.Sound where
  path := List.isChain_cons_cons.2
    ⟨.succeed, List.isChain_cons_cons.2 ⟨idle ▸ .attempt, sound.path⟩⟩
  begins := sound.begins
  settled := by simp [Course.succeed]
  stopped := by simp [Course.succeed, going]
  attempts := by
    have before := sound.attempts
    simp only [Course.succeed, ConnectionStats.recordAttempt, ConnectionStats.recordRebuild,
      ConnectionStats.recordSuccess]
    omega
  rebuilds := congrArg (· + 1) sound.rebuilds
  successes := by
    have before := sound.successes
    simp only [ShutOpen, idle] at before
    simpa [ShutOpen, Course.succeed, ConnectionStats.recordAttempt, ConnectionStats.recordRebuild,
      ConnectionStats.recordSuccess] using before

theorem Sound.fail (sound : course.Sound) (idle : course.state = .disconnected)
    (going : course.stopped = false) : course.fail.Sound where
  path := List.isChain_cons_cons.2
    ⟨.fail, List.isChain_cons_cons.2 ⟨idle ▸ .attempt, sound.path⟩⟩
  begins := sound.begins
  settled := by simp [Course.fail]
  stopped := by simp [Course.fail, going]
  attempts := congrArg (· + 1) sound.attempts
  rebuilds := sound.rebuilds
  successes := by
    have before := sound.successes
    simpa [ShutOpen, idle, Course.fail, ConnectionStats.recordAttempt, ConnectionStats.recordFailure]
      using before

theorem Sound.shutDown (sound : course.Sound) (going : course.stopped = false) :
    course.shutDown.Sound where
  path := List.isChain_cons_cons.2 ⟨.shutDown (sound.going going), sound.path⟩
  begins := sound.begins
  settled := by simp [Course.shutDown]
  stopped := by simp [Course.shutDown]
  attempts := sound.attempts
  rebuilds := sound.rebuilds
  successes := by
    have before := sound.successes
    have alive := sound.going going
    simpa [ShutOpen, alive, Course.shutDown, states] using before

inductive Next : Course → Course → Prop
  | rest (course : Course) : Next course course
  | lose {course new : Course} (lost : course.state = .connected) (going : course.stopped = false)
      (next : Next course.lose new) : Next course new
  | succeed {course : Course} (idle : course.state = .disconnected)
      (going : course.stopped = false) : Next course course.succeed
  | fail {course : Course} (idle : course.state = .disconnected) (going : course.stopped = false) :
      Next course course.fail

theorem Next.sound (next : course.Next new) (sound : course.Sound) : new.Sound := by
  induction next with
  | rest => exact sound
  | lose lost going next ih => exact ih (sound.lose lost going)
  | succeed idle going => exact sound.succeed idle going
  | fail idle going => exact sound.fail idle going

theorem Next.stopped (next : course.Next new) : new.stopped = course.stopped := by
  induction next with
  | lose lost going next ih => exact ih
  | _ => rfl

theorem Next.eq_of_stopped (next : course.Next new) (stopped : course.stopped) : new = course := by
  cases next with
  | rest => rfl
  | _ => simp_all

theorem Next.suffix (next : course.Next new) : course.states <:+ new.states := by
  induction next with
  | rest => exact List.suffix_rfl
  | lose lost going next ih => exact (List.suffix_cons _ _).trans ih
  | succeed | fail => exact (List.suffix_cons _ _).trans (List.suffix_cons _ _)

end Course

variable {σ α : Type} {client : Client σ} {manager : Manager σ}

def Manager.course (manager : Manager σ) : Course :=
  ⟨manager.state, manager.earlier, manager.stopped, manager.stats⟩

theorem Manager.setState_eq_publish {next : ConnectionState} (alive : manager.state ≠ .shuttingDown)
    (other : manager.state ≠ next) : manager.setState next = manager.publish next := by
  unfold setState
  refine if_neg fun stays => ?_
  rcases stays with terminal | same
  · cases state : manager.state <;> rw [state] at terminal alive
    case shuttingDown => exact alive rfl
    all_goals cases terminal
  · exact other same

theorem Manager.course_wake (manager : Manager σ) : manager.wake.course = manager.course := by
  unfold wake
  split <;> rfl

namespace Client

theorem course_attempt (idle : manager.state = .disconnected) :
    (∃ new, client.attempt manager = .ok () new ∧ new.course = manager.course.succeed) ∨
    ∃ cause new, client.attempt manager = .error cause new ∧ new.course = manager.course.fail := by
  have starts : manager.setState .connecting = manager.publish .connecting :=
    Manager.setState_eq_publish (by rw [idle]; decide) (by rw [idle]; decide)
  obtain ⟨session, establishes⟩ | ⟨cause, session, establishes⟩ := client.establish_ends
    ((manager.setState .connecting).record ConnectionStats.recordAttempt)
  · refine .inl ⟨_, attempt_of_ok establishes, ?_⟩
    rw [starts, Manager.setState_eq_publish (show ConnectionState.connecting ≠ _ by decide)
      (show ConnectionState.connecting ≠ _ by decide)]
    rfl
  · refine .inr ⟨cause, _, attempt_of_error establishes, ?_⟩
    rw [starts, Manager.setState_eq_publish (show ConnectionState.connecting ≠ _ by decide)
      (show ConnectionState.connecting ≠ _ by decide)]
    rfl

theorem next_attempt (idle : manager.state = .disconnected) (going : manager.stopped = false) :
    manager.course.Next (client.attempt.result manager).2.course := by
  unfold Exchange.result
  obtain ⟨new, ends, course⟩ | ⟨cause, new, ends, course⟩ := client.course_attempt idle
  · rw [ends, course]
    exact .succeed idle going
  · rw [ends, course]
    exact .fail idle going

theorem course_noteFault (connected : manager.state = .connected) :
    manager.noteFault.course = manager.course.lose := by
  let lost := (manager.record ConnectionStats.recordFault).mapSession Session.forgetItems
  have state : lost.state = .connected := connected
  have loses : manager.noteFault = lost.publish .disconnected :=
    Manager.setState_eq_publish (by rw [state]; decide) (by rw [state]; decide)
  rw [loses]
  rfl

theorem state_beginning (sound : manager.course.Sound) (attempts : client.attempts manager) :
    (beginning manager).state = .disconnected := by
  unfold beginning
  by_cases connected : manager.state = .connected
  · rw [if_pos connected]
    exact congrArg Course.state (course_noteFault connected)
  · rw [if_neg connected]
    cases state : manager.state with
    | disconnected => rfl
    | connecting => exact absurd state sound.settled
    | connected => exact absurd state connected
    | shuttingDown => exact absurd state (sound.going (not_stopped_of_attempts attempts))

theorem next_connect (sound : manager.course.Sound) :
    manager.course.Next (client.connect.result manager).2.course := by
  rw [result_connect]
  by_cases attempts : client.attempts manager
  · have going := not_stopped_of_attempts attempts
    have idle := state_beginning sound attempts
    rw [if_pos attempts]
    by_cases connected : manager.state = .connected
    · -- the session was lost unseen: a fault comes before the attempt
      have begins : beginning manager = manager.noteFault := if_pos connected
      have course := course_noteFault connected
      rw [begins] at idle ⊢
      refine .lose connected going ?_
      rw [← course]
      exact next_attempt idle ((congrArg Course.stopped course).trans going)
    · have begins : beginning manager = manager := if_neg connected
      rw [begins] at idle ⊢
      exact next_attempt idle going
  · rw [if_neg attempts]
    exact .rest _

theorem keeps_course_onSession (exchange : Exchange (Session σ) α) (course : Course) :
    Keeps (fun manager => manager.course = course) (fun _ => True)
      (Manager.onSession exchange) :=
  (keeps_true exchange).within (fun _ _ => trivial) fun _ same _ _ => same

theorem keeps_course_guarded (operation : Exchange (Session σ) α) (course : Course) :
    Keeps (fun manager => manager.course = course) (fun _ => True) (client.guarded operation) :=
  keeps_guarded_of (fun manager same => manager.course_wake.trans same)
    (keeps_course_onSession operation course)

theorem keeps_course_call {call : Call} (connects : call ≠ .connect) (shuts : call ≠ .shutdown)
    (course : Course) :
    Keeps (fun manager => manager.course = course) (fun _ => True) (client.call call) := by
  cases call with
  | connect => exact absurd rfl connects
  | shutdown => exact absurd rfl shuts
  | ask question => exact keeps_course_guarded _ course
  | readValues nodes => exact keeps_course_guarded _ course
  | namespaces =>
      exact keeps_course_guarded (do pure (Reply.uris (← get).namespaces.toList)) course
  | subscribe id node listener => exact keeps_course_guarded _ course
  | unsubscribe id => exact (keeps_course_onSession _ course).bind fun _ => keeps_pure _
  | typeDescriptor name =>
      exact keeps_get.bind fun _ => (keeps_ofExcept fun _ _ => trivial).bind fun _ => keeps_pure _
  | typeNode name =>
      exact keeps_get.bind fun _ => (keeps_ofExcept fun _ _ => trivial).bind fun _ => keeps_pure _

theorem next_react (sound : manager.course.Sound) {event : Event σ}
    (shuts : event ≠ .call .shutdown) : manager.course.Next (client.react manager event).course := by
  cases event with
  | change change => exact .rest _
  | call call =>
      show manager.course.Next ((client.call call).result manager).2.course
      by_cases connects : call = .connect
      · rw [connects, result_call_connect]
        exact next_connect sound
      · have kept := (client.keeps_course_call connects
          (fun same => shuts (congrArg Event.call same)) manager.course).result rfl
        rw [kept]
        exact .rest _

theorem course_shutdown (manager : Manager σ) :
    (client.react manager (.call .shutdown)).course =
      if manager.stopped then manager.course else manager.course.shutDown := by
  show ((client.call .shutdown).result manager).2.course = _
  rw [result_call_shutdown, result_shutdown]
  split <;> rfl

theorem sound_react (sound : manager.course.Sound) (event : Event σ) :
    (client.react manager event).course.Sound := by
  by_cases shuts : event = .call .shutdown
  · rw [shuts, course_shutdown]
    by_cases stopped : manager.stopped
    · rw [if_pos stopped]
      exact sound
    · rw [if_neg stopped]
      exact sound.shutDown (Bool.eq_false_iff.2 stopped)
  · exact (next_react sound shuts).sound sound

theorem suffix_react (sound : manager.course.Sound) (event : Event σ) :
    manager.course.states <:+ (client.react manager event).course.states := by
  by_cases shuts : event = .call .shutdown
  · rw [shuts, course_shutdown]
    split
    · exact List.suffix_rfl
    · exact List.suffix_cons _ _
  · exact (next_react sound shuts).suffix

theorem shutOpen_react (sound : manager.course.Sound) (event : Event σ) :
    (client.react manager event).course.ShutOpen ↔
      event = .call .shutdown ∧ manager.state = .connected ∨ manager.course.ShutOpen := by
  by_cases shuts : event = .call .shutdown
  · rw [shuts, course_shutdown]
    by_cases stopped : manager.stopped
    · have down : manager.state = .shuttingDown := sound.stopped.2 stopped
      rw [if_pos stopped]
      simp [down]
    · have alive : manager.state ≠ .shuttingDown := sound.going (Bool.eq_false_iff.2 stopped)
      rw [if_neg stopped]
      simp [Course.ShutOpen, Course.shutDown, Course.states, Manager.course, alive]
  · have next := client.next_react sound shuts
    -- a course that has stopped stays as it is, and one that goes on is not shut down by `next`
    by_cases stopped : manager.stopped
    · rw [next.eq_of_stopped stopped]
      simp [shuts]
    · have going : manager.course.stopped = false := Bool.eq_false_iff.2 stopped
      have alive := sound.going going
      have alive' := (next.sound sound).going (next.stopped.trans going)
      simp [Course.ShutOpen, shuts, alive, alive']

def opening (manager : Manager σ) : Manager σ :=
  ((beginning manager).setState .connecting).record ConnectionStats.recordAttempt

theorem connect_of_establish_error (sound : manager.course.Sound)
    (attempts : client.attempts manager) {cause : Error} {failed : Manager σ}
    (establishes : client.establish (opening manager) = .error cause failed) :
    ∃ new, client.connect manager = .error cause new ∧ new.state = .disconnected ∧
      (∀ subscription ∈ new.session.subscriptions, subscription.item = none) ∧
      new.session.server =
        if client.transport.isConnected failed.session.server then
          (client.transport.disconnect.result failed.session.server).2
        else failed.session.server := by
  have ends := attempt_of_error establishes
  refine ⟨_, ((connect_apply manager).trans (if_pos attempts)).trans ends, ?_, ?_, ?_⟩
  · obtain ⟨new, other, -⟩ | ⟨cause', new, same, course⟩ :=
      client.course_attempt (state_beginning sound attempts)
    · rw [ends] at other
      cases other
    · rw [ends] at same
      cases same
      exact congrArg Course.state course
  · rw [Manager.session_setState]
    exact items_closeSession failed.session
  · rw [Manager.session_setState]
    exact server_closeSession failed.session

theorem establish_of_connect_error (attempts : client.attempts manager) {cause : Error}
    {new : Manager σ} (connects : client.connect manager = .error cause new) :
    ∃ failed, client.establish (opening manager) = .error cause failed := by
  rw [connect_apply, if_pos attempts] at connects
  cases establishes : client.establish (opening manager) with
  | ok done last =>
      rw [attempt_of_ok establishes] at connects
      cases connects
  | error other failed =>
      rw [attempt_of_error establishes] at connects
      cases connects
      exact ⟨failed, rfl⟩

theorem history_append_singleton (events : List (Event σ)) (event : Event σ) (server : σ) :
    (client.history (events ++ [event]) server).manager =
      client.react (client.history events server).manager event := by
  rw [manager_history, manager_history, List.foldl_append]
  rfl

theorem sound_course (events : List (Event σ)) (server : σ) :
    (client.history events server).manager.course.Sound := by
  induction events using List.reverseRecOn with
  | nil =>
      exact ⟨.singleton _, rfl, fun never => (nomatch never), ⟨fun never => (nomatch never),
        fun never => (nomatch never)⟩, rfl, rfl, rfl⟩
  | append_singleton events event ih =>
      rw [history_append_singleton]
      exact sound_react ih event

theorem not_stopped_history {events : List (Event σ)} (never : .call .shutdown ∉ events)
    (server : σ) : (client.history events server).manager.stopped = false := by
  induction events using List.reverseRecOn with
  | nil => rfl
  | append_singleton events event ih =>
      simp only [List.mem_append, List.mem_singleton, not_or] at never
      rw [history_append_singleton]
      have next := client.next_react (client.sound_course events server) (Ne.symm never.2)
      exact next.stopped.trans (ih never.1)

theorem suffix_states (events later : List (Event σ)) (server : σ) :
    (client.history events server).manager.course.states <:+
      (client.history (events ++ later) server).manager.course.states := by
  induction later using List.reverseRecOn with
  | nil =>
      rw [List.append_nil]
  | append_singleton later event ih =>
      rw [← List.append_assoc, history_append_singleton]
      exact ih.trans (suffix_react (sound_course _ server) event)

def ShutConnected (client : Client σ) (events : List (Event σ)) (server : σ) : Prop :=
  ∃ before, before ++ [.call .shutdown] <+: events ∧
    (client.history before server).manager.state = .connected

theorem shutConnected_append_singleton (events : List (Event σ)) (event : Event σ) (server : σ) :
    client.ShutConnected (events ++ [event]) server ↔
      event = .call .shutdown ∧ (client.history events server).manager.state = .connected ∨
        client.ShutConnected events server := by
  unfold ShutConnected
  simp only [List.prefix_concat_iff, or_and_right, exists_or]
  refine or_congr ⟨?_, ?_⟩ Iff.rfl
  · rintro ⟨before, whole, connected⟩
    obtain ⟨rfl, same⟩ := List.append_inj' whole rfl
    exact ⟨(List.singleton_inj.1 same).symm, connected⟩
  · rintro ⟨rfl, connected⟩
    exact ⟨events, rfl, connected⟩

theorem shutConnected_iff (events : List (Event σ)) (server : σ) :
    client.ShutConnected events server ↔ (client.history events server).manager.course.ShutOpen := by
  induction events using List.reverseRecOn with
  | nil =>
      refine ⟨fun ⟨before, starts, _⟩ => ?_, fun ⟨never, _⟩ => nomatch never⟩
      exact absurd (List.prefix_nil.1 starts) (by simp)
  | append_singleton events event ih =>
      rw [shutConnected_append_singleton, ih, history_append_singleton,
        shutOpen_react (sound_course events server)]

/-- After every history:
(a) the states have followed each other as they should, from disconnected on, they stay published,
and the last one is not connecting;
(b) each attempt has succeeded or failed, each success was a rebuild, and each success but that of
the connection that stands, or stood when it was shut down, was followed by a fault;
(c) connecting where a session is open leaves everything as it is;
(d) an attempt fails with the error of establishing its session, and only with that one; it leaves
no items, and a server that still has a session is asked to end it. -/
theorem history_course (client : Client σ) (events : List (Event σ)) (server : σ) :
    let manager := (client.history events server).manager
    let states (events : List (Event σ)) :=
      (client.history events server).manager.state :: (client.history events server).manager.earlier
    (states events).IsChain (fun later sooner => sooner.Leads later) ∧
    (states events).getLast? = some .disconnected ∧
    (∀ later, states events <:+ states (events ++ later)) ∧
    manager.state ≠ .connecting ∧
    manager.stats.attempts = manager.stats.successes + manager.stats.failures ∧
    manager.stats.rebuilds = manager.stats.successes ∧
    (manager.state = .connected ∨ client.ShutConnected events server →
      manager.stats.successes = manager.stats.faults + 1) ∧
    (¬ (manager.state = .connected ∨ client.ShutConnected events server) →
      manager.stats.successes = manager.stats.faults) ∧
    (manager.state = .connected → client.isLive manager →
      client.connect manager = .ok () manager) ∧
    (client.attempts manager →
      (∀ cause failed, client.establish (opening manager) = .error cause failed →
        ∃ new, client.connect manager = .error cause new ∧ new.state = .disconnected ∧
          (∀ subscription ∈ new.session.subscriptions, subscription.item = none) ∧
          new.session.server =
            if client.transport.isConnected failed.session.server then
              (client.transport.disconnect.result failed.session.server).2
            else failed.session.server) ∧
      ∀ cause new, client.connect manager = .error cause new →
        ∃ failed, client.establish (opening manager) = .error cause failed) := by
  have sound := client.sound_course events server
  have shut := client.shutConnected_iff events server
  have grows := fun later => client.suffix_states events later server
  have successes := sound.successes
  dsimp only
  rw [shut]
  refine ⟨sound.path, sound.begins, grows, sound.settled, sound.attempts, sound.rebuilds,
    fun stands => ?_, fun lost => ?_, fun connected live => ?_, fun attempts => ⟨?_, ?_⟩⟩
  · exact successes.trans (congrArg _ (if_pos stands))
  · exact successes.trans (congrArg _ (if_neg lost))
  · have going : (client.history events server).manager.stopped = false := by
      rw [← Bool.not_eq_true]
      intro stopped
      have down := sound.stopped.2 stopped
      exact absurd (connected.symm.trans down) (by decide)
    rw [connect_apply]
    simp [Client.attempts, connected, live, going]
  · exact fun cause failed => connect_of_establish_error sound attempts
  · exact fun cause new => establish_of_connect_error attempts

end Client

end AddressSpace
