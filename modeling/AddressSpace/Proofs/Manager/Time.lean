import AddressSpace.Proofs.Manager.Calls
import Mathlib.Data.List.Forall2

/-!
# The passing of time

Between the calls of a manager time may pass, and then its loop may connect.  It does nothing else,
so that a run is a history in which some connects stand for each time that passes: `run_unrolls`.
-/

namespace AddressSpace
open Exchange

variable {σ α : Type}

inductive Action (σ : Type)
  | event (event : Event σ)
  | start
  | sleep (milliseconds : Nat)
  | waitFor (goal : ConnectionState) (milliseconds : Nat)

namespace Client

variable (client : Client σ)

def act (manager : Manager σ) : Action σ → Manager σ
  | .event event => client.react manager event
  | .start => (Manager.start.result manager).2
  | .sleep milliseconds => client.sleep milliseconds manager
  | .waitFor goal milliseconds => (client.waitFor goal milliseconds manager).2

def run (actions : List (Action σ)) (server : σ) : Manager σ :=
  actions.foldl client.act { session := { server } }

end Client

/-- The events that may stand for an action. -/
inductive Action.Unrolls : Action σ → List (Event σ) → Prop
  | event (event : Event σ) : Unrolls (.event event) [event]
  | start : Unrolls .start []
  | sleep (milliseconds connects : Nat) :
      Unrolls (.sleep milliseconds) (List.replicate connects (.call .connect))
  | waitFor (goal : ConnectionState) (milliseconds connects : Nat) :
      Unrolls (.waitFor goal milliseconds) (List.replicate connects (.call .connect))

structure Manager.Matches (manager other : Manager σ) : Prop where
  session : manager.session = other.session
  state : manager.state = other.state
  earlier : manager.earlier = other.earlier
  stopped : manager.stopped = other.stopped
  stats : manager.stats = other.stats

namespace Manager

variable {manager other third : Manager σ}

theorem Matches.refl (manager : Manager σ) : manager.Matches manager := ⟨rfl, rfl, rfl, rfl, rfl⟩

theorem Matches.trans (first : manager.Matches other) (second : other.Matches third) :
    manager.Matches third :=
  ⟨first.session.trans second.session, first.state.trans second.state,
    first.earlier.trans second.earlier, first.stopped.trans second.stopped,
    first.stats.trans second.stats⟩

theorem Matches.publish (same : manager.Matches other) (next : ConnectionState) :
    (manager.publish next).Matches (other.publish next) :=
  ⟨same.session, rfl, by rw [Manager.publish, Manager.publish, same.state, same.earlier],
    same.stopped, same.stats⟩

theorem Matches.setState (same : manager.Matches other) (next : ConnectionState) :
    (manager.setState next).Matches (other.setState next) := by
  unfold Manager.setState
  rw [same.state]
  split
  · exact same
  · exact same.publish next

theorem Matches.record (same : manager.Matches other) (change : ConnectionStats → ConnectionStats) :
    (manager.record change).Matches (other.record change) :=
  ⟨same.session, same.state, same.earlier, same.stopped, congrArg change same.stats⟩

theorem Matches.withSession (same : manager.Matches other) {session session' : Session σ}
    (equal : session = session') :
    ({ manager with session } : Manager σ).Matches { other with session := session' } :=
  ⟨equal, same.state, same.earlier, same.stopped, same.stats⟩

theorem Matches.noteFault (same : manager.Matches other) :
    manager.noteFault.Matches other.noteFault :=
  ((same.record _).withSession (congrArg Session.forgetItems same.session)).setState _

theorem matches_wake (manager : Manager σ) : manager.wake.Matches manager := by
  unfold wake
  split <;> exact ⟨rfl, rfl, rfl, rfl, rfl⟩

theorem Matches.wake (same : manager.Matches other) : manager.wake.Matches other.wake :=
  (matches_wake manager).trans (same.trans ⟨(matches_wake other).session.symm,
    (matches_wake other).state.symm, (matches_wake other).earlier.symm,
    (matches_wake other).stopped.symm, (matches_wake other).stats.symm⟩)

end Manager

namespace Client

variable {client : Client σ} {manager other : Manager σ}

theorem alike_onSession (exchange : Exchange (Session σ) α) :
    Alike Manager.Matches Eq (Manager.onSession exchange) (Manager.onSession exchange) :=
  (alike_refl exchange).within (fun _ _ same => same.session)
    fun _ _ same _ _ equal => same.withSession equal

theorem alike_establish : Alike Manager.Matches Eq client.establish client.establish :=
  (alike_onSession _).bind fun _ _ _ => (alike_onSession _).bind fun _ _ _ =>
    (alike_modify fun _ _ same => same.record _).bind fun _ _ _ =>
      (alike_onSession _).bind fun _ _ _ => alike_pure rfl

theorem alike_attempt : Alike Manager.Matches Eq client.attempt client.attempt := by
  intro manager other same
  have ends := client.alike_establish _ _
    ((same.setState .connecting).record ConnectionStats.recordAttempt)
  cases off : client.establish ((manager.setState .connecting).record
      ConnectionStats.recordAttempt) <;>
    cases on : client.establish ((other.setState .connecting).record
      ConnectionStats.recordAttempt) <;> rw [off, on] at ends <;> cases ends
  case ok.ok.ok equal same' =>
      rw [attempt_of_ok off, attempt_of_ok on]
      exact .ok rfl ((same'.record _).setState _)
  case error.error.error same' =>
      rw [attempt_of_error off, attempt_of_error on]
      exact .error (((same'.record _).withSession
        (congrArg (fun session => (client.closeSession.result session).2) same'.session)).setState _)

theorem alike_connect : Alike Manager.Matches Eq client.connect client.connect := by
  intro manager other same
  have attempts : client.attempts manager = client.attempts other := by
    unfold Client.attempts isLive
    rw [same.stopped, same.state, same.session]
  have begins : (beginning manager).Matches (beginning other) := by
    unfold beginning
    rw [same.state]
    split
    · exact same.noteFault
    · exact same
  rw [connect_apply, connect_apply, attempts, same.stopped]
  split
  · exact alike_attempt _ _ begins
  · split
    · exact .error same
    · exact .ok rfl same

theorem alike_guarded (operation : Exchange (Session σ) α) :
    Alike Manager.Matches Eq (client.guarded operation) (client.guarded operation) := by
  intro manager other same
  have refused : client.refusal? manager = client.refusal? other := by
    unfold refusal? isLive
    rw [same.state, same.session]
  have ends := alike_onSession operation _ _ same
  unfold guarded
  rw [refused, same.state]
  cases client.refusal? other with
  | some cause =>
      refine .error ?_
      split
      · exact same.wake
      · exact same
  | none =>
      dsimp only
      cases off : Manager.onSession operation manager <;>
        cases on : Manager.onSession operation other <;> rw [off, on] at ends <;> cases ends
      case ok.ok.ok equal same' => exact .ok equal same'
      case error.error.error same' =>
          refine .error ?_
          split
          · exact same'.wake
          · exact same'

theorem alike_shutdown : Alike Manager.Matches Eq client.shutdown client.shutdown := by
  intro manager other same
  rw [shutdown_apply, shutdown_apply, same.stopped]
  split
  · exact .ok rfl same
  · have down := same.publish .shuttingDown
    exact alike_onSession _ _ _ ⟨down.session, down.state, down.earlier, rfl, down.stats⟩

theorem alike_call (call : Call) :
    Alike Manager.Matches Eq (client.call call) (client.call call) := by
  cases call with
  | connect => exact alike_connect.bind fun _ _ _ => alike_pure rfl
  | shutdown => exact alike_shutdown.bind fun _ _ _ => alike_pure rfl
  | unsubscribe id => exact (alike_onSession _).bind fun _ _ _ => alike_pure rfl
  | typeDescriptor name =>
      refine alike_get.bind fun manager other same => ?_
      have looked : manager.typeDescriptor name = other.typeDescriptor name := by
        unfold Manager.typeDescriptor
        rw [same.session]
      rw [looked]
      exact (alike_ofExcept (agree_rfl _)).bind fun _ _ equal => alike_pure (congrArg _ equal)
  | typeNode name =>
      refine alike_get.bind fun manager other same => ?_
      have looked : manager.typeNode name = other.typeNode name := by
        unfold Manager.typeNode
        rw [same.session]
      rw [looked]
      exact (alike_ofExcept (agree_rfl _)).bind fun _ _ equal => alike_pure (congrArg _ equal)
  | ask question => exact alike_guarded _
  | readValues nodes => exact alike_guarded _
  | namespaces => exact alike_guarded (do pure (Reply.uris (← get).namespaces.toList))
  | subscribe id node listener => exact alike_guarded _

theorem matches_react (same : manager.Matches other) (event : Event σ) :
    (client.react manager event).Matches (client.react other event) := by
  cases event with
  | change change =>
      exact same.withSession (congrArg
        (fun session => ({ session with server := change session.server } : Session σ)) same.session)
  | call call =>
      have ends := client.alike_call call _ _ same
      show ((client.call call).result manager).2.Matches ((client.call call).result other).2
      unfold Exchange.result
      generalize client.call call manager = off at ends
      generalize client.call call other = on at ends
      cases ends with
      | ok _ same' => exact same'
      | error same' => exact same'

theorem matches_foldl (same : manager.Matches other) (events : List (Event σ)) :
    (events.foldl client.react manager).Matches (events.foldl client.react other) := by
  induction events generalizing manager other with
  | nil => exact same
  | cons event later ih => exact ih (matches_react same event)

def connects (client : Client σ) (n : Nat) (manager : Manager σ) : Manager σ :=
  (List.replicate n (Event.call .connect)).foldl client.react manager

theorem connects_add (m n : Nat) (manager : Manager σ) :
    client.connects (m + n) manager = client.connects n (client.connects m manager) := by
  unfold connects
  rw [List.replicate_add, List.foldl_append]

theorem connects_one (manager : Manager σ) :
    client.connects 1 manager = (client.connect.result manager).2 :=
  congrArg Prod.snd (result_call_connect manager)

theorem Matches.connects_add {new middle manager : Manager σ} {m n : Nat}
    (ends : new.Matches (client.connects n middle)) (between : middle.Matches (client.connects m manager)) :
    new.Matches (client.connects (m + n) manager) := by
  rw [client.connects_add]
  exact ends.trans (matches_foldl between _)

theorem turn_unrolls (attempts : Nat) (manager : Manager σ) :
    ∃ n, (client.turn attempts manager).Matches (client.connects n manager) := by
  induction attempts generalizing manager with
  | zero => exact ⟨0, rfl, rfl, rfl, rfl, rfl⟩
  | succ attempts ih =>
      have first := (client.connects_one manager).symm
      unfold turn
      dsimp only
      split
      · obtain ⟨n, more⟩ := ih { (client.connect.result manager).2 with wakePending := false }
        refine ⟨1 + n, Matches.connects_add more ?_⟩
        rw [← first]
        exact ⟨rfl, rfl, rfl, rfl, rfl⟩
      · split
        · obtain ⟨n, more⟩ := ih (client.connect.result manager).2
          refine ⟨1 + n, Matches.connects_add more ?_⟩
          rw [← first]
          exact .refl _
        · refine ⟨1, ?_⟩
          rw [← first]
          exact ⟨rfl, rfl, rfl, rfl, rfl⟩

theorem matches_atNextTurn {deadline : Nat} {next : Manager σ}
    (due : manager.atNextTurn? deadline = some next) : next.Matches manager := by
  unfold Manager.atNextTurn? at due
  split at due
  · cases due
  · cases due
    exact .refl _
  · split at due <;> cases due
    exact ⟨rfl, rfl, rfl, rfl, rfl⟩

theorem passTime_unrolls (goal : Option ConnectionState) (deadline fuel : Nat)
    (manager : Manager σ) :
    ∃ n, (client.passTime goal deadline fuel manager).2.Matches (client.connects n manager) := by
  induction fuel generalizing manager with
  | zero => exact ⟨0, rfl, rfl, rfl, rfl, rfl⟩
  | succ fuel ih =>
      unfold passTime
      cases due : manager.atNextTurn? deadline with
      | none => exact ⟨0, rfl, rfl, rfl, rfl, rfl⟩
      | some next =>
          have same : next.Matches (client.connects 0 manager) := matches_atNextTurn due
          obtain ⟨m, turned⟩ := client.turn_unrolls attemptsAtOnce next
          have turned := Matches.connects_add turned same
          dsimp only
          split
          · exact ⟨0 + m, turned⟩
          · obtain ⟨n, more⟩ := ih (client.turn attemptsAtOnce next)
            exact ⟨0 + m + n, Matches.connects_add more turned⟩

theorem act_unrolls (manager : Manager σ) (action : Action σ) :
    ∃ events, action.Unrolls events ∧
      (client.act manager action).Matches (events.foldl client.react manager) := by
  cases action with
  | event event => exact ⟨[event], .event event, .refl _⟩
  | start =>
      refine ⟨[], .start, ?_⟩
      show (Manager.start.result manager).2.Matches manager
      unfold Exchange.result
      rw [start_apply]
      by_cases stopped : manager.stopped
      · rw [if_pos stopped]
        exact .refl _
      · rw [if_neg stopped]
        dsimp only
        split
        · exact ⟨rfl, rfl, rfl, rfl, rfl⟩
        · exact .refl _
  | sleep milliseconds =>
      obtain ⟨n, same⟩ := client.passTime_unrolls none (manager.clock + milliseconds)
        (manager.turnsUntil (manager.clock + milliseconds)) manager
      exact ⟨_, .sleep milliseconds n, same⟩
  | waitFor goal milliseconds =>
      show ∃ events, Action.Unrolls _ events ∧
        (client.waitFor goal milliseconds manager).2.Matches _
      unfold waitFor
      split
      · obtain ⟨n, same⟩ := client.passTime_unrolls none (manager.clock + 0)
          (manager.turnsUntil (manager.clock + 0)) manager
        exact ⟨_, .waitFor goal milliseconds n, same⟩
      · obtain ⟨n, same⟩ := client.passTime_unrolls (some goal) (manager.clock + milliseconds)
          (manager.turnsUntil (manager.clock + milliseconds)) manager
        exact ⟨_, .waitFor goal milliseconds n, same⟩

/-- But for its loop and its clock, a run leads where a history does in which some connects stand for
the time that passes. -/
theorem run_unrolls (client : Client σ) (actions : List (Action σ)) (server : σ) :
    ∃ pieces, List.Forall₂ Action.Unrolls actions pieces ∧
      (client.run actions server).Matches (client.history pieces.flatten server).manager := by
  have unrolls : ∀ (actions : List (Action σ)) (manager other : Manager σ),
      manager.Matches other → ∃ pieces, List.Forall₂ Action.Unrolls actions pieces ∧
        (actions.foldl client.act manager).Matches (pieces.flatten.foldl client.react other) := by
    intro actions
    induction actions with
    | nil => exact fun manager other same => ⟨[], .nil, same⟩
    | cons action later ih =>
        intro manager other same
        obtain ⟨events, unrolled, acts⟩ := client.act_unrolls manager action
        obtain ⟨pieces, unrolled', goesOn⟩ := ih _ _ (acts.trans (matches_foldl same events))
        refine ⟨events :: pieces, .cons unrolled unrolled', ?_⟩
        rw [List.flatten_cons, List.foldl_append]
        exact goesOn
  obtain ⟨pieces, unrolled, same⟩ := unrolls actions _ _ (.refl { session := { server } })
  refine ⟨pieces, unrolled, ?_⟩
  rw [manager_history]
  exact same

end Client

end AddressSpace
