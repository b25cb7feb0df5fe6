import AddressSpace.Session

/-!
Keeping a session open.

A `Manager` opens a session, notices when it is lost and opens it again.  Its state tells whether
the session may be used; operations on a session that is not open fail at once.  A loop attempts to
connect again and again, with a pause between the attempts that a *wake* cuts short.  Time passes
only where `sleep` and `waitFor` let it pass, in whole milliseconds.
-/

namespace AddressSpace

inductive ConnectionState
  | disconnected | connecting | connected | shuttingDown
  deriving DecidableEq, Repr

namespace ConnectionState

instance : Inhabited ConnectionState := ⟨disconnected⟩

def name : ConnectionState → String
  | disconnected => "Disconnected"
  | connecting => "Connecting"
  | connected => "Connected"
  | shuttingDown => "ShuttingDown"

def isTerminal : ConnectionState → Bool
  | shuttingDown => true
  | _ => false

def cases : List (String × ConnectionState) :=
  [("disconnected", disconnected), ("connecting", connecting), ("connected", connected),
    ("shutting_down", shuttingDown)]

def toJson : ConnectionState → Json
  | disconnected => "disconnected"
  | connecting => "connecting"
  | connected => "connected"
  | shuttingDown => "shutting_down"

def ofJson? (value : Json) : Option ConnectionState := value.case? cases

end ConnectionState

structure ConnectionStats where
  attempts : Nat := 0
  successes : Nat := 0
  failures : Nat := 0
  rebuilds : Nat := 0
  faults : Nat := 0
  deriving DecidableEq

namespace ConnectionStats

instance : Inhabited ConnectionStats := ⟨{}⟩

def recordAttempt (stats : ConnectionStats) : ConnectionStats :=
  { stats with attempts := stats.attempts + 1 }

def recordSuccess (stats : ConnectionStats) : ConnectionStats :=
  { stats with successes := stats.successes + 1 }

def recordFailure (stats : ConnectionStats) : ConnectionStats :=
  { stats with failures := stats.failures + 1 }

def recordRebuild (stats : ConnectionStats) : ConnectionStats :=
  { stats with rebuilds := stats.rebuilds + 1 }

def recordFault (stats : ConnectionStats) : ConnectionStats :=
  { stats with faults := stats.faults + 1 }

def hasConnected (stats : ConnectionStats) : Bool := 0 < stats.successes

end ConnectionStats

inductive Loop
  | idle
  | due
  | waiting (time : Nat)
  deriving DecidableEq, Repr

structure Manager (σ : Type) where
  session : Session σ
  state : ConnectionState := .disconnected
  earlier : List ConnectionState := []
  stopped : Bool := false
  stats : ConnectionStats := {}
  loop : Loop := .idle
  wakePending : Bool := false
  clock : Nat := 0

namespace Manager

variable {σ α : Type}

def publish (next : ConnectionState) (manager : Manager σ) : Manager σ :=
  { manager with state := next, earlier := manager.state :: manager.earlier }

/-- A manager in another state.  A terminal state is not left, and a state that does not change is
not published. -/
def setState (next : ConnectionState) (manager : Manager σ) : Manager σ :=
  if manager.state.isTerminal ∨ manager.state = next then manager else manager.publish next

def revision (manager : Manager σ) : Nat := manager.earlier.length

def record (change : ConnectionStats → ConnectionStats) (manager : Manager σ) : Manager σ :=
  { manager with stats := change manager.stats }

def mapSession (change : Session σ → Session σ) (manager : Manager σ) : Manager σ :=
  { manager with session := change manager.session }

def noteFault (manager : Manager σ) : Manager σ :=
  ((manager.record ConnectionStats.recordFault).mapSession Session.forgetItems).setState
    .disconnected

/-- A manager whose loop does not wait any longer.  A wake that finds no one waiting is kept for the
next wait. -/
def wake (manager : Manager σ) : Manager σ :=
  match manager.loop with
  | .waiting _ => { manager with loop := .due }
  | _ => { manager with wakePending := true }

def onSession (exchange : Exchange (Session σ) α) : Exchange (Manager σ) α :=
  exchange.within (·.session) fun session manager => { manager with session }

def describe (config : Config) (manager : Manager σ) : String :=
  "ConnectionManager \x7b endpoint: " ++ Text.Quoted.literal config.endpoint ++
    ", state: " ++ manager.state.name ++ " \x7d"

def typeDescriptor (manager : Manager σ) (name : String) : Except Error Descriptor :=
  match manager.session.library.types.get? name with
  | some descriptor => .ok descriptor
  | none => .error (NotFoundError.typeNotFound name)

def typeNode (manager : Manager σ) (name : String) : Except Error NodeId :=
  match manager.session.library.registry[name]? with
  | some node => .ok node
  | none => .error (NotFoundError.typeNotFound name)

def start : Exchange (Manager σ) Unit := do
  let manager ← get
  if manager.stopped then
    Exchange.fail ConnectionError.shuttingDown
  else if manager.loop = .idle then
    set { manager with loop := .due }

def atNextTurn? (deadline : Nat) (manager : Manager σ) : Option (Manager σ) :=
  match manager.loop with
  | .idle => none
  | .due => some manager
  | .waiting time =>
    if time ≤ deadline then some { manager with clock := max manager.clock time } else none

def turnsUntil (deadline : Nat) (manager : Manager σ) : Nat :=
  -- one that is due now, and one at most for each millisecond
  deadline - manager.clock + 2

end Manager

namespace Client

variable {σ α : Type}

def manage (client : Client σ) (server : σ) : Except ConfigError (Manager σ) :=
  client.config.validate.map fun _ => { session := { server } }

def isLive (client : Client σ) (manager : Manager σ) : Bool :=
  client.transport.isConnected manager.session.server

def establish (client : Client σ) : Exchange (Manager σ) Unit := do
  let _ ← Manager.onSession (client.openSession client.config)
  let _ ← Manager.onSession (client.rebuild client.config)
  modify (Manager.record ConnectionStats.recordRebuild)
  let _ ← Manager.onSession client.rearm

/-- Attempts to establish a session.  A failed attempt is cleaned up, and its own error is reported
whatever the cleaning up meets. -/
def attempt (client : Client σ) : Exchange (Manager σ) Unit := fun manager =>
  let started := (manager.setState .connecting).record ConnectionStats.recordAttempt
  match client.establish started with
  | .ok () manager =>
    .ok () ((manager.record ConnectionStats.recordSuccess).setState .connected)
  | .error cause manager =>
    let cleaned := (Manager.onSession client.closeSession).result
      (manager.record ConnectionStats.recordFailure)
    .error cause (cleaned.2.setState .disconnected)

def connect (client : Client σ) : Exchange (Manager σ) Unit := do
  let manager ← get
  if manager.stopped then
    Exchange.fail ConnectionError.shuttingDown
  else if manager.state = .connected ∧ client.isLive manager then pure ()
  else
    if manager.state = .connected then
      modify Manager.noteFault
    client.attempt

def refusal? (client : Client σ) (manager : Manager σ) : Option ConnectionError :=
  match manager.state with
  | .connected => if client.isLive manager then none else some .notConnected
  | .shuttingDown => some .shuttingDown
  | _ => some .notConnected

def guarded (client : Client σ) (operation : Exchange (Session σ) α) : Exchange (Manager σ) α :=
  fun manager =>
    match client.refusal? manager with
    | some cause =>
      .error cause (if manager.state = .connected then manager.wake else manager)
    | none =>
      match Manager.onSession operation manager with
      | .ok a new => .ok a new
      | .error cause new => .error cause (if cause.isConnection then new.wake else new)

def namespaces (client : Client σ) : Exchange (Manager σ) (List String) :=
  client.guarded do pure (← get).namespaces.toList

def longestPause : Nat := 30 * 365 * 24 * 60 * 60 * 1000

def pause (client : Client σ) (succeeded : Bool) : Nat :=
  let delay := if succeeded then client.config.reconnectInterval else client.config.retryDelay
  min delay.milliseconds longestPause

/-- The most attempts that a turn of the loop may make before it takes the longest pause.  Where no
attempt can succeed, failures without a pause behind them would otherwise hold the time for ever. -/
def attemptsAtOnce : Nat := 100000

/-- A turn of the loop: an attempt, and further ones at once as long as there was a wake before the
loop came to wait or the pause takes no time. -/
def turn (client : Client σ) : (attempts : Nat) → Manager σ → Manager σ
  | 0, manager => { manager with loop := .waiting (manager.clock + longestPause) }
  | attempts + 1, manager =>
    let (result, manager) := client.connect.result manager
    let pause := client.pause result.toBool
    if manager.wakePending then client.turn attempts { manager with wakePending := false }
    else if pause = 0 then client.turn attempts manager
    else { manager with loop := .waiting (manager.clock + pause) }

def passTime (client : Client σ) (goal : Option ConnectionState) (deadline : Nat) :
    (fuel : Nat) → Manager σ → Bool × Manager σ
  | 0, manager => (false, { manager with clock := deadline })
  | fuel + 1, manager =>
    match manager.atNextTurn? deadline with
    | none => (false, { manager with clock := deadline })
    | some manager =>
      let manager := client.turn attemptsAtOnce manager
      if goal = some manager.state ∧ manager.clock < deadline then (true, manager)
      else client.passTime goal deadline fuel manager

def sleep (client : Client σ) (milliseconds : Nat) (manager : Manager σ) : Manager σ :=
  let deadline := manager.clock + milliseconds
  (client.passTime none deadline (manager.turnsUntil deadline) manager).2

/-- Waits some milliseconds at most for a state, and tells whether it has come.  A state that is
there already needs no time, but a turn that is due is taken all the same; one that comes at the end
of the time comes too late. -/
def waitFor (client : Client σ) (goal : ConnectionState) (milliseconds : Nat)
    (manager : Manager σ) : Bool × Manager σ :=
  if manager.state = goal then (true, client.sleep 0 manager)
  else
    let deadline := manager.clock + milliseconds
    client.passTime (some goal) deadline (manager.turnsUntil deadline) manager

def shutdown (client : Client σ) : Exchange (Manager σ) Unit := do
  let manager ← get
  if manager.stopped then pure ()
  else
    set { manager.publish .shuttingDown with stopped := true, loop := .idle }
    Manager.onSession client.closeSession

end Client

end AddressSpace
