import AddressSpace.Simulation.Script
import AddressSpace.Simulation.World

/-!
A server in memory.

A `Server` serves a world, keeps the rest of answers in several pages, and counts its monitored
items.  It writes down every call, and scripts may interfere with any of them.
-/

namespace AddressSpace.Simulation

structure MonitoredItem where
  number : UInt32
  node : WireId
  listener : Listener
  deriving DecidableEq

structure Server where
  world : World := {}
  scripts : List Script := []
  connected : Bool := false
  log : List String := []
  nextPoint : Nat := 0
  pages : List (ContinuationPoint × List Reference) := []
  items : List MonitoredItem := []
  nextItem : UInt32 := 1

namespace Server

def dropSession (server : Server) : Server := { server with connected := false, items := [] }

def setWorld (world : World) (scripts : List Script) (server : Server) : Server :=
  { server with world, scripts }

def takeLog (server : Server) : List String × Server :=
  (server.log.reverse, { server with log := [] })

def insertItem (item : MonitoredItem) : List MonitoredItem → List MonitoredItem
  | [] => [item]
  | other :: rest =>
    if item.number < other.number then item :: other :: rest
    else if item.number = other.number then item :: rest
    else other :: insertItem item rest

def monitor (item : MonitoredItem) (server : Server) : Server :=
  { server with items := insertItem item server.items }

def listeners (server : Server) (node : WireId) : List Listener :=
  (server.items.filter (·.node = node)).map (·.listener)

def paginate (references : List Reference) (server : Server) : Page × Server :=
  let size := server.world.pageSize
  if size = 0 ∨ references.length ≤ size then ({ references }, server)
  else
    let point : ContinuationPoint := ⟨s!"cp-{server.nextPoint}"⟩
    ({ references := references.take size, next := some point },
      { server with
        nextPoint := server.nextPoint + 1
        pages := (point, references.drop size) :: server.pages })

def note (call : Call) : Exchange Server (Option Reply) := fun server =>
  let line := call.line
  let (chosen, scripts) := Script.choose line server.scripts
  let server := { server with log := line :: server.log, scripts }
  match chosen with
  | none => .ok none server
  | some script => .ok script.reply (if script.drop then server.dropSession else server)

/-- A call: a scripted answer if there is one, and otherwise what the server does. -/
def serve {α : Type} (call : Call) (scripted : Answer → Exchange Server α)
    (usual : Exchange Server α) : Exchange Server α := do
  match ← note call with
  | some (.fail cause) => Exchange.fail cause
  | some (.answer answer) => scripted answer
  | none => usual

def inSession {α : Type} (usual : Exchange Server α) : Exchange Server α := do
  if (← get).connected then usual else Exchange.fail ConnectionError.notConnected

def scriptedPage (answer : Answer) : Page := ⟨answer.status, answer.references, answer.next⟩

def answerPage (references : List Reference) : Exchange Server Page := fun server =>
  let (page, server) := server.paginate references
  .ok page server

def nextPage (point : ContinuationPoint) : Exchange Server Page := do
  match (← get).pages.lookup point with
  | none => pure { status := .badContinuationPointInvalid }
  | some references =>
    modify fun server => { server with pages := server.pages.filter (·.1 ≠ point) }
    answerPage references

def monitorNext (node : WireId) (listener : Listener) : Exchange Server UInt32 := do
  let number := (← get).nextItem
  modify fun server =>
    { server.monitor ⟨number, node, listener⟩ with nextItem := number + 1 }
  pure number

def transport : Transport Server where
  isConnected := (·.connected)
  endpoints url := serve (.endpoints url) (fun answer => pure answer.endpoints) do
    pure ((← get).world.endpoints.map (Endpoint.ofMode url))
  connect endpoint options := serve (.connect endpoint options) (fun _ => pure ()) do
    modify fun server => { server with connected := true }
  disconnect := serve .disconnect (fun _ => pure ()) do
    modify dropSession
  browse request := serve (.browse request) (fun answer => pure (scriptedPage answer)) <|
    inSession do
      answerPage ((← get).world.browse request)
  browseNext point := serve (.browseNext point) (fun answer => pure (scriptedPage answer)) <|
    inSession (nextPage point)
  read requests := serve (.read requests)
    (fun answer => pure { status := answer.status, values := answer.values }) <|
    inSession do
      pure { values := requests.map (← get).world.read }
  translate request := serve (.translate request)
    (fun answer => pure { status := answer.status, results := answer.results }) <|
    inSession do
      pure { results := [(← get).world.translate request] }
  subscribe node listener := serve (.subscribe node)
    (fun answer => do
      modify (monitor ⟨answer.item, node, listener⟩)
      pure answer.item) <|
    inSession (monitorNext node listener)
  unsubscribe item := serve (.unsubscribe item) (fun _ => pure ()) do
    modify fun server => { server with items := server.items.filter (·.number ≠ item) }

end Server

end AddressSpace.Simulation
