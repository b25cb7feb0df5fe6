import AddressSpace.Hierarchy
import AddressSpace.Path
import AddressSpace.TypeLibrary

namespace AddressSpace

structure Subscription where
  id : Guid
  node : NodeId
  listener : Listener
  item : Option UInt32
  deriving DecidableEq

structure Session (σ : Type) where
  server : σ
  namespaces : NamespaceTable := .empty
  superTypes : SuperTypes := []
  library : TypeLibrary := .empty
  subscriptions : List Subscription := []

structure Client (σ : Type) where
  transport : Transport σ
  config : Config

namespace Session

variable {σ α : Type}

def onServer (exchange : Exchange σ α) : Exchange (Session σ) α :=
  exchange.within (·.server) fun server session => { session with server }

def onSurvey (survey : Survey σ α) : Exchange (Session σ) α :=
  survey.within (fun session => ⟨session.superTypes, session.server⟩)
    fun surveyed session =>
      { session with superTypes := surveyed.superTypes, server := surveyed.server }

def forgetItems (session : Session σ) : Session σ :=
  { session with
    subscriptions := session.subscriptions.map fun subscription =>
      { subscription with item := none } }

def describe (transport : Transport σ) (session : Session σ) : String :=
  "Session \x7b connected: " ++ toString (transport.isConnected session.server) ++
    ", namespaces: " ++ toString session.namespaces.size ++
    ", types: " ++ toString session.library.types.size ++
    ", subscriptions: " ++ toString session.subscriptions.length ++ " \x7d"

end Session

namespace Client

variable {σ α : Type}

def browser (client : Client σ) (session : Session σ) : Browser σ where
  transport := client.transport
  namespaces := session.namespaces
  maxPages := client.config.maxPages.toNat

def openSession (client : Client σ) (config : Config) : Exchange (Session σ) Endpoint := do
  let endpoints ← Session.onServer (client.transport.endpoints config.endpoint)
  match endpoints.find? (·.mode = config.securityMode) with
  | none => Exchange.fail (ConnectionError.noSuitableEndpoint config.securityMode.name)
  | some endpoint =>
    Session.onServer (client.transport.connect endpoint config.sessionOptions)
    pure endpoint

def closeSession (client : Client σ) : Exchange (Session σ) Unit := do
  modify Session.forgetItems
  if client.transport.isConnected (← get).server then
    Session.onServer client.transport.disconnect

/-- Reads the namespaces and the types of the server anew and answers with the number of types.
Known supertypes are forgotten, and the types change only if everything succeeds. -/
def rebuild (client : Client σ) (config : Config) : Exchange (Session σ) Nat := do
  let namespaces ← Session.onServer (NamespaceTable.fetch client.transport)
  -- From here on questions use the new namespaces, also where the crawl fails.
  modify fun session => { session with namespaces, superTypes := [] }
  let browser := client.browser (← get)
  let arena ← Session.onServer (browser.crawlTypes config.maxCrawlDepth.toNat)
  let library :=
    TypeLibrary.ofArena arena (TypeLibrary.targets arena namespaces config.typeNamespaces)
  modify fun session => { session with library }
  pure library.types.size

def ask (client : Client σ) (question : Browser σ → Exchange σ α) : Exchange (Session σ) α := do
  Session.onServer (question (client.browser (← get)))

def askAboutTypes (client : Client σ) (question : Browser σ → Survey σ α) :
    Exchange (Session σ) α := do
  Session.onSurvey (question (client.browser (← get)))

def browse (client : Client σ) (start : NodeId) (context : BrowseContext) :
    Exchange (Session σ) (List Neighbour) :=
  client.ask (·.browse start context)

def browseInstances (client : Client σ) (start : NodeId) (context : BrowseContext)
    (type : NodeId) : Exchange (Session σ) (List Neighbour) :=
  client.askAboutTypes (·.browseInstances client.config.maxTypeDepth.toNat start context type)

def isSameOrSubtype (client : Client σ) (expected candidate : NodeId) :
    Exchange (Session σ) Bool :=
  client.askAboutTypes (·.isSameOrSubtype client.config.maxTypeDepth.toNat expected candidate)

def subscribe (client : Client σ) (id : Guid) (node : NodeId) (listener : Listener) :
    Exchange (Session σ) Guid := do
  let wire ← Exchange.ofExcept ((← get).namespaces.encode node)
  let item ← Session.onServer (client.transport.subscribe wire listener)
  modify fun session =>
    { session with
      subscriptions := session.subscriptions ++ [{ id, node, listener, item := some item }] }
  pure id

/-- Ends a subscription.  It is gone even if the server does not end its monitored item. -/
def unsubscribe (client : Client σ) (id : Guid) : Exchange (Session σ) Unit := do
  match (← get).subscriptions.find? (·.id = id) with
  | none => Exchange.fail (NotFoundError.subscription (toString id))
  | some subscription =>
    modify fun session =>
      { session with subscriptions := session.subscriptions.eraseP (·.id = id) }
    match subscription.item with
    | none => pure ()
    | some item => Session.onServer (client.transport.unsubscribe item)

def rearmOne (client : Client σ) (namespaces : NamespaceTable) (subscription : Subscription) :
    Exchange σ Subscription :=
  match subscription.item, namespaces.encode subscription.node with
  | none, .ok wire => fun server =>
    match client.transport.subscribe wire subscription.listener server with
    | .ok item new => .ok { subscription with item := some item } new
    -- A subscription that the server refuses stays without an item.
    | .error _ new => .ok subscription new
  | _, _ => pure subscription

def rearm (client : Client σ) : Exchange (Session σ) Nat := do
  let session ← get
  let subscriptions ←
    Session.onServer (session.subscriptions.mapM (client.rearmOne session.namespaces))
  modify fun session => { session with subscriptions }
  pure (subscriptions.countP (·.item.isSome))

end Client

end AddressSpace
