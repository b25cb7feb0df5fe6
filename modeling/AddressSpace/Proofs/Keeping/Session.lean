import AddressSpace.Proofs.Keeping.Crawl
import AddressSpace.Proofs.Session

namespace AddressSpace
open Exchange

variable {σ α : Type} {P : σ → Prop} {E : Error → Prop} {Q : NodeId × Option NodeId → Prop}

def Surveyed.Sound (P : σ → Prop) (Q : NodeId × Option NodeId → Prop) (survey : Surveyed σ) : Prop :=
  P survey.server ∧ ∀ entry ∈ survey.superTypes, Q entry

abbrev Transport.Maintains (transport : Transport σ) (P : σ → Prop) : Prop :=
  transport.Keeps P fun _ => True

theorem Survey.keeps_onServer {exchange : Exchange σ α} (keeps : Keeps P (fun _ => True) exchange) :
    Keeps (Surveyed.Sound P Q) (fun _ => True) (onServer exchange) :=
  keeps.within (fun _ sound => sound.1) fun _ sound _ kept => ⟨kept, sound.2⟩

namespace Browser

variable {browser : Browser σ} (asks : browser.transport.Asks P fun _ => True)
  (fetched : ∀ type server answer new, P server →
    browser.fetchSuperType type server = .ok answer new → Q (type, answer))

include asks fetched

theorem keeps_superType (type : NodeId) :
    Keeps (Surveyed.Sound P Q) (fun _ => True) (browser.superType type) := by
  rintro ⟨superTypes, server⟩ ⟨kept, known⟩
  unfold superType
  rw [bind_ok (get_apply _)]
  dsimp only
  cases superTypes.lookup type with
  | some answer => exact .ok ⟨kept, known⟩
  | none =>
      dsimp only
      have ends := keeps_fetchSuperType (fun _ _ => trivial) asks type server kept
      cases asked : browser.fetchSuperType type server with
      | error cause new =>
          rw [asked] at ends
          cases ends with
          | error _ kept' =>
              have failed : Survey.onServer (browser.fetchSuperType type) ⟨superTypes, server⟩ =
                  .error cause ⟨superTypes, new⟩ := within_error asked
              rw [bind_error failed]
              exact .error trivial ⟨kept', known⟩
      | ok answer new =>
          rw [asked] at ends
          cases ends with
          | ok kept' =>
              have answered : Survey.onServer (browser.fetchSuperType type) ⟨superTypes, server⟩ =
                  .ok answer ⟨superTypes, new⟩ := within_ok asked
              rw [bind_ok answered]
              refine .ok ⟨kept', fun entry member => ?_⟩
              rcases List.mem_cons.1 member with rfl | member
              · exact fetched type server answer new kept asked
              · exact known entry member

theorem keeps_reaches (expected : NodeId) (remaining : Nat) (current : NodeId) :
    Keeps (Surveyed.Sound P Q) (fun _ => True) (browser.reaches expected remaining current) := by
  induction remaining generalizing current with
  | zero => exact keeps_pure _
  | succ remaining ih =>
      refine keeps_ite (keeps_pure _) ((keeps_superType asks fetched current).bind fun next => ?_)
      cases next with
      | none => exact keeps_pure _
      | some next => exact ih next

theorem keeps_isSameOrSubtype (depth : Nat) (expected candidate : NodeId) :
    Keeps (Surveyed.Sound P Q) (fun _ => True)
      (browser.isSameOrSubtype depth expected candidate) :=
  keeps_ite (keeps_pure _) ((keeps_ofExcept fun _ _ => trivial).bind fun expected =>
    (keeps_ofExcept fun _ _ => trivial).bind fun candidate =>
      keeps_reaches asks fetched expected depth candidate)

omit asks fetched in
theorem keeps_filterSurvey {ask : α → Survey σ Bool}
    (each : ∀ a, Keeps (Surveyed.Sound P Q) (fun _ => True) (ask a)) :
    (as : List α) → Keeps (Surveyed.Sound P Q) (fun _ => True) (filterSurvey ask as)
  | [] => keeps_pure _
  | a :: rest => (each a).bind fun _ => (keeps_filterSurvey each rest).bind fun _ => keeps_pure _

theorem keeps_browseInstances (depth : Nat) (start : NodeId) (context : BrowseContext)
    (type : NodeId) : Keeps (Surveyed.Sound P Q) (fun _ => True)
      (browser.browseInstances depth start context type) := by
  refine (Survey.keeps_onServer (keeps_readNodeClass (fun _ _ => trivial) asks type)).bind
    fun typeClass => ?_
  cases instanceClass? typeClass with
  | none => exact keeps_fail trivial
  | some nodeClass =>
      refine (Survey.keeps_onServer (keeps_browse (fun _ _ => trivial) asks start _)).bind
        fun found => ?_
      exact keeps_filterSurvey (fun _ => keeps_isSameOrSubtype asks fetched depth type _) found

end Browser

theorem Crawling.keeps_fromEmpty {crawl : Crawling σ Unit}
    (keeps : Keeps (fun crawl => P crawl.server) E crawl) : Keeps P E crawl.fromEmpty := by
  intro server kept
  have ends := keeps ⟨.empty, server⟩ kept
  unfold fromEmpty
  generalize crawl ⟨.empty, server⟩ = result at ends
  cases ends with
  | ok kept' => exact .ok kept'
  | error allowed kept' => exact .error allowed kept'

theorem Browser.keeps_crawlTypes {browser : Browser σ}
    (asks : browser.transport.Asks P fun _ => True) (maxDepth : Nat) :
    Keeps P (fun _ => True) (browser.crawlTypes maxDepth) := by
  have crawls := keeps_discover_of_asks (fun _ _ => trivial) asks maxDepth
  exact Crawling.keeps_fromEmpty ((crawls _ true).bind fun _ => crawls _ false)

/-- A session that still has the namespaces and the library of a rebuilt one. -/
structure Session.Stands (P : σ → Prop) (Q : NodeId × Option NodeId → Prop)
    (rebuilt session : Session σ) : Prop where
  server : P session.server
  superTypes : ∀ entry ∈ session.superTypes, Q entry
  namespaces : session.namespaces = rebuilt.namespaces
  library : session.library = rebuilt.library

variable {rebuilt : Session σ}

theorem Session.keeps_onServer {exchange : Exchange σ α} (keeps : Keeps P E exchange) :
    Keeps (Stands P Q rebuilt) E (onServer exchange) :=
  keeps.within (fun _ stands => stands.server) fun _ stands _ kept =>
    ⟨kept, stands.superTypes, stands.namespaces, stands.library⟩

namespace Client

variable {client : Client σ} (calls : client.transport.Maintains P)
include calls

theorem keeps_subscribe (id : Guid) (node : NodeId) (listener : Listener) :
    Keeps (Session.Stands P Q rebuilt) (fun _ => True) (client.subscribe id node listener) := by
  refine keeps_get.bind fun session => (keeps_ofExcept fun _ _ => trivial).bind fun wire => ?_
  refine (Session.keeps_onServer (calls.subscribe wire listener)).bind fun item => ?_
  refine (keeps_modify fun session stands => ?_).bind fun _ => keeps_pure id
  exact ⟨stands.server, stands.superTypes, stands.namespaces, stands.library⟩

theorem keeps_unsubscribe (id : Guid) :
    Keeps (Session.Stands P Q rebuilt) (fun _ => True) (client.unsubscribe id) := by
  refine keeps_get.bind fun session => ?_
  split
  · exact keeps_fail trivial
  · refine (keeps_modify fun session stands => ?_).bind fun _ => ?_
    · exact ⟨stands.server, stands.superTypes, stands.namespaces, stands.library⟩
    · split
      · exact keeps_pure ()
      · exact Session.keeps_onServer (calls.unsubscribe _)

theorem keeps_closeSession :
    Keeps (Session.Stands P Q rebuilt) (fun _ => True) client.closeSession := by
  refine (keeps_modify fun session stands => ?_).bind fun _ => keeps_get.bind fun session => ?_
  · exact ⟨stands.server, stands.superTypes, stands.namespaces, stands.library⟩
  · exact keeps_ite (Session.keeps_onServer calls.disconnect) (keeps_pure ())

theorem keeps_openSession (config : Config) :
    Keeps (Session.Stands P Q rebuilt) (fun _ => True) (client.openSession config) := by
  refine (Session.keeps_onServer (calls.endpoints _)).bind fun endpoints => ?_
  split
  · exact keeps_fail trivial
  · exact (Session.keeps_onServer (calls.connect _ _)).bind fun _ => keeps_pure _

theorem keeps_rearmOne (namespaces : NamespaceTable) (subscription : Subscription) :
    Keeps P E (client.rearmOne namespaces subscription) := by
  obtain ⟨id, node, listener, item⟩ := subscription
  cases item with
  | some item => exact keeps_pure _
  | none =>
      unfold rearmOne
      dsimp only
      cases namespaces.encode node with
      | error cause => exact keeps_pure _
      | ok wire =>
          intro server kept
          have ends := calls.subscribe wire listener server kept
          dsimp only
          generalize client.transport.subscribe wire listener server = result at ends
          cases ends with
          | ok kept' => exact .ok kept'
          | error _ kept' => exact .ok kept'

theorem keeps_rearm : Keeps (Session.Stands P Q rebuilt) E client.rearm := by
  refine keeps_get.bind fun session => ?_
  refine (Session.keeps_onServer (keeps_mapM (keeps_rearmOne calls session.namespaces) _)).bind
    fun subscriptions => ?_
  refine (keeps_modify fun session stands => ?_).bind fun _ => keeps_pure _
  exact ⟨stands.server, stands.superTypes, stands.namespaces, stands.library⟩

omit calls

variable (asks : client.transport.Asks P fun _ => True)
  (fetched : ∀ type server answer new, P server →
    (client.through rebuilt.namespaces).fetchSuperType type server = .ok answer new →
      Q (type, answer))
include asks

theorem keeps_ask {question : Browser σ → Exchange σ α}
    (keeps : ∀ browser : Browser σ, browser.transport.Asks P (fun _ => True) →
      Keeps P (fun _ => True) (question browser)) :
    Keeps (Session.Stands P Q rebuilt) (fun _ => True) (client.ask question) :=
  keeps_get.bind fun _ => Session.keeps_onServer (keeps _ asks)

omit asks in
theorem keeps_askAboutTypes {question : Browser σ → Survey σ α}
    (keeps : Keeps (Surveyed.Sound P Q) (fun _ => True)
      (question (client.through rebuilt.namespaces))) :
    Keeps (Session.Stands P Q rebuilt) (fun _ => True) (client.askAboutTypes question) := by
  intro session stands
  have same : client.browser session = client.through rebuilt.namespaces := by
    rw [browser, through, stands.namespaces]
  unfold askAboutTypes
  rw [bind_ok (get_apply _), same]
  have kept : Keeps (Session.Stands P Q rebuilt) (fun _ => True)
      (Session.onSurvey (question (client.through rebuilt.namespaces))) :=
    keeps.within (fun _ stands => ⟨stands.server, stands.superTypes⟩) fun _ stands _ sound =>
      ⟨sound.1, sound.2, stands.namespaces, stands.library⟩
  exact kept session stands

include fetched

theorem keeps_respond (question : Question) :
    Keeps (Session.Stands P Q rebuilt) (fun _ => True) (client.respond question) := by
  have free : ∀ cause : Error, cause.isConnection = false → True := fun _ _ => trivial
  cases question with
  | browse start context =>
      exact (keeps_ask asks fun _ asks => Browser.keeps_browse free asks start context).bind
        fun _ => keeps_pure _
  | browseInstances start context type =>
      exact (keeps_askAboutTypes (Browser.keeps_browseInstances asks fetched _ start context
        type)).bind fun _ => keeps_pure _
  | isSameOrSubtype expected candidate =>
      exact (keeps_askAboutTypes (Browser.keeps_isSameOrSubtype asks fetched _ expected
        candidate)).bind fun _ => keeps_pure _
  | resolve start names =>
      exact (keeps_ask asks fun _ asks => Browser.keeps_resolveAll free asks start names).bind
        fun _ => keeps_pure _
  | typeDefinition node =>
      exact (keeps_ask asks fun _ asks => Browser.keeps_typeDefinition free asks node).bind
        fun _ => keeps_pure _
  | modellingRule node =>
      exact (keeps_ask asks fun _ asks => Browser.keeps_modellingRule free asks node).bind
        fun _ => keeps_pure _
  | implementedNamespace machine =>
      exact (keeps_ask asks fun _ asks =>
        Browser.keeps_implementedNamespace free asks machine).bind fun _ => keeps_pure _
  | identificationValues identification =>
      exact (keeps_ask asks fun _ asks =>
        Browser.keeps_identificationValues free asks identification).bind fun _ => keeps_pure _
  | readBrowseName node =>
      exact (keeps_ask asks fun _ asks => Browser.keeps_readBrowseName free asks node).bind
        fun _ => keeps_pure _
  | machines start =>
      exact (keeps_ask asks fun _ asks => Browser.keeps_browse free asks start _).bind
        fun _ => keeps_pure _

end Client

end AddressSpace
