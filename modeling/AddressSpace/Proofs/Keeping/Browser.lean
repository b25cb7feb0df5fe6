import AddressSpace.Hierarchy
import AddressSpace.Path
import AddressSpace.Proofs.Exchange

namespace AddressSpace
open Exchange

variable {α β : Type}

def Harmless (x : Except Error α) : Prop := ∀ cause, x = .error cause → cause.isConnection = false

theorem harmless_ok (a : α) : Harmless (.ok a) := fun _ failed => nomatch failed

theorem harmless_error {cause : Error} (other : cause.isConnection = false) :
    Harmless (.error cause : Except Error α) := by
  intro _ failed
  cases failed
  exact other

theorem Harmless.bind {x : Except Error α} {next : α → Except Error β} (first : Harmless x)
    (goesOn : ∀ a, Harmless (next a)) : Harmless (x >>= next) := by
  cases x with
  | ok a => exact goesOn a
  | error cause => exact harmless_error (first cause rfl)

theorem Harmless.map {x : Except Error α} (harmless : Harmless x) (f : α → β) :
    Harmless (x.map f) := by
  cases x with
  | ok a => exact harmless_ok (f a)
  | error cause => exact harmless_error (harmless cause rfl)

theorem harmless_ite {c : Prop} [Decidable c] {x y : Except Error α} (yes : Harmless x)
    (no : Harmless y) : Harmless (if c then x else y) := by
  split
  · exact yes
  · exact no

theorem harmless_mapM {f : α → Except Error β} (each : ∀ a, Harmless (f a)) :
    (as : List α) → Harmless (as.mapM f)
  | [] => harmless_ok []
  | a :: rest => by
      rw [List.mapM_cons]
      exact (each a).bind fun b => (harmless_mapM each rest).bind fun bs => harmless_ok (b :: bs)

namespace NamespaceTable

variable (table : NamespaceTable)

theorem harmless_indexOf (uri : String) : Harmless (table.indexOf uri) := by
  refine harmless_ite (harmless_ok 0) ?_
  split
  · exact harmless_ok _
  · exact harmless_error rfl

theorem harmless_uriAt (index : UInt16) : Harmless (table.uriAt index) := by
  unfold uriAt
  split
  · exact harmless_ok _
  · exact harmless_error rfl

theorem harmless_encode (id : NodeId) : Harmless (table.encode id) := by
  refine harmless_ite (harmless_ok _) ((table.harmless_indexOf id.uri).bind fun index => ?_)
  cases Identifier.ofText id.identifier with
  | ok identifier => exact harmless_ok _
  | error bad => exact harmless_error rfl

theorem harmless_decode (id : WireId) : Harmless (table.decode id) :=
  harmless_ite (harmless_ok _) ((table.harmless_uriAt id.index).map _)

theorem harmless_encodeName (name : QualifiedName) : Harmless (table.encodeName name) :=
  (table.harmless_indexOf name.uri).map _

theorem harmless_decodeName (name : WireName) : Harmless (table.decodeName name) :=
  (table.harmless_uriAt name.index).map _

theorem harmless_canonical (id : NodeId) : Harmless (table.canonical id) :=
  (table.harmless_encode id).bind table.harmless_decode

end NamespaceTable

theorem ReadAnswer.harmless_single (node : String) (answer : ReadAnswer) :
    Harmless (answer.single node) := by
  refine harmless_ite (harmless_error rfl) ?_
  split
  · exact harmless_ite (harmless_error rfl) (harmless_ok _)
  · exact harmless_error rfl

structure Transport.Keeps {σ : Type} (P : σ → Prop) (E : Error → Prop) (transport : Transport σ) :
    Prop where
  endpoints : ∀ url, Exchange.Keeps P E (transport.endpoints url)
  connect : ∀ endpoint options, Exchange.Keeps P E (transport.connect endpoint options)
  disconnect : Exchange.Keeps P E transport.disconnect
  browse : ∀ request, Exchange.Keeps P E (transport.browse request)
  browseNext : ∀ point, Exchange.Keeps P E (transport.browseNext point)
  read : ∀ requests, Exchange.Keeps P E (transport.read requests)
  translate : ∀ request, Exchange.Keeps P E (transport.translate request)
  subscribe : ∀ node listener, Exchange.Keeps P E (transport.subscribe node listener)
  unsubscribe : ∀ item, Exchange.Keeps P E (transport.unsubscribe item)

/-- The calls with which questions are asked keep `P` and fail only with errors that `E` allows. -/
structure Transport.Asks {σ : Type} (P : σ → Prop) (E : Error → Prop) (transport : Transport σ) :
    Prop where
  browse : ∀ request, Exchange.Keeps P E (transport.browse request)
  browseNext : ∀ point, Exchange.Keeps P E (transport.browseNext point)
  read : ∀ requests, Exchange.Keeps P E (transport.read requests)
  translate : ∀ request, Exchange.Keeps P E (transport.translate request)

theorem Transport.Keeps.asks {σ : Type} {P : σ → Prop} {E : Error → Prop}
    {transport : Transport σ} (calls : transport.Keeps P E) : transport.Asks P E :=
  ⟨calls.browse, calls.browseNext, calls.read, calls.translate⟩

variable {σ : Type} {P : σ → Prop} {E : Error → Prop}
  (harmless : ∀ cause : Error, cause.isConnection = false → E cause)
include harmless

theorem keeps_harmless {x : Except Error α} (made : Harmless x) :
    Keeps P E (Exchange.ofExcept x : Exchange σ α) :=
  keeps_ofExcept fun cause failed => harmless cause (made cause failed)

namespace Browser

variable {browser : Browser σ} (asks : browser.transport.Asks P E)

omit harmless in
theorem harmless_request (start : NodeId) (context : BrowseContext) :
    Harmless (browser.request start context) :=
  (browser.namespaces.harmless_encode start).bind fun _ =>
    (browser.namespaces.harmless_encode context.referenceType).bind fun _ => harmless_ok _

omit harmless in
theorem harmless_neighbour (reference : Reference) : Harmless (browser.neighbour reference) := by
  refine (browser.namespaces.harmless_decode _).bind fun node => ?_
  cases NodeClass.ofValue? reference.nodeClass with
  | none => exact harmless_error rfl
  | some nodeClass =>
      exact (browser.namespaces.harmless_decode _).bind fun _ =>
        (browser.namespaces.harmless_decode _).bind fun _ =>
          (browser.namespaces.harmless_decodeName _).bind fun _ => harmless_ok _

include asks

theorem keeps_collectPages (start : NodeId) :
    (left : Nat) → (page : Page) → Keeps P E (browser.collectPages start left page)
  | left, page => by
      unfold collectPages
      refine keeps_ite (keeps_fail (harmless _ rfl)) ?_
      split
      · exact keeps_pure _
      · exact keeps_fail (harmless _ rfl)
      · exact (asks.browseNext _).bind fun page' =>
          (keeps_collectPages start _ page').bind fun _ => keeps_pure _

theorem keeps_browse (start : NodeId) (context : BrowseContext) :
    Keeps P E (browser.browse start context) := by
  refine (keeps_harmless harmless (harmless_request start context)).bind fun request => ?_
  refine (asks.browse request).bind fun page => ?_
  refine (keeps_collectPages harmless asks start _ page).bind fun references => ?_
  exact keeps_harmless harmless (harmless_mapM harmless_neighbour references)

theorem keeps_readAttribute (node : NodeId) (attr : Attribute) :
    Keeps P E (browser.readAttribute node attr) :=
  (keeps_harmless harmless (browser.namespaces.harmless_encode node)).bind fun _ =>
    (asks.read _).bind fun answer => keeps_harmless harmless (answer.harmless_single _)

theorem keeps_readNodeClass (node : NodeId) : Keeps P E (browser.readNodeClass node) := by
  refine (keeps_readAttribute harmless asks node _).bind fun value => ?_
  split
  · split
    · exact keeps_pure _
    · exact keeps_fail (harmless _ rfl)
  · exact keeps_fail (harmless _ rfl)

theorem keeps_readBrowseName (node : NodeId) : Keeps P E (browser.readBrowseName node) := by
  refine (keeps_readAttribute harmless asks node _).bind fun value => ?_
  split
  · exact (keeps_harmless harmless (browser.namespaces.harmless_decodeName _)).bind fun _ =>
      keeps_pure _
  · exact keeps_fail (harmless _ rfl)

theorem keeps_readValues (nodes : List NodeId) : Keeps P E (browser.readValues nodes) := by
  refine (keeps_harmless harmless (harmless_mapM browser.namespaces.harmless_encode nodes)).bind
    fun ids => (asks.read _).bind fun answer => ?_
  dsimp only
  split
  · exact keeps_fail (harmless _ rfl)
  · exact keeps_ite (keeps_pure _) (keeps_fail (harmless _ rfl))

theorem keeps_modellingRule (node : NodeId) : Keeps P E (browser.modellingRule node) :=
  (keeps_browse harmless asks node _).bind fun _ => keeps_pure _

theorem keeps_typeDefinition (node : NodeId) : Keeps P E (browser.typeDefinition node) := by
  refine (keeps_browse harmless asks node _).bind fun found => ?_
  split
  · exact keeps_fail (harmless _ rfl)
  · exact keeps_pure _
  · exact keeps_fail (harmless _ rfl)

theorem keeps_implementedNamespace (machine : NodeId) :
    Keeps P E (browser.implementedNamespace machine) :=
  (keeps_typeDefinition harmless asks machine).bind fun _ => keeps_pure _

theorem keeps_identificationValues (identification : NodeId) :
    Keeps P E (browser.identificationValues identification) :=
  (keeps_browse harmless asks identification _).bind fun _ => keeps_pure _

theorem keeps_resolve (start : NodeId) (name : QualifiedName) :
    Keeps P E (browser.resolve start name) := by
  have request : Harmless (browser.pathRequest start name) :=
    harmless_ite (harmless_error rfl) (harmless_ite (harmless_error rfl)
      ((browser.namespaces.harmless_encode start).bind fun _ =>
        (browser.namespaces.harmless_encodeName name).bind fun _ => harmless_ok _))
  have target : ∀ answer, Harmless (firstTarget start name answer) := by
    intro answer
    refine harmless_ite (harmless_error rfl) ?_
    split
    · refine harmless_ite (harmless_error rfl) (harmless_ite (harmless_error rfl) ?_)
      split
      · exact harmless_error rfl
      · exact harmless_ok _
    · exact harmless_error rfl
  exact (keeps_harmless harmless request).bind fun request => (asks.translate request).bind
    fun answer => (keeps_harmless harmless (target answer)).bind fun wire =>
      keeps_harmless harmless (browser.namespaces.harmless_decode wire)

theorem keeps_resolveAll (start : NodeId) (names : List QualifiedName) :
    Keeps P E (browser.resolveAll start names) := by
  induction names generalizing start with
  | nil => exact keeps_pure _
  | cons name rest ih =>
      unfold resolveAll
      rw [List.foldlM_cons]
      exact (keeps_resolve harmless asks start name).bind ih

theorem keeps_fetchSuperType (type : NodeId) : Keeps P E (browser.fetchSuperType type) := by
  refine (keeps_browse harmless asks type _).bind fun found => ?_
  split <;> exact keeps_pure _

end Browser

end AddressSpace
