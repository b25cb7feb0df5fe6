import AddressSpace.Browse
import AddressSpace.Proofs.NamespaceTable
import AddressSpace.Proofs.Requests
import Mathlib.Data.List.Forall2

/-!
# Browsing page by page

`Browser.Pages` are the pages that a server gives to a browse, whatever the browser makes of them.
A browse answers with all references of all pages or it fails, and in whichever way a server cuts
its references into pages the answer is the same: `browse_pages`.
-/

namespace AddressSpace
open Exchange

variable {σ τ α β : Type}

/-! ## Pages -/

/-- A server that has given a page gives more pages, each at the continuation point of the one
before.  Those before the last one are the front. -/
inductive Transport.Follows (transport : Transport σ) :
    Page → σ → (front : List Page) → (last : Page) → σ → Prop
  | here (page : Page) (server : σ) : Follows transport page server [] page server
  | next {page page' last : Page} {server between new : σ} {point : ContinuationPoint}
      {front : List Page} (goesOn : page.next = some point)
      (asked : transport.browseNext point server = .ok page' between)
      (rest : Follows transport page' between front last new) :
      Follows transport page server (page :: front) last new

inductive Browser.Pages (browser : Browser σ) (start : NodeId) (context : BrowseContext)
    (server : σ) : (front : List Page) → (last : Page) → σ → Prop
  | intro {request : BrowseRequest} {page last : Page} {between new : σ} {front : List Page}
      (requested : browser.request start context = .ok request)
      (asked : browser.transport.browse request server = .ok page between)
      (follows : browser.transport.Follows page between front last new) :
      Pages browser start context server front last new

def Acceptable (pages : List Page) : Prop := ∀ page ∈ pages, page.status.isBad = false

def references (pages : List Page) : List Reference := pages.flatMap (·.references)

theorem references_append (pages pages' : List Page) :
    references (pages ++ pages') = references pages ++ references pages' :=
  List.flatMap_append

theorem references_singleton (page : Page) : references [page] = page.references :=
  List.flatMap_singleton ..

theorem acceptable_append {pages pages' : List Page} :
    Acceptable (pages ++ pages') ↔ Acceptable pages ∧ Acceptable pages' :=
  List.forall_mem_append

theorem acceptable_singleton {page : Page} : Acceptable [page] ↔ page.status.isBad = false :=
  List.forall_mem_singleton

theorem Transport.Follows.mem_of_mem {transport : Transport σ} {page last last' : Page}
    {server new new' : σ} {front front' : List Page}
    (follows : transport.Follows page server front last new)
    (whole : transport.Follows page server front' last' new') (ends : last'.next = none)
    {one : Page} (listed : one ∈ front ++ [last]) : one ∈ front' ++ [last'] := by
  -- both start at one page, so as long as they go on they get the same one next
  induction follows generalizing front' last' new' with
  | here page server =>
      obtain rfl := List.mem_singleton.1 listed
      cases whole with
      | here => exact List.mem_singleton_self _
      | next => exact List.mem_cons_self
  | next goesOn asked rest ih =>
      cases whole with
      | here => rw [goesOn] at ends; cases ends
      | next goesOn' asked' rest' =>
          obtain rfl := Option.some.inj (goesOn.symm.trans goesOn')
          obtain ⟨rfl, rfl⟩ := EStateM.Result.ok.inj (asked.symm.trans asked')
          rcases List.mem_cons.1 listed with rfl | behind
          · exact List.mem_cons_self
          · exact List.mem_cons_of_mem _ (ih rest' ends behind)

/-! ## Collecting -/

namespace Browser

variable {browser : Browser σ} {start : NodeId} {page last : Page} {server new : σ}
  {front : List Page} {left : Nat}

theorem collectPages_bad (bad : page.status.isBad) (left : Nat) (server : σ) :
    browser.collectPages start left page server =
      .error (.status "Browse" (toString start) page.status) server := by
  unfold collectPages
  rw [if_pos bad]
  rfl

theorem collectPages_last (good : page.status.isBad = false) (ends : page.next = none) (left : Nat)
    (server : σ) : browser.collectPages start left page server = .ok page.references server := by
  unfold collectPages
  rw [if_neg (Bool.eq_false_iff.1 good), ends]
  rfl

theorem collectPages_full (good : page.status.isBad = false) (goesOn : page.next.isSome)
    (server : σ) : browser.collectPages start 0 page server =
      .error (SchemaError.tooManyPages (toString start) browser.maxPages) server := by
  obtain ⟨point, goesOn⟩ := Option.isSome_iff_exists.1 goesOn
  unfold collectPages
  rw [if_neg (Bool.eq_false_iff.1 good), goesOn]
  rfl

theorem collectPages_next {point : ContinuationPoint} (good : page.status.isBad = false)
    (goesOn : page.next = some point) (left : Nat) :
    browser.collectPages start (left + 1) page =
      (do
        let page' ← browser.transport.browseNext point
        let behind ← browser.collectPages start left page'
        pure (page.references ++ behind)) := by
  conv_lhs => unfold collectPages
  rw [if_neg (Bool.eq_false_iff.1 good), goesOn]

theorem collectPages_follows (follows : browser.transport.Follows page server front last new)
    (good : Acceptable front) (left : Nat) :
    browser.collectPages start (front.length + left) page server =
      (do
        let behind ← browser.collectPages start left last
        pure (references front ++ behind)) new := by
  induction follows with
  | here page server =>
      rw [List.length_nil, Nat.zero_add]
      show _ = (browser.collectPages start left page >>= fun behind => pure behind) server
      rw [bind_pure]
  | next goesOn asked rest ih =>
      obtain ⟨first, others⟩ := List.forall_mem_cons.1 good
      rw [List.length_cons, Nat.add_right_comm, collectPages_next first goesOn, bind_ok asked,
        bind_congr_state (ih others), bind_assoc]
      simp only [pure_bind, ← List.append_assoc]
      rfl

theorem follows_of_collectPages {found : List Reference}
    (collects : browser.collectPages start left page server = .ok found new) :
    ∃ front last, browser.transport.Follows page server front last new ∧ front.length ≤ left ∧
      Acceptable (front ++ [last]) ∧ last.next = none ∧ found = references (front ++ [last]) := by
  induction left generalizing page server found with
  | zero =>
      cases bad : page.status.isBad with
      | true => rw [collectPages_bad bad] at collects; cases collects
      | false =>
          cases goesOn : page.next with
          | none =>
              rw [collectPages_last bad goesOn] at collects
              cases collects
              exact ⟨[], page, .here page _, Nat.le_refl 0, acceptable_singleton.2 bad, goesOn,
                (references_singleton page).symm⟩
          | some point =>
              rw [collectPages_full bad (by rw [goesOn]; rfl)] at collects
              cases collects
  | succ left ih =>
      cases bad : page.status.isBad with
      | true => rw [collectPages_bad bad] at collects; cases collects
      | false =>
          cases goesOn : page.next with
          | none =>
              rw [collectPages_last bad goesOn] at collects
              cases collects
              exact ⟨[], page, .here page _, Nat.zero_le _, acceptable_singleton.2 bad, goesOn,
                (references_singleton page).symm⟩
          | some point =>
              rw [collectPages_next bad goesOn] at collects
              obtain ⟨page', between, asked, rest⟩ := bind_eq_ok collects
              obtain ⟨behind, last', collects', done⟩ := bind_eq_ok rest
              cases done
              obtain ⟨front, last, follows, room, good, ends, rfl⟩ := ih collects'
              exact ⟨page :: front, last, .next goesOn asked follows, Nat.succ_le_succ room,
                List.forall_mem_cons.2 ⟨bad, good⟩, ends, rfl⟩

end Browser

/-! ## Reading references -/

structure Reference.Reads (table : NamespaceTable) (reference : Reference) (found : Neighbour) :
    Prop where
  node : table.decode reference.node = .ok found.node
  nodeClass : found.nodeClass.value = reference.nodeClass
  typeDefinition : table.decode reference.typeDefinition = .ok found.typeDefinition
  referenceType : table.decode reference.referenceType = .ok found.referenceType
  browseName : table.decodeName reference.browseName = .ok found.browseName

def Reference.Unreadable (table : NamespaceTable) (reference : Reference) : Prop :=
  (∃ index ∈ [reference.node.index, reference.typeDefinition.index, reference.referenceType.index,
    reference.browseName.index], index ∉ table.uris) ∨
  ∀ nodeClass : NodeClass, nodeClass.value ≠ reference.nodeClass

theorem mapM_eq_ok_iff {f : α → Except Error β} {as : List α} {bs : List β} :
    as.mapM f = .ok bs ↔ List.Forall₂ (fun a b => f a = .ok b) as bs := by
  induction as generalizing bs with
  | nil =>
      rw [List.mapM_nil, List.forall₂_nil_left_iff]
      exact ⟨fun same => (Except.ok.inj same).symm, fun same => congrArg Except.ok same.symm⟩
  | cons a rest ih =>
      rw [List.mapM_cons, List.forall₂_cons_left_iff]
      cases first : f a with
      | error cause =>
          refine ⟨fun failed => (nomatch failed), fun ⟨b, bs', found, _⟩ => nomatch found⟩
      | ok b =>
          cases others : rest.mapM f with
          | error cause =>
              refine ⟨fun failed => (nomatch failed), fun ⟨b', bs', _, found, _⟩ => ?_⟩
              rw [ih.2 found] at others
              cases others
          | ok bs' =>
              refine ⟨fun same => ?_, fun ⟨b', bs'', found, found', same⟩ => ?_⟩
              · cases same
                exact ⟨b, bs', rfl, ih.1 others, rfl⟩
              · cases found
                rw [ih.2 found'] at others
                cases others
                rw [same]
                rfl

theorem NodeClass.ofValue?_eq_some_iff {n : UInt32} {nodeClass : NodeClass} :
    NodeClass.ofValue? n = some nodeClass ↔ nodeClass.value = n := by
  constructor
  · intro found
    unfold NodeClass.ofValue? at found
    simpa using List.find?_some found
  · rintro rfl
    exact NodeClass.ofValue?_value nodeClass

namespace NamespaceTable

variable {table : NamespaceTable}

theorem index_mem_of_decode {wire : WireId} {id : NodeId} (decoded : table.decode wire = .ok id)
    (home : 0 ∈ table.uris) : wire.index ∈ table.uris := by
  cases proper : wire.isNull with
  | true =>
      obtain rfl : wire = .null := of_decide_eq_true proper
      exact home
  | false =>
      obtain ⟨uri, known, -⟩ := decode_eq_ok proper decoded
      exact Std.TreeMap.mem_iff_isSome_getElem?.2 (by rw [known]; rfl)

theorem index_mem_of_decodeName {name : WireName} {qualified : QualifiedName}
    (decoded : table.decodeName name = .ok qualified) : name.index ∈ table.uris := by
  unfold decodeName uriAt at decoded
  cases known : table.uris[name.index]? with
  | none => rw [known] at decoded; cases decoded
  | some uri => exact Std.TreeMap.mem_iff_isSome_getElem?.2 (by rw [known]; rfl)

theorem zero_mem_ofList {uris : List String} {index : UInt16}
    (known : index ∈ (ofList uris).uris) : 0 ∈ (ofList uris).uris := by
  have lists := lists_ofList uris
  obtain ⟨uri, found⟩ := Option.isSome_iff_exists.1 (Std.TreeMap.mem_iff_isSome_getElem?.1 known)
  rw [lists.uris] at found
  cases whole : uris.take capacity with
  | nil => rw [whole] at found; cases found
  | cons first rest =>
      have home : (ofList uris).uris[(0 : UInt16)]? = some first := by
        rw [lists.uris, whole, List.idxOf?_cons, if_pos (beq_self_eq_true first)]
        rfl
      exact Std.TreeMap.mem_iff_isSome_getElem?.2 (by rw [home]; rfl)

end NamespaceTable

theorem Reference.Reads.readable {uris : List String} {reference : Reference} {found : Neighbour}
    (reads : reference.Reads (.ofList uris) found) : ¬ reference.Unreadable (.ofList uris) := by
  intro unreadable
  have named := NamespaceTable.index_mem_of_decodeName reads.browseName
  have home := NamespaceTable.zero_mem_ofList named
  rcases unreadable with ⟨index, listed, unknown⟩ | unclassed
  · simp only [List.mem_cons, List.not_mem_nil, or_false] at listed
    rcases listed with rfl | rfl | rfl | rfl
    · exact unknown (NamespaceTable.index_mem_of_decode reads.node home)
    · exact unknown (NamespaceTable.index_mem_of_decode reads.typeDefinition home)
    · exact unknown (NamespaceTable.index_mem_of_decode reads.referenceType home)
    · exact unknown named
  · exact unclassed found.nodeClass reads.nodeClass

namespace Browser

variable {browser : Browser σ} {start : NodeId} {context : BrowseContext} {last : Page}
  {server new : σ} {front : List Page} {left : Nat}

theorem neighbour_eq_ok_iff {reference : Reference} {found : Neighbour} :
    browser.neighbour reference = .ok found ↔ reference.Reads browser.namespaces found := by
  unfold neighbour
  constructor
  · intro read
    obtain ⟨node, decoded, read⟩ := bind_except_eq_ok read
    cases classed : NodeClass.ofValue? reference.nodeClass with
    | none => rw [classed] at read; cases read
    | some nodeClass =>
        rw [classed] at read
        obtain ⟨typeDefinition, defined, read⟩ := bind_except_eq_ok read
        obtain ⟨referenceType, referred, read⟩ := bind_except_eq_ok read
        obtain ⟨browseName, named, read⟩ := bind_except_eq_ok read
        cases read
        exact ⟨decoded, NodeClass.ofValue?_eq_some_iff.1 classed, defined, referred, named⟩
  · rintro ⟨node, classed, typeDefinition, referenceType, browseName⟩
    simp only [node, NodeClass.ofValue?_eq_some_iff.2 classed, typeDefinition, referenceType,
      browseName, bind, Except.bind]

/-! ## Requests for pages -/

def recorded (browser : Browser σ) : Browser (Recorded σ) :=
  ⟨browser.transport.recorded, browser.namespaces, browser.maxPages⟩

theorem makes_collectPages {kind : Request → Bool} (start : NodeId) (left : Nat) (page : Page) :
    Makes kind left (browser.collectPages start left page)
      (browser.recorded.collectPages start left page) := by
  induction left generalizing page with
  | zero =>
      unfold collectPages
      split
      · exact makes_ofExcept (.error _)
      · cases page.next with
        | none => exact makes_ofExcept (.ok _)
        | some point => exact makes_ofExcept (.error _)
  | succ left ih =>
      unfold collectPages
      split
      · exact (makes_ofExcept (.error _)).mono (Nat.zero_le _)
      · cases page.next with
        | none => exact (makes_ofExcept (.ok _)).mono (Nat.zero_le _)
        | some point =>
            have asks : Makes kind 1 (browser.transport.browseNext point)
                (browser.recorded.transport.browseNext point) :=
              (makes_ask (.browseNext point) _).mono (by split <;> omega)
            exact (asks.bind fun page' => (ih page').bind fun _ => makes_ofExcept (.ok _)).mono
              (by omega)

theorem makes_browse_of {kind : Request → Bool} {first : Nat}
    (counts : ∀ request, (if kind (.browse request) then 1 else 0) ≤ first) (start : NodeId)
    (context : BrowseContext) :
    Makes kind (first + (browser.maxPages - 1)) (browser.browse start context)
      (browser.recorded.browse start context) := by
  unfold browse
  have asks (request : BrowseRequest) : Makes kind first
      (browser.transport.browse request) (browser.recorded.transport.browse request) :=
    (makes_ask (.browse request) _).mono (counts request)
  refine ((makes_ofExcept _).bind fun request => (asks request).bind fun page =>
    (makes_collectPages start (browser.maxPages - 1) page).bind fun _ =>
      makes_ofExcept _).mono (by omega)

theorem makes_browse (start : NodeId) (context : BrowseContext) :
    Makes Request.isBrowseNext (browser.maxPages - 1) (browser.browse start context)
      (browser.recorded.browse start context) :=
  (makes_browse_of (fun _ => Nat.le_refl 0) start context).mono (by omega)

/-! ## Browsing -/

theorem Pages.browse (pages : browser.Pages start context server front last new)
    (good : Acceptable front) (room : front.length + left = browser.maxPages - 1) :
    browser.browse start context server =
      (do
        let behind ← browser.collectPages start left last
        Exchange.ofExcept ((references front ++ behind).mapM browser.neighbour)) new := by
  obtain ⟨requested, asked, follows⟩ := pages
  unfold Browser.browse
  rw [requested]
  show (browser.transport.browse _ >>= _) server = _
  rw [bind_ok asked, ← room, bind_congr_state (collectPages_follows follows good left), bind_assoc]
  simp only [pure_bind]

/-- The whole answer to a browse: its pages are within the bound, none has a bad status, and the
last one has no continuation point. -/
structure Answered (browser : Browser σ) (start : NodeId) (context : BrowseContext) (server : σ)
    (front : List Page) (last : Page) (new : σ) : Prop where
  pages : browser.Pages start context server front last new
  room : front.length < browser.maxPages
  acceptable : Acceptable (front ++ [last])
  ends : last.next = none

theorem Answered.browse (answered : browser.Answered start context server front last new) :
    browser.browse start context server =
      Exchange.ofExcept ((references (front ++ [last])).mapM browser.neighbour) new := by
  obtain ⟨left, room⟩ := Nat.exists_eq_add_of_le (Nat.le_sub_one_of_lt answered.room)
  obtain ⟨good, alone⟩ := acceptable_append.1 answered.acceptable
  rw [answered.pages.browse good room.symm,
    bind_ok (collectPages_last (acceptable_singleton.1 alone) answered.ends left new),
    references_append, references_singleton]

theorem answered_of_browse {found : List Neighbour} (bound : 1 ≤ browser.maxPages)
    (browses : browser.browse start context server = .ok found new) :
    ∃ front last, browser.Answered start context server front last new ∧
      (references (front ++ [last])).mapM browser.neighbour = .ok found := by
  obtain ⟨request, unasked, encodes, rest⟩ := bind_eq_ok browses
  obtain ⟨requested, rfl⟩ := ofExcept_eq_ok encodes
  obtain ⟨page, between, asked, rest⟩ := bind_eq_ok rest
  obtain ⟨collected, whole, collects, rest⟩ := bind_eq_ok rest
  obtain ⟨reads, rfl⟩ := ofExcept_eq_ok rest
  obtain ⟨front, last, follows, room, good, ends, rfl⟩ := follows_of_collectPages collects
  exact ⟨front, last, ⟨⟨requested, asked, follows⟩, by omega, good, ends⟩, reads⟩

theorem browse_eq_ok_iff {found : List Neighbour} (bound : 1 ≤ browser.maxPages) :
    browser.browse start context server = .ok found new ↔
      ∃ front last, browser.Answered start context server front last new ∧
        List.Forall₂ (Reference.Reads browser.namespaces) (references (front ++ [last])) found := by
  have reads (references : List Reference) : references.mapM browser.neighbour = .ok found ↔
      List.Forall₂ (Reference.Reads browser.namespaces) references found := by
    simp only [mapM_eq_ok_iff, neighbour_eq_ok_iff]
  constructor
  · intro browses
    obtain ⟨front, last, answered, read⟩ := answered_of_browse bound browses
    exact ⟨front, last, answered, (reads _).1 read⟩
  · rintro ⟨front, last, answered, read⟩
    rw [answered.browse, (reads _).2 read]
    rfl

theorem Pages.fails_of_unreadable (pages : browser.Pages start context server front last new)
    (bound : 1 ≤ browser.maxPages) {uris : List String} (table : browser.namespaces = .ofList uris)
    {reference : Reference} (listed : reference ∈ references (front ++ [last]))
    (unreadable : reference.Unreadable browser.namespaces) :
    ∃ cause new', browser.browse start context server = .error cause new' := by
  cases browses : browser.browse start context server with
  | error cause new' => exact ⟨cause, new', rfl⟩
  | ok found new' =>
      obtain ⟨front', last', answered, reads⟩ := (browse_eq_ok_iff bound).1 browses
      obtain ⟨page, given, holds⟩ := List.mem_flatMap.1 listed
      -- a browse that succeeds has seen every page there is, also those behind `last`
      have reached : page ∈ front' ++ [last'] := by
        obtain ⟨requested, asked, follows⟩ := pages
        obtain ⟨requested', asked', follows'⟩ := answered.pages
        cases requested.symm.trans requested'
        cases asked.symm.trans asked'
        exact follows.mem_of_mem follows' answered.ends given
      rw [table] at reads unreadable
      have readable := ((List.forall₂_and_left _ _).1
        (reads.imp fun _ _ read => ⟨read.readable, read⟩)).1
      exact absurd unreadable (readable reference (List.mem_flatMap.2 ⟨page, reached, holds⟩))

/-- A browse answers with all references of all pages, in order, or it fails.  A bad status, a page
too many and a reference that cannot be read make it fail; it asks for no more pages than it may
read; and how the references are cut into pages makes no difference. -/
theorem browse_pages (browser : Browser σ) (bound : 1 ≤ browser.maxPages) (start : NodeId)
    (context : BrowseContext) (server : σ) :
    (∀ found new, browser.browse start context server = .ok found new ↔
      ∃ front last, browser.Answered start context server front last new ∧
        List.Forall₂ (Reference.Reads browser.namespaces) (references (front ++ [last])) found) ∧
    (∀ front last new, browser.Pages start context server front last new →
      front.length < browser.maxPages → Acceptable front →
      (last.status.isBad → browser.browse start context server =
        .error (.status "Browse" (toString start) last.status) new) ∧
      (front.length + 1 = browser.maxPages → last.status.isBad = false → last.next.isSome →
        browser.browse start context server =
          .error (SchemaError.tooManyPages (toString start) browser.maxPages) new)) ∧
    (∀ uris, browser.namespaces = .ofList uris → ∀ front last new,
      browser.Pages start context server front last new →
      ∀ reference ∈ references (front ++ [last]), reference.Unreadable browser.namespaces →
      ∃ cause new', browser.browse start context server = .error cause new') ∧
    (∃ made : List Request, made.countP Request.isBrowseNext ≤ browser.maxPages - 1 ∧
      (browser.recorded.browse start context).result { server } =
        (((browser.browse start context).result server).1,
          ⟨((browser.browse start context).result server).2, made⟩)) ∧
    (∀ (τ : Type) (other : Browser τ) (server' : τ), other.namespaces = browser.namespaces →
      ∀ front last new front' last' new',
      browser.Answered start context server front last new →
      other.Answered start context server' front' last' new' →
      references (front ++ [last]) = references (front' ++ [last']) →
      ((browser.browse start context).result server).1 =
        ((other.browse start context).result server').1) := by
  refine ⟨fun found new => browse_eq_ok_iff bound, ?_, ?_, ?_, ?_⟩
  · intro front last new pages room good
    obtain ⟨left, room⟩ := Nat.exists_eq_add_of_le (Nat.le_sub_one_of_lt room)
    have browses := pages.browse good room.symm
    refine ⟨fun bad => ?_, fun full fine goesOn => ?_⟩
    · rw [browses, bind_error (collectPages_bad bad left new)]
    · obtain rfl : left = 0 := by omega
      rw [browses, bind_error (collectPages_full fine goesOn new)]
  · intro uris table front last new pages reference listed unreadable
    exact pages.fails_of_unreadable bound table listed unreadable
  · exact makes_browse start context { server }
  · intro τ other server' same front last new front' last' new' answered answered' equal
    have reads : browser.neighbour = other.neighbour := by
      unfold neighbour
      rw [same]
    unfold result
    rw [answered.browse, answered'.browse, equal, reads]
    cases (references (front' ++ [last'])).mapM other.neighbour <;> rfl

end Browser

/-! ### An answer in two pages -/

def frontPage : Page :=
  { references := [{ node := .standard 101, nodeClass := 1 }], next := some ⟨"more"⟩ }

def backPage : Page := { references := [{ node := .standard 102, nodeClass := 2 }] }

def twoPages : Transport Unit where
  isConnected _ := true
  endpoints _ := pure []
  connect _ _ := pure ()
  disconnect := pure ()
  browse _ := pure frontPage
  browseNext _ := pure backPage
  read _ := pure {}
  translate _ := pure {}
  subscribe _ _ := pure 0
  unsubscribe _ := pure ()

def pager (maxPages : Nat) : Browser Unit :=
  ⟨twoPages, .ofList [Standard.namespaceUri], maxPages⟩

def shown (identifier : String) (nodeClass : NodeClass) : Neighbour :=
  ⟨⟨Standard.namespaceUri, identifier⟩, nodeClass, .null, .null, ⟨Standard.namespaceUri, ""⟩⟩

theorem browse_pages_two :
    (pager 2).browse (Standard.node 100) {} () =
      .ok [shown "i=101" .object, shown "i=102" .var] () ∧
    (pager 1).browse (Standard.node 100) {} () =
      .error (SchemaError.tooManyPages (toString (Standard.node 100)) 1) () := by
  have requested (maxPages : Nat) : (pager maxPages).request (Standard.node 100) {} =
      .ok ⟨.standard 100, .forward, .standard Standard.hierarchicalReferences, true, .all, .all⟩ := by
    unfold Browser.request
    simp only [NamespaceTable.encode_standard, bind, Except.bind]
  have pages : (pager 2).Pages (Standard.node 100) {} () [frontPage] backPage () :=
    ⟨requested 2, rfl, .next rfl rfl (.here _ _)⟩
  have good : Acceptable [frontPage, backPage] := by
    simp only [Acceptable, List.forall_mem_cons]
    exact ⟨rfl, rfl, List.forall_mem_nil _⟩
  have object : Reference.Reads (pager 2).namespaces { node := .standard 101, nodeClass := 1 }
      (shown "i=101" .object) := ⟨rfl, rfl, rfl, rfl, rfl⟩
  have variableNode : Reference.Reads (pager 2).namespaces { node := .standard 102, nodeClass := 2 }
      (shown "i=102" .var) := ⟨rfl, rfl, rfl, rfl, rfl⟩
  constructor
  · obtain ⟨complete, -⟩ := (pager 2).browse_pages (by decide) (Standard.node 100) {} ()
    exact (complete _ _).2 ⟨_, _, ⟨pages, by decide, good, rfl⟩,
      .cons object (.cons variableNode .nil)⟩
  · obtain ⟨-, stops, -⟩ := (pager 1).browse_pages (by decide) (Standard.node 100) {} ()
    exact (stops [] frontPage () ⟨requested 1, rfl, .here _ _⟩ (by decide)
      (List.forall_mem_nil _)).2 rfl rfl rfl

end AddressSpace
