import AddressSpace.Path
import AddressSpace.Proofs.NamespaceTable
import AddressSpace.Proofs.Pages
import Mathlib.Data.List.Chain
import Mathlib.Data.List.Forall2

namespace AddressSpace
open Exchange

variable {σ : Type}

def PathRequest.hop (start : WireId) (name : WireName) : PathRequest where
  start
  elements := [{
    referenceType := .standard Standard.hierarchicalReferences
    isInverse := false
    includeSubtypes := true
    targetName := name }]

structure Hop where
  start : WireId
  name : WireName
  target : WireId
  others : List WireId

def Hop.request (hop : Hop) : PathRequest := .hop hop.start hop.name

def PathAnswer.Names (answer : PathAnswer) (targets : List WireId) : Prop :=
  answer.status.isBad = false ∧
    ∃ status : Status, status.isBad = false ∧ answer.results = [⟨status, targets⟩]

/-- A server that is asked for some hops, one after the other, answers each with its targets. -/
inductive Transport.Guides (transport : Transport σ) : σ → List Hop → σ → Prop
  | here (server : σ) : Guides transport server [] server
  | hop {server between new : σ} {hop : Hop} {rest : List Hop} {answer : PathAnswer}
      (answers : transport.translate hop.request server = .ok answer between)
      (names : answer.Names (hop.target :: hop.others)) (goesOn : Guides transport between rest new) :
      Guides transport server (hop :: rest) new

inductive PathAnswer.Refuses (start : NodeId) (name : QualifiedName) : PathAnswer → Error → Prop
  | badCall {answer : PathAnswer} (bad : answer.status.isBad) :
      Refuses start name answer (.status "TranslateBrowsePath" (toString start) answer.status)
  | badCount {answer : PathAnswer} (good : answer.status.isBad = false)
      (count : answer.results.length ≠ 1) :
      Refuses start name answer
        (SchemaError.unexpectedResultCount "TranslateBrowsePath" 1 answer.results.length)
  | noMatch {answer : PathAnswer} {result : PathTargets} (good : answer.status.isBad = false)
      (single : answer.results = [result]) (none : result.status = Status.badNoMatch) :
      Refuses start name answer (NotFoundError.noTarget (toString start) (toString name))
  | badPath {answer : PathAnswer} {result : PathTargets} (good : answer.status.isBad = false)
      (single : answer.results = [result]) (some : result.status ≠ Status.badNoMatch)
      (bad : result.status.isBad) :
      Refuses start name answer (.status "TranslateBrowsePath" (toString start) result.status)
  | noTarget {answer : PathAnswer} {result : PathTargets} (good : answer.status.isBad = false)
      (single : answer.results = [result]) (good' : result.status.isBad = false)
      (none : result.targets = []) :
      Refuses start name answer (NotFoundError.noTarget (toString start) (toString name))

namespace Browser

inductive Unaskable (browser : Browser σ) (start : NodeId) (name : QualifiedName) : Error → Prop
  | nullStart (null : start.isNull) : Unaskable browser start name (SchemaError.nullArgument "start")
  | nullName (whole : start.isNull = false) (null : name.isNull) :
      Unaskable browser start name (SchemaError.nullArgument "browse_name")
  | unknownStart {cause : Error} (whole : start.isNull = false) (whole' : name.isNull = false)
      (unknown : browser.namespaces.encode start = .error cause) :
      Unaskable browser start name cause
  | unknownName {wire : WireId} {cause : Error} (whole : start.isNull = false)
      (whole' : name.isNull = false) (known : browser.namespaces.encode start = .ok wire)
      (unknown : browser.namespaces.encodeName name = .error cause) :
      Unaskable browser start name cause

structure Asks (browser : Browser σ) (start : NodeId) (name : QualifiedName) (wire : WireId)
    (wireName : WireName) : Prop where
  whole : start.isNull = false
  whole' : name.isNull = false
  start : browser.namespaces.encode start = .ok wire
  name : browser.namespaces.encodeName name = .ok wireName

inductive Stops (browser : Browser σ) (start : NodeId) (name : QualifiedName) (server : σ) :
    List PathRequest → Error → σ → Prop
  | unaskable {cause : Error} (bad : browser.Unaskable start name cause) :
      Stops browser start name server [] cause server
  | unanswered {wire wireName cause new} (asks : browser.Asks start name wire wireName)
      (fails : browser.transport.translate (.hop wire wireName) server = .error cause new) :
      Stops browser start name server [.hop wire wireName] cause new
  | refused {wire wireName answer cause new} (asks : browser.Asks start name wire wireName)
      (answers : browser.transport.translate (.hop wire wireName) server = .ok answer new)
      (refuses : answer.Refuses start name cause) :
      Stops browser start name server [.hop wire wireName] cause new
  | unknownTarget {wire wireName answer target others cause new}
      (asks : browser.Asks start name wire wireName)
      (answers : browser.transport.translate (.hop wire wireName) server = .ok answer new)
      (names : answer.Names (target :: others))
      (unknown : browser.namespaces.decode target = .error cause) :
      Stops browser start name server [.hop wire wireName] cause new

variable {browser : Browser σ} {start : NodeId} {name : QualifiedName}

theorem pathRequest_cases (browser : Browser σ) (start : NodeId) (name : QualifiedName) :
    (∃ wire wireName, browser.Asks start name wire wireName ∧
      browser.pathRequest start name = .ok (.hop wire wireName)) ∨
    ∃ cause, browser.Unaskable start name cause ∧ browser.pathRequest start name = .error cause := by
  unfold pathRequest
  cases whole : start.isNull with
  | true => exact .inr ⟨_, .nullStart whole, rfl⟩
  | false =>
      cases whole' : name.isNull with
      | true => exact .inr ⟨_, .nullName whole whole', rfl⟩
      | false =>
          rw [if_neg Bool.false_ne_true, if_neg Bool.false_ne_true]
          cases known : browser.namespaces.encode start with
          | error cause => exact .inr ⟨cause, .unknownStart whole whole' known, rfl⟩
          | ok wire =>
              cases known' : browser.namespaces.encodeName name with
              | error cause => exact .inr ⟨cause, .unknownName whole whole' known known', rfl⟩
              | ok wireName => exact .inl ⟨wire, wireName, ⟨whole, whole', known, known'⟩, rfl⟩

theorem firstTarget_cases (start : NodeId) (name : QualifiedName) (answer : PathAnswer) :
    (∃ target others, answer.Names (target :: others) ∧
      firstTarget start name answer = .ok target) ∨
    ∃ cause, answer.Refuses start name cause ∧ firstTarget start name answer = .error cause := by
  unfold firstTarget
  cases call : answer.status.isBad with
  | true => exact .inr ⟨_, .badCall call, rfl⟩
  | false =>
      rw [if_neg Bool.false_ne_true]
      split
      case h_1 result single =>
        by_cases none : result.status = Status.badNoMatch
        · rw [if_pos none]
          exact .inr ⟨_, .noMatch call single none, rfl⟩
        · rw [if_neg none]
          cases path : result.status.isBad with
          | true => exact .inr ⟨_, .badPath call single none path, rfl⟩
          | false =>
              rw [if_neg Bool.false_ne_true]
              split
              case h_1 empty => exact .inr ⟨_, .noTarget call single path empty, rfl⟩
              case h_2 target others named =>
                refine .inl ⟨target, others, ⟨call, result.status, path, ?_⟩, rfl⟩
                rw [single, ← named]
      case h_2 several =>
        refine .inr ⟨_, .badCount call fun single => ?_, rfl⟩
        obtain ⟨result, single⟩ := List.length_eq_one_iff.1 single
        exact several result single

/-- The hops that lead from a node along some names to a node. -/
structure Trail (browser : Browser σ) (start : NodeId) (names : List QualifiedName) (server : σ)
    (hops : List Hop) (reached : NodeId) (new : σ) : Prop where
  guides : browser.transport.Guides server hops new
  names : List.Forall₂ (fun name hop =>
    name.isNull = false ∧ browser.namespaces.encodeName name = .ok hop.name) names hops
  first : ∀ hop ∈ hops.head?, start.isNull = false ∧ browser.namespaces.encode start = .ok hop.start
  linked : hops.IsChain fun hop next => hop.target.isNull = false ∧ next.start = hop.target
  last : ∀ hop ∈ hops.getLast?, browser.namespaces.decode hop.target = .ok reached
  unmoved : hops = [] → reached = start

theorem trail_nil (browser : Browser σ) (start : NodeId) (server : σ) :
    browser.Trail start [] server [] start server where
  guides := .here server
  names := .nil
  first _ listed := nomatch listed
  linked := .nil
  last _ listed := nomatch listed
  unmoved _ := rfl

theorem Trail.cons {uris : List String} (lists : browser.namespaces.Lists uris)
    (regular : browser.namespaces.Regular) {names : List QualifiedName} {server between new : σ}
    {hop : Hop} {hops : List Hop} {answer : PathAnswer} {next reached : NodeId}
    (asks : browser.Asks start name hop.start hop.name)
    (answers : browser.transport.translate hop.request server = .ok answer between)
    (named : answer.Names (hop.target :: hop.others))
    (known : browser.namespaces.decode hop.target = .ok next)
    (trail : browser.Trail next names between hops reached new) :
    browser.Trail start (name :: names) server (hop :: hops) reached new where
  guides := .hop answers named trail.guides
  names := .cons ⟨asks.whole', asks.name⟩ trail.names
  first := by
    rintro _ ⟨⟩
    exact ⟨asks.whole, asks.start⟩
  linked := by
    refine List.isChain_cons.2 ⟨fun hop' listed => ?_, trail.linked⟩
    -- The next hop starts at the node that the target stands for, whose id is that of the target.
    obtain ⟨whole, encoded⟩ := trail.first hop' listed
    have again := NamespaceTable.encode_of_decode lists regular known
    rw [encoded] at again
    exact ⟨NamespaceTable.proper_of_decode known whole, Except.ok.inj again⟩
  last := by
    intro final listed
    cases hops with
    | nil =>
        cases listed
        rw [trail.unmoved rfl]
        exact known
    | cons hop' hops => exact trail.last final listed
  unmoved := nofun

theorem resolve_recorded (browser : Browser σ) (start : NodeId) (name : QualifiedName) (server : σ)
    (requests : List Request) :
    (∃ (hop : Hop) (answer : PathAnswer) (next : NodeId) (between : σ),
      browser.Asks start name hop.start hop.name ∧
      browser.transport.translate hop.request server = .ok answer between ∧
      answer.Names (hop.target :: hop.others) ∧ browser.namespaces.decode hop.target = .ok next ∧
      browser.recorded.resolve start name ⟨server, requests⟩ =
        .ok next ⟨between, requests ++ [.translate hop.request]⟩) ∨
    ∃ asked cause new, browser.Stops start name server asked cause new ∧
      browser.recorded.resolve start name ⟨server, requests⟩ =
        .error cause ⟨new, requests ++ asked.map .translate⟩ := by
  unfold resolve
  rcases browser.pathRequest_cases start name with
    ⟨wire, wireName, asks, request⟩ | ⟨cause, unaskable, request⟩
  · have asked : browser.recorded.pathRequest start name = .ok (.hop wire wireName) := request
    rw [asked, bind_ok (ofExcept_ok _ _)]
    cases translated : browser.transport.translate (.hop wire wireName) server with
    | error cause new =>
        have noted : browser.recorded.transport.translate (.hop wire wireName) ⟨server, requests⟩ =
            .error cause ⟨new, requests ++ [.translate (.hop wire wireName)]⟩ :=
          within_error translated
        rw [bind_error noted]
        exact .inr ⟨_, cause, new, .unanswered asks translated, rfl⟩
    | ok answer between =>
        have noted : browser.recorded.transport.translate (.hop wire wireName) ⟨server, requests⟩ =
            .ok answer ⟨between, requests ++ [.translate (.hop wire wireName)]⟩ :=
          within_ok translated
        rw [bind_ok noted]
        rcases firstTarget_cases start name answer with
          ⟨target, others, names, first⟩ | ⟨cause, refuses, first⟩
        · rw [first, bind_ok (ofExcept_ok _ _)]
          cases decoded : browser.namespaces.decode target with
          | ok next =>
              have known : browser.recorded.namespaces.decode target = .ok next := decoded
              rw [known]
              exact .inl ⟨⟨wire, wireName, target, others⟩, answer, next, between, asks, translated,
                names, decoded, rfl⟩
          | error cause =>
              have unknown : browser.recorded.namespaces.decode target = .error cause := decoded
              rw [unknown]
              exact .inr ⟨_, cause, between, .unknownTarget asks translated names decoded, rfl⟩
        · rw [first]
          exact .inr ⟨_, cause, between, .refused asks translated refuses, rfl⟩
  · have asked : browser.recorded.pathRequest start name = .error cause := request
    refine .inr ⟨[], cause, server, .unaskable unaskable, ?_⟩
    rw [asked, List.map_nil, List.append_nil]
    rfl

inductive Follows (browser : Browser σ) (start : NodeId) (names : List QualifiedName) (server : σ)
    (requests : List Request) : Except Error NodeId → Recorded σ → Prop
  | reached {hops : List Hop} {reached : NodeId} {new : σ}
      (trail : browser.Trail start names server hops reached new) :
      Follows browser start names server requests (.ok reached)
        ⟨new, requests ++ hops.map fun hop => .translate hop.request⟩
  | stopped {front back : List QualifiedName} {name : QualifiedName} {hops : List Hop}
      {reached : NodeId} {between new : σ} {asked : List PathRequest} {cause : Error}
      (split : names = front ++ name :: back)
      (trail : browser.Trail start front server hops reached between)
      (stops : browser.Stops reached name between asked cause new) :
      Follows browser start names server requests (.error cause)
        ⟨new, requests ++ (hops.map fun hop => .translate hop.request) ++ asked.map .translate⟩

theorem Follows.cons {uris : List String} (lists : browser.namespaces.Lists uris)
    (regular : browser.namespaces.Regular) {names : List QualifiedName} {server between : σ}
    {hop : Hop} {answer : PathAnswer} {next : NodeId} {requests : List Request}
    {ends : Except Error NodeId} {new : Recorded σ}
    (asks : browser.Asks start name hop.start hop.name)
    (answers : browser.transport.translate hop.request server = .ok answer between)
    (named : answer.Names (hop.target :: hop.others))
    (known : browser.namespaces.decode hop.target = .ok next)
    (follows : browser.Follows next names between (requests ++ [.translate hop.request]) ends new) :
    browser.Follows start (name :: names) server requests ends new := by
  cases follows with
  | reached trail =>
      rw [List.append_assoc]
      exact .reached (trail.cons lists regular asks answers named known)
  | @stopped front back name' hops reached _ _ asked cause split trail stops =>
      subst split
      rw [List.append_assoc requests]
      show browser.Follows start (name :: front ++ name' :: back) server requests (.error cause)
        ⟨_, requests ++ ((hop :: hops).map fun hop => .translate hop.request) ++ _⟩
      exact .stopped rfl (trail.cons lists regular asks answers named known) stops

theorem resolveAll_follows {uris : List String} (lists : browser.namespaces.Lists uris)
    (regular : browser.namespaces.Regular) (start : NodeId) (names : List QualifiedName)
    (server : σ) (requests : List Request) :
    let outcome := (browser.recorded.resolveAll start names).result ⟨server, requests⟩
    browser.Follows start names server requests outcome.1 outcome.2 := by
  -- The rest of the path starts from the node, the server and the record that the first hop leaves.
  induction names generalizing start server requests with
  | nil =>
      have here : browser.Follows start [] server requests (.ok start) ⟨server, requests ++ []⟩ :=
        .reached (browser.trail_nil start server)
      rwa [List.append_nil] at here
  | cons name names ih =>
      unfold resolveAll at ih ⊢
      rw [List.foldlM_cons]
      rcases browser.resolve_recorded start name server requests with
        ⟨hop, answer, next, between, asks, answers, named, known, resolves⟩ |
        ⟨asked, cause, new, stops, resolves⟩
      · rw [result_bind_ok (result_eq_ok.2 resolves)]
        exact (ih next between _).cons lists regular asks answers named known
      · rw [result_bind_error (result_eq_error.2 resolves)]
        have stopped : browser.Follows start (name :: names) server requests (.error cause)
            ⟨new, requests ++ [] ++ asked.map .translate⟩ :=
          .stopped rfl (browser.trail_nil start server) stops
        rwa [List.append_nil] at stopped

theorem makes_resolve (browser : Browser σ) (start : NodeId) (name : QualifiedName) :
    Makes (fun _ => false) 0 (browser.resolve start name)
      (browser.recorded.resolve start name) := by
  unfold resolve
  have asks (request : PathRequest) : Makes (fun _ => false) 0
      (browser.transport.translate request) (browser.recorded.transport.translate request) :=
    makes_ask (.translate request) _
  exact (makes_ofExcept _).bind fun request => (asks request).bind fun _ =>
    (makes_ofExcept _).bind fun _ => makes_ofExcept _

theorem makes_resolveAll (browser : Browser σ) (start : NodeId) (names : List QualifiedName) :
    Makes (fun _ => false) 0 (browser.resolveAll start names)
      (browser.recorded.resolveAll start names) := by
  unfold resolveAll
  induction names generalizing start with
  | nil => exact makes_ofExcept (.ok start)
  | cons name names ih =>
      rw [List.foldlM_cons, List.foldlM_cons]
      exact (browser.makes_resolve start name).bind ih

theorem resolve_noTarget_iff {wire : WireId} {wireName : WireName} {server new : σ}
    {answer : PathAnswer} {result : PathTargets} (asks : browser.Asks start name wire wireName)
    (answers : browser.transport.translate (.hop wire wireName) server = .ok answer new)
    (good : answer.status.isBad = false) (single : answer.results = [result]) :
    (∃ node path,
      ((browser.resolve start name).result server).1 = .error (NotFoundError.noTarget node path)) ↔
      result.status = Status.badNoMatch ∨ result.status.isBad = false ∧ result.targets = [] := by
  have request : browser.pathRequest start name = .ok (.hop wire wireName) := by
    simp only [pathRequest, asks.whole, asks.whole', asks.start, asks.name]
    rfl
  have outcome : ((browser.resolve start name).result server).1 =
      firstTarget start name answer >>= browser.namespaces.decode := by
    unfold resolve Exchange.result
    rw [request, bind_ok (ofExcept_ok _ _), bind_ok answers]
    cases firstTarget start name answer with
    | error cause => rfl
    | ok target =>
        rw [bind_ok (ofExcept_ok _ _)]
        show _ = browser.namespaces.decode target
        cases browser.namespaces.decode target <;> rfl
  rw [outcome, firstTarget, good, single, if_neg Bool.false_ne_true]
  by_cases none : result.status = Status.badNoMatch
  · simp only [none, true_or, iff_true]
    exact ⟨_, _, rfl⟩
  · simp only [none, false_or]
    cases path : result.status.isBad with
    | true => simp [bind, Except.bind]
    | false =>
        cases targets : result.targets with
        | nil => simp [bind, Except.bind]
        | cons target others =>
            simp only [Bool.false_eq_true, if_false, true_and, reduceCtorEq, iff_false]
            rintro ⟨node, name, unknown⟩
            exact NamespaceTable.decode_ne_notFound unknown

/-- A path of names is followed hop by hop, with one request for each hop: where it starts is the
first target of the answer before, and the last one has the node that is found.  At the first hop
that stops the path ends with its error, and with no request after its own. -/
theorem resolveAll_hops {uris : List String} (table : browser.namespaces = .ofList uris)
    (regular : browser.namespaces.Regular) (start : NodeId) (names : List QualifiedName)
    (server : σ) (requests : List Request) :
    let outcome := (browser.recorded.resolveAll start names).result ⟨server, requests⟩
    (browser.Follows start names server requests outcome.1 outcome.2 ∧
      (browser.resolveAll start names).result server = (outcome.1, outcome.2.server)) ∧
    (∀ start name wire wireName server new answer result, browser.Asks start name wire wireName →
      browser.transport.translate (.hop wire wireName) server = .ok answer new →
      answer.status.isBad = false → answer.results = [result] →
      ((∃ node path, ((browser.resolve start name).result server).1 =
          .error (NotFoundError.noTarget node path)) ↔
        result.status = Status.badNoMatch ∨ result.status.isBad = false ∧ result.targets = [])) ∧
    ∀ front back, browser.resolveAll start (front ++ back) = (do
      let between ← browser.resolveAll start front
      browser.resolveAll between back) := by
  have lists : browser.namespaces.Lists (uris.take NamespaceTable.capacity) := by
    rw [table]
    exact NamespaceTable.lists_ofList uris
  refine ⟨⟨resolveAll_follows lists regular start names server requests,
    (browser.makes_resolveAll start names).result_eq ⟨server, requests⟩⟩, ?_, ?_⟩
  · intro start name wire wireName server new answer result asks answers good single
    exact resolve_noTarget_iff asks answers good single
  · intro front back
    exact List.foldlM_append

end Browser

def plateTransport : Transport Unit where
  isConnected _ := true
  endpoints _ := pure []
  connect _ _ := pure ()
  disconnect := pure ()
  browse _ := pure {}
  browseNext _ := pure {}
  read _ := pure {}
  translate request := pure { results := [
    if request = .hop ⟨1, .number 1⟩ ⟨1, "Identification"⟩ then
      { targets := [⟨1, .number 7⟩, ⟨1, .number 8⟩] }
    else if request = .hop ⟨1, .number 7⟩ ⟨1, "SerialNumber"⟩ then
      { targets := [⟨1, .text "4711"⟩] }
    else { status := .badNoMatch }] }
  subscribe _ _ := pure 0
  unsubscribe _ := pure ()

def plateBrowser : Browser Unit := ⟨plateTransport, .ofList ["ns0", "urn:m"], 1⟩

theorem resolveAll_plate :
    ((plateBrowser.resolveAll ⟨"urn:m", "i=1"⟩
      [⟨"urn:m", "Identification"⟩, ⟨"urn:m", "SerialNumber"⟩]).result ()).1 =
        .ok ⟨"urn:m", "s=4711"⟩ ∧
    plateBrowser.Follows ⟨"urn:m", "i=1"⟩ [⟨"urn:m", "Identification"⟩, ⟨"urn:m", "SerialNumber"⟩]
      () [] (.ok ⟨"urn:m", "s=4711"⟩) ⟨(), [.translate (.hop ⟨1, .number 1⟩ ⟨1, "Identification"⟩),
        .translate (.hop ⟨1, .number 7⟩ ⟨1, "SerialNumber"⟩)]⟩ := by
  have regular : plateBrowser.namespaces.Regular :=
    NamespaceTable.regular_ofList (by decide +kernel)
  obtain ⟨⟨follows, ends⟩, -⟩ := @Browser.resolveAll_hops Unit plateBrowser _ rfl regular
    ⟨"urn:m", "i=1"⟩ [⟨"urn:m", "Identification"⟩, ⟨"urn:m", "SerialNumber"⟩] () []
  have outcome : (plateBrowser.recorded.resolveAll ⟨"urn:m", "i=1"⟩
      [⟨"urn:m", "Identification"⟩, ⟨"urn:m", "SerialNumber"⟩]).result ⟨(), []⟩ =
        (.ok ⟨"urn:m", "s=4711"⟩, ⟨(), [.translate (.hop ⟨1, .number 1⟩ ⟨1, "Identification"⟩),
          .translate (.hop ⟨1, .number 7⟩ ⟨1, "SerialNumber"⟩)]⟩) := by
    with_unfolding_all rfl
  rw [outcome] at follows ends
  exact ⟨congrArg Prod.fst ends, follows⟩

end AddressSpace
