import AddressSpace.Proofs.Ascent
import AddressSpace.Proofs.NamespaceTable.Canonical
import AddressSpace.Proofs.Pages

/-!
# Instances of a type

`browseInstances` asks about the type of each neighbour in turn and remembers what it learns on the
way.  On a server that stays the same this comes to a filter of a single browse:
`browseInstances_static` says which neighbours are left and when there is an answer at all.
-/

namespace AddressSpace
open Exchange

/-! ## Types within reach -/

section Reach

variable {super : NodeId → Except Error (Option NodeId)} {depth : Nat} {type top : NodeId}

def Reaches (super : NodeId → Except Error (Option NodeId)) (depth : Nat) (type top : NodeId) :
    Prop :=
  ∃ n ≤ depth, Ascends super n type top

theorem toOption_climb :
    (climb super top depth type).toOption = some true ↔ Reaches super depth type top := by
  unfold Reaches
  rw [← climb_eq_true]
  cases climb super top depth type with
  | ok verdict => simp [Except.toOption]
  | error cause => simp [Except.toOption]

instance : Decidable (Reaches super depth type top) := decidable_of_iff _ toOption_climb

end Reach

/-! ## Asking about the members of a list -/

section Select

variable {α : Type} {verdict : α → Except Error Bool} {as kept : List α}

def select (verdict : α → Except Error Bool) : List α → Except Error (List α)
  | [] => .ok []
  | a :: rest => do
    let keep ← verdict a
    let kept ← select verdict rest
    .ok (if keep then a :: kept else kept)

theorem select_eq_ok_iff : select verdict as = .ok kept ↔
    (∀ a ∈ as, ∃ keep, verdict a = .ok keep) ∧
      kept = as.filter fun a => (verdict a).toOption = some true := by
  induction as generalizing kept with
  | nil => simp [select, eq_comm]
  | cons a rest ih =>
      cases told : verdict a with
      | error cause =>
          simp [select, told, bind, Except.bind]
      | ok keep =>
          cases others : select verdict rest with
          | error cause =>
              constructor
              · intro selected
                simp [select, told, others, bind, Except.bind] at selected
              · rintro ⟨answered, -⟩
                have := ih.2 ⟨fun b listed => answered b (by simp [listed]), rfl⟩
                rw [others] at this
                cases this
          | ok kept' =>
              obtain ⟨answered, same⟩ := ih.1 others
              have selected : select verdict (a :: rest) =
                  .ok (if keep then a :: kept' else kept') := by
                simp [select, told, others, bind, Except.bind]
              have filtered : (a :: rest).filter (fun a => (verdict a).toOption = some true) =
                  if keep then a :: kept' else kept' := by
                cases keep <;> simp [told, Except.toOption, same]
              have answered' : ∀ b ∈ a :: rest, ∃ keep, verdict b = .ok keep :=
                List.forall_mem_cons.2 ⟨⟨keep, told⟩, answered⟩
              rw [selected, filtered, Except.ok.injEq, eq_comm, and_iff_right answered']

end Select

theorem Value.wordOfInt?_eq_some_iff {n : Int} {word : UInt32} :
    Value.wordOfInt? n = some word ↔ n = word.toNat := by
  unfold Value.wordOfInt?
  split
  case isTrue fits =>
      rw [Option.some.injEq, ← UInt32.toNat_inj, UInt32.toNat_ofNat_of_lt' fits.2]
      omega
  case isFalse unfit =>
      have := word.toNat_lt_size
      refine iff_of_false (by simp) fun same => unfit ?_
      omega

theorem ReadAnswer.single_eq_ok_iff {node : String} {answer : ReadAnswer} {value : Value} :
    answer.single node = .ok value ↔ answer.status.isBad = false ∧
      ∃ data, answer.values = [data] ∧ data.status.isBad = false ∧ data.value = value := by
  unfold ReadAnswer.single
  cases answer.status.isBad with
  | true => simp
  | false =>
      rcases answer.values with _ | ⟨data, _ | ⟨second, rest⟩⟩
      · simp
      · cases good : data.status.isBad <;> simp [good]
      · simp

namespace Browser

variable {σ : Type} {browser : Browser σ} {steady : σ → Prop}

theorem result_filterSurvey {α : Type} {P : Surveyed σ → Prop} {ask : α → Survey σ Bool}
    {verdict : α → Except Error Bool} (as : List α)
    (answers : ∀ a ∈ as, ∀ survey, P survey →
      ∃ new, P new ∧ (ask a).result survey = (verdict a, new))
    {survey : Surveyed σ} (kept : P survey) :
    ∃ new, P new ∧ (filterSurvey ask as).result survey = (select verdict as, new) := by
  induction as generalizing survey with
  | nil => exact ⟨survey, kept, rfl⟩
  | cons a rest ih =>
      obtain ⟨between, kept', asked⟩ := answers a (by simp) survey kept
      unfold filterSurvey select
      cases told : verdict a with
      | error cause =>
          rw [told] at asked
          exact ⟨between, kept', result_bind_error asked _⟩
      | ok keep =>
          rw [told] at asked
          obtain ⟨new, kept'', others⟩ := ih (fun b listed => answers b (by simp [listed])) kept'
          refine ⟨new, kept'', ?_⟩
          rw [result_bind_ok asked]
          cases ends : select verdict rest with
          | error cause =>
              rw [ends] at others
              rw [result_bind_error others]
              rfl
          | ok kept =>
              rw [ends] at others
              rw [result_bind_ok others]
              rfl

/-! ## A server that stays the same -/

/-- The server answers a read of the class of `type` with one number of good quality, the one that
`typeClass` has. -/
def TellsClass (browser : Browser σ) (type : NodeId) (typeClass : NodeClass) (server new : σ) :
    Prop :=
  ∃ node answer data n, browser.namespaces.encode type = .ok node ∧
    browser.transport.read [{ node, attr := .nodeClass }] server = .ok answer new ∧
    answer.status.isBad = false ∧ answer.values = [data] ∧ data.status.isBad = false ∧
    data.value = .int32 n ∧ n.toInt = typeClass.value.toNat

/-- While it is `steady`, the server gives the same answer to a browse and tells the same class of
`type` whenever it is asked. -/
structure Static (browser : Browser σ) (steady : σ → Prop)
    (found : NodeId → BrowseContext → Except Error (List Neighbour)) (type : NodeId)
    (typeClass : NodeClass) : Prop where
  browse : ∀ start context server, steady server → ∃ new, steady new ∧
    (browser.browse start context).result server = (found start context, new)
  nodeClass : ∀ server, steady server → ∃ new, steady new ∧
    browser.TellsClass type typeClass server new

variable {found : NodeId → BrowseContext → Except Error (List Neighbour)} {type : NodeId}
  {typeClass : NodeClass} (static : browser.Static steady found type typeClass)

abbrev above (found : NodeId → BrowseContext → Except Error (List Neighbour)) (type : NodeId) :
    Except Error (List Neighbour) :=
  found type superTypeContext

abbrev superTypeOf (found : NodeId → BrowseContext → Except Error (List Neighbour)) :
    NodeId → Except Error (Option NodeId) :=
  superOf (above found)

include static in
theorem Static.tellsAbove : browser.TellsAbove steady (above found) :=
  fun type server kept => static.browse type superTypeContext server kept

/-! ### Types in canonical form -/

variable {uris : List String} {server new : σ} {start top : NodeId} {context : BrowseContext}

theorem canonical_of_neighbour (lists : browser.namespaces.Lists uris)
    (regular : browser.namespaces.Regular) {reference : Reference} {neighbour : Neighbour}
    (read : browser.neighbour reference = .ok neighbour)
    (whole : neighbour.typeDefinition.isNull = false) :
    browser.namespaces.canonical neighbour.typeDefinition = .ok neighbour.typeDefinition := by
  have decoded := (neighbour_eq_ok_iff.1 read).typeDefinition
  have proper : reference.typeDefinition.isNull = false := by
    rw [← Bool.not_eq_true]
    intro null
    have nothing := (if_pos null).symm.trans decoded
    rw [← Except.ok.inj nothing] at whole
    cases whole
  unfold NamespaceTable.canonical
  rw [NamespaceTable.encode_decode lists regular proper decoded]
  exact decoded

theorem canonical_of_browse (lists : browser.namespaces.Lists uris)
    (regular : browser.namespaces.Regular) {all : List Neighbour}
    (browses : browser.browse start context server = .ok all new) :
    ∀ neighbour ∈ all, neighbour.typeDefinition.isNull = false →
      browser.namespaces.canonical neighbour.typeDefinition = .ok neighbour.typeDefinition := by
  obtain ⟨request, between, -, browses⟩ := bind_eq_ok browses
  obtain ⟨page, between, -, browses⟩ := bind_eq_ok browses
  obtain ⟨references, between, -, browses⟩ := bind_eq_ok browses
  have reads := (mapM_eq_ok_iff.1 (ofExcept_eq_ok browses).1).flip
  exact ((List.forall₂_and_left _ _).1
    (reads.imp fun _ _ read => ⟨canonical_of_neighbour lists regular read, read⟩)).1

/-! ### The class of a type -/

def classOfValue (node : String) : Value → Except Error NodeClass
  | .int32 n =>
    match (Value.wordOfInt? n.toInt).bind NodeClass.ofValue? with
    | some nodeClass => .ok nodeClass
    | none => .error (SchemaError.invalidNodeClass node (toString n.toInt))
  | value => .error (SchemaError.unexpectedValueType node "Int32" value.typeName)

theorem classOfValue_eq_ok_iff {node : String} {value : Value} :
    classOfValue node value = .ok typeClass ↔
      ∃ n, value = .int32 n ∧ n.toInt = typeClass.value.toNat := by
  cases value with
  | int32 n =>
      simp only [Value.int32.injEq, exists_eq_left']
      have classed : (Value.wordOfInt? n.toInt).bind NodeClass.ofValue? = some typeClass ↔
          n.toInt = typeClass.value.toNat := by
        simp only [Option.bind_eq_some_iff, NodeClass.ofValue?_eq_some_iff, exists_eq_right',
          Value.wordOfInt?_eq_some_iff]
      rw [← classed, classOfValue]
      cases (Value.wordOfInt? n.toInt).bind NodeClass.ofValue? <;> simp
  | _ => simp [classOfValue]

theorem readNodeClass_eq {type : NodeId} {node : WireId}
    (encoded : browser.namespaces.encode type = .ok node) :
    browser.readNodeClass type = (do
      let answer ← browser.transport.read [{ node, attr := .nodeClass }]
      Exchange.ofExcept (answer.single (toString type) >>= classOfValue (toString type))) := by
  unfold readNodeClass readAttribute
  rw [encoded]
  show ((browser.transport.read _ >>= _) >>= _ : Exchange σ NodeClass) = _
  rw [bind_assoc]
  apply bind_congr
  intro answer
  cases answer.single (toString type) with
  | error cause => rfl
  | ok value =>
      cases value with
      | int32 n =>
          show _ = Exchange.ofExcept (classOfValue (toString type) (.int32 n))
          simp only [Exchange.ofExcept, pure_bind, classOfValue]
          cases (Value.wordOfInt? n.toInt).bind NodeClass.ofValue? with
          | none => rfl
          | some nodeClass => rfl
      | _ => rfl

theorem readNodeClass_eq_ok_iff :
    browser.readNodeClass type server = .ok typeClass new ↔
      browser.TellsClass type typeClass server new := by
  constructor
  · intro reads
    obtain ⟨value, _, valued, -⟩ := bind_eq_ok reads
    obtain ⟨node, _, encodes, -⟩ := bind_eq_ok valued
    have encoded := (ofExcept_eq_ok encodes).1
    rw [readNodeClass_eq encoded] at reads
    obtain ⟨answer, _, asked, ends⟩ := bind_eq_ok reads
    obtain ⟨told, rfl⟩ := ofExcept_eq_ok ends
    obtain ⟨value, single, classed⟩ := bind_except_eq_ok told
    obtain ⟨whole, data, alone, good, rfl⟩ := ReadAnswer.single_eq_ok_iff.1 single
    obtain ⟨n, number, same⟩ := classOfValue_eq_ok_iff.1 classed
    exact ⟨node, answer, data, n, encoded, asked, whole, alone, good, number, same⟩
  · rintro ⟨node, answer, data, n, encoded, asked, whole, alone, good, number, same⟩
    have single : answer.single (toString type) = .ok data.value :=
      ReadAnswer.single_eq_ok_iff.2 ⟨whole, data, alone, good, rfl⟩
    have classed : classOfValue (toString type) data.value = .ok typeClass :=
      classOfValue_eq_ok_iff.2 ⟨n, number, same⟩
    rw [readNodeClass_eq encoded, bind_ok asked, single]
    show Exchange.ofExcept (classOfValue (toString type) data.value) new = _
    rw [classed]
    rfl

theorem recorded_readNodeClass {type : NodeId} {node : WireId}
    (encoded : browser.namespaces.encode type = .ok node) (recorded : Recorded σ) :
    (browser.recorded.readNodeClass type).result recorded =
      (((browser.readNodeClass type).result recorded.server).1,
        ⟨((browser.readNodeClass type).result recorded.server).2,
          recorded.requests ++ [.read [{ node, attr := .nodeClass }]]⟩) := by
  have encoded' : browser.recorded.namespaces.encode type = .ok node := encoded
  rw [readNodeClass_eq encoded, readNodeClass_eq encoded']
  exact result_ask_ofExcept (.read [{ node, attr := .nodeClass }]) _ _ recorded

/-! ### Verdicts about neighbours -/

def isInstance (super : NodeId → Except Error (Option NodeId)) (top : NodeId) (depth : Nat)
    (neighbour : Neighbour) : Except Error Bool :=
  if neighbour.typeDefinition.isNull then .ok false
  else climb super top depth neighbour.typeDefinition

theorem isInstance_eq_ok {super : NodeId → Except Error (Option NodeId)} {depth : Nat}
    {neighbour : Neighbour} : (∃ verdict, isInstance super top depth neighbour = .ok verdict) ↔
      (neighbour.typeDefinition.isNull = false → ∀ cause,
        ¬ FailsBelow super top depth neighbour.typeDefinition cause) := by
  unfold isInstance
  cases neighbour.typeDefinition.isNull with
  | true => simp
  | false =>
      simp only [← climb_eq_error]
      cases climb super top depth neighbour.typeDefinition <;> simp

theorem toOption_isInstance {super : NodeId → Except Error (Option NodeId)} {depth : Nat}
    {neighbour : Neighbour} : (isInstance super top depth neighbour).toOption = some true ↔
      neighbour.typeDefinition.isNull = false ∧
        Reaches super depth neighbour.typeDefinition top := by
  unfold isInstance
  rw [← toOption_climb]
  cases neighbour.typeDefinition.isNull with
  | true => simp [Except.toOption]
  | false => simp

include static in
theorem Static.result_isSameOrSubtype {depth : Nat} {neighbour : Neighbour}
    (canonical : browser.namespaces.canonical type = .ok top)
    (canonical' : neighbour.typeDefinition.isNull = false →
      browser.namespaces.canonical neighbour.typeDefinition = .ok neighbour.typeDefinition)
    {survey : Surveyed σ} (surveys : browser.Surveys steady survey) :
    ∃ new, browser.Surveys steady new ∧
      (browser.isSameOrSubtype depth type neighbour.typeDefinition).result survey =
        (isInstance (superTypeOf found) top depth neighbour, new) := by
  refine ⟨_, surveys.asked depth type neighbour.typeDefinition, Prod.ext ?_ rfl⟩
  unfold isInstance
  cases whole : neighbour.typeDefinition.isNull with
  | true =>
      rw [isSameOrSubtype, if_pos whole]
      rfl
  | false =>
      exact verdict_eq_climb static.tellsAbove surveys whole canonical (canonical' whole) depth

/-! ### Instances -/

include static in
theorem Static.result_onServer {α : Type} {question : Exchange σ α} {answer : Except Error α}
    (tells : ∀ server, steady server → ∃ new, steady new ∧
      question.result server = (answer, new)) {survey : Surveyed σ}
    (surveys : browser.Surveys steady survey) :
    ∃ new, browser.Surveys steady new ∧
      (Survey.onServer question).result survey = (answer, new) := by
  have kept := (surveys.remembers static.tellsAbove).1
  obtain ⟨server, kept', told⟩ := tells survey.server kept
  refine ⟨{ survey with server }, surveys.used kept', ?_⟩
  rw [Survey.onServer, result_within, told]

include static in
theorem Static.result_readNodeClass (server : σ) (kept : steady server) :
    ∃ new, steady new ∧ (browser.readNodeClass type).result server = (.ok typeClass, new) := by
  obtain ⟨new, kept', tells⟩ := static.nodeClass server kept
  exact ⟨new, kept', result_eq_ok.2 (readNodeClass_eq_ok_iff.2 tells)⟩

include static in
theorem Static.canonical_of_found (lists : browser.namespaces.Lists uris)
    (regular : browser.namespaces.Regular) {server : σ} (kept : steady server)
    {all : List Neighbour} (answer : found start context = .ok all) :
    ∀ neighbour ∈ all, neighbour.typeDefinition.isNull = false →
      browser.namespaces.canonical neighbour.typeDefinition = .ok neighbour.typeDefinition := by
  obtain ⟨new, -, browses⟩ := static.browse start context server kept
  rw [answer] at browses
  exact canonical_of_browse lists regular (result_eq_ok.1 browses)

include static in
theorem Static.result_browseInstances (start : NodeId) (context : BrowseContext) (depth : Nat)
    {nodeClass : NodeClass} (lists : browser.namespaces.Lists uris)
    (regular : browser.namespaces.Regular) (chosen : instanceClass? typeClass = some nodeClass)
    (canonical : browser.namespaces.canonical type = .ok top) {survey : Surveyed σ}
    (surveys : browser.Surveys steady survey) :
    ∃ new, browser.Surveys steady new ∧
      (browser.browseInstances depth start context type).result survey =
        (found start (instanceContext context nodeClass) >>=
          select (isInstance (superTypeOf found) top depth), new) := by
  obtain ⟨read, surveys', reads⟩ := static.result_onServer static.result_readNodeClass surveys
  obtain ⟨browsed, surveys'', browses⟩ :=
    static.result_onServer (static.browse start (instanceContext context nodeClass)) surveys'
  have afterRead : (browser.browseInstances depth start context type).result survey = (do
      let all ← Survey.onServer (browser.browse start (instanceContext context nodeClass))
      filterSurvey (fun neighbour => browser.isSameOrSubtype depth type neighbour.typeDefinition)
        all : Survey σ (List Neighbour)).result read := by
    rw [browseInstances, result_bind_ok reads, chosen]
  rw [afterRead]
  cases answer : found start (instanceContext context nodeClass) with
  | error cause =>
      rw [answer] at browses
      rw [result_bind_error browses]
      exact ⟨browsed, surveys'', rfl⟩
  | ok all =>
      rw [answer] at browses
      rw [result_bind_ok browses]
      have kept := (surveys.remembers static.tellsAbove).1
      have forms := static.canonical_of_found lists regular kept answer
      exact result_filterSurvey all (fun neighbour listed survey surveys =>
        static.result_isSameOrSubtype canonical (forms neighbour listed) surveys) surveys''

theorem bind_select_eq_ok_iff {super : NodeId → Except Error (Option NodeId)} {depth : Nat}
    {browsed : Except Error (List Neighbour)} {kept : List Neighbour} :
    (browsed >>= select (isInstance super top depth)) = .ok kept ↔
      ∃ all, browsed = .ok all ∧
        (∀ neighbour ∈ all, neighbour.typeDefinition.isNull = false → ∀ cause,
          ¬ FailsBelow super top depth neighbour.typeDefinition cause) ∧
        kept = all.filter fun neighbour => neighbour.typeDefinition.isNull = false ∧
          Reaches super depth neighbour.typeDefinition top := by
  cases browsed with
  | error cause => simp [bind, Except.bind]
  | ok all =>
      show select (isInstance super top depth) all = .ok kept ↔ _
      simp only [select_eq_ok_iff, isInstance_eq_ok, toOption_isInstance, Except.ok.injEq,
        exists_eq_left']

theorem browseInstances_recorded (start : NodeId) (context : BrowseContext) (depth : Nat)
    (survey : Surveyed (Recorded σ)) (tells : browser.TellsClass type typeClass
      survey.server.server new) (chosen : instanceClass? typeClass = none) :
    ∃ node, browser.namespaces.encode type = .ok node ∧
      (browser.recorded.browseInstances depth start context type).result survey =
        (.error (SchemaError.invalidNodeClass (toString type) typeClass.name),
          ⟨survey.superTypes, new,
            survey.server.requests ++ [.read [{ node, attr := .nodeClass }]]⟩) := by
  have reads := readNodeClass_eq_ok_iff.2 tells
  obtain ⟨node, -, -, -, encoded, -⟩ := tells
  have asked : (Survey.onServer (browser.recorded.readNodeClass type)).result survey =
      (.ok typeClass, ⟨survey.superTypes, new,
        survey.server.requests ++ [.read [{ node, attr := .nodeClass }]]⟩) := by
    rw [Survey.onServer, result_within, recorded_readNodeClass encoded, result_eq_ok.2 reads]
  refine ⟨node, encoded, ?_⟩
  rw [browseInstances, result_bind_ok asked, chosen]
  rfl

/-- On a server that stays the same, the instances of an object or variable type are found just if
the browse for its kind of nodes, with their type definitions, succeeds and so does each look-up of
a supertype on the way from a type definition to the type.  Then they are what the browse finds,
without those whose type definition is null or does not lead to the type within the bound.  The
masks of the caller and what has been asked before do not matter.  For types of other classes
nothing is browsed. -/
theorem browseInstances_static (static : browser.Static steady found type typeClass)
    (table : browser.namespaces = .ofList uris) (listed : uris ≠ [])
    (regular : browser.namespaces.Regular) {survey other : Surveyed σ}
    (surveys : browser.Surveys steady survey) (surveys' : browser.Surveys steady other)
    (depth : Nat) (start : NodeId) (context : BrowseContext) :
    (∀ nodeClass, typeClass = .objectType ∧ nodeClass = .object ∨
        typeClass = .variableType ∧ nodeClass = .var →
      ∃ top, browser.namespaces.canonical type = .ok top ∧
        (∀ kept, ((browser.browseInstances depth start context type).result survey).1 = .ok kept ↔
          ∃ all, found start { context with
              classMask := .ofClass nodeClass
              resultMask := context.resultMask ||| .typeDefinition } = .ok all ∧
            (∀ neighbour ∈ all, neighbour.typeDefinition.isNull = false → ∀ cause,
              ¬ FailsBelow (superTypeOf found) top depth neighbour.typeDefinition cause) ∧
            kept = all.filter fun neighbour => neighbour.typeDefinition.isNull = false ∧
              Reaches (superTypeOf found) depth neighbour.typeDefinition top) ∧
        ∀ classMask resultMask,
          resultMask ||| .typeDefinition = context.resultMask ||| .typeDefinition →
          ((browser.browseInstances depth start { context with classMask, resultMask }
              type).result other).1 =
            ((browser.browseInstances depth start context type).result survey).1) ∧
    (typeClass ≠ .objectType → typeClass ≠ .variableType →
      ((browser.browseInstances depth start context type).result survey).1 =
          .error (SchemaError.invalidNodeClass (toString type) typeClass.name) ∧
        ∀ requests, ∃ new node, browser.namespaces.encode type = .ok node ∧
          ((browser.recorded.browseInstances depth start context type).result
              ⟨survey.superTypes, survey.server, requests⟩).2 =
            ⟨survey.superTypes, new, requests ++ [.read [{ node, attr := .nodeClass }]]⟩) := by
  have lists : browser.namespaces.Lists (uris.take NamespaceTable.capacity) := by
    rw [table]
    exact NamespaceTable.lists_ofList uris
  have kept := (surveys.remembers static.tellsAbove).1
  obtain ⟨server, -, tells⟩ := static.nodeClass survey.server kept
  constructor
  · intro nodeClass classes
    have chosen : instanceClass? typeClass = some nodeClass := by
      rcases classes with ⟨rfl, rfl⟩ | ⟨rfl, rfl⟩ <;> rfl
    obtain ⟨node, -, -, -, encoded, -⟩ := tells
    have some : uris.take NamespaceTable.capacity ≠ [] := by
      simpa [NamespaceTable.capacity] using listed
    obtain ⟨top, canonical⟩ :=
      lists.exists_canonical (List.length_take_le _ _) some encoded
    have ends {context : BrowseContext} {survey : Surveyed σ}
        (surveys : browser.Surveys steady survey) :
        ((browser.browseInstances depth start context type).result survey).1 =
          found start (instanceContext context nodeClass) >>=
            select (isInstance (superTypeOf found) top depth) := by
      obtain ⟨new, -, ends⟩ := static.result_browseInstances start context depth lists regular
        chosen canonical surveys
      rw [ends]
    refine ⟨top, canonical, fun kept => ?_, fun classMask resultMask same => ?_⟩
    · rw [ends surveys]
      exact bind_select_eq_ok_iff
    · rw [ends surveys, ends surveys', instanceContext, instanceContext, same]
  · intro noObjects noVariables
    have chosen : instanceClass? typeClass = none := by
      cases typeClass <;> simp [instanceClass?] at noObjects noVariables ⊢
    constructor
    · obtain ⟨new, -, reads⟩ := static.result_onServer static.result_readNodeClass surveys
      rw [browseInstances, result_bind_ok reads, chosen]
      rfl
    · intro requests
      let onRecord : Surveyed (Recorded σ) := ⟨survey.superTypes, survey.server, requests⟩
      obtain ⟨node, encoded, ends⟩ :=
        browseInstances_recorded start context depth onRecord tells chosen
      exact ⟨server, node, encoded, congrArg Prod.snd ends⟩

end Browser

/-! ### A press among other things -/

def shopTransport : Transport Unit where
  isConnected _ := true
  endpoints _ := pure []
  connect _ _ := pure ()
  disconnect := pure ()
  browse request := pure { references :=
    if request.node = .standard 85 then [
      { node := .standard 1, nodeClass := 1, typeDefinition := .standard 102 },
      { node := .standard 2, nodeClass := 1, typeDefinition := .standard 103 },
      { node := .standard 3, nodeClass := 1 }]
    else if request.node = .standard 102 then [{ node := .standard 101, nodeClass := 8 }]
    else [] }
  browseNext _ := pure {}
  read _ := pure { values := [{ value := .int32 8 }] }
  translate _ := pure {}
  subscribe _ _ := pure 0
  unsubscribe _ := pure ()

def shopBrowser : Browser Unit := ⟨shopTransport, .ofList [Standard.namespaceUri], 1⟩

def foundInShop (start : NodeId) (context : BrowseContext) : Except Error (List Neighbour) :=
  ((shopBrowser.browse start context).result ()).1

theorem static_shop : shopBrowser.Static (fun _ => True) foundInShop (Standard.node 101)
    .objectType where
  browse _ _ _ _ := ⟨(), trivial, rfl⟩
  nodeClass _ _ := ⟨(), trivial, .standard 101, { values := [{ value := .int32 8 }] },
    { value := .int32 8 }, 8, rfl, rfl, rfl, rfl, rfl, rfl, rfl⟩

theorem regular_shop : shopBrowser.namespaces.Regular :=
  NamespaceTable.regular_ofList fun _ listed => nomatch listed

def shopNode (identifier : String) : NodeId := ⟨Standard.namespaceUri, identifier⟩

def inShop (node typeDefinition : NodeId) : Neighbour where
  node := node
  nodeClass := .object
  typeDefinition := typeDefinition
  referenceType := .null
  browseName := ⟨Standard.namespaceUri, ""⟩

def askedInShop : Surveyed Unit :=
  ((shopBrowser.isSameOrSubtype 2 (Standard.node 101) (Standard.node 102)).result ⟨[], ()⟩).2

theorem browseInstances_static_shop :
    askedInShop.superTypes = [(shopNode "i=102", some (shopNode "i=101"))] ∧
    ((shopBrowser.browseInstances 2 (Standard.node 85)
        { classMask := .types, resultMask := .none } (Standard.node 101)).result askedInShop).1 =
      .ok [inShop (shopNode "i=1") (shopNode "i=102")] := by
  refine ⟨by decide +kernel, ?_⟩
  have start : shopBrowser.Surveys (fun _ => True) ⟨[], ()⟩ := .start trivial
  have asked : shopBrowser.Surveys (fun _ => True) askedInShop :=
    start.asked 2 (Standard.node 101) (Standard.node 102)
  obtain ⟨instances, -⟩ := Browser.browseInstances_static static_shop rfl (by simp) regular_shop
    asked start 2 (Standard.node 85) { classMask := .types, resultMask := .none }
  obtain ⟨top, canonical, found, -⟩ := instances .object (.inl ⟨rfl, rfl⟩)
  obtain rfl : shopNode "i=101" = top := Except.ok.inj canonical
  have lower : Browser.superTypeOf foundInShop (shopNode "i=102") =
      .ok (some (shopNode "i=101")) := by with_unfolding_all rfl
  have highest : Browser.superTypeOf foundInShop (shopNode "i=103") = .ok none := by
    with_unfolding_all rfl
  have above : climb (Browser.superTypeOf foundInShop) (shopNode "i=101") 2 (shopNode "i=102") =
      .ok true := climb_eq_true.2 ⟨1, by decide, .up lower .here⟩
  have elsewhere : climb (Browser.superTypeOf foundInShop) (shopNode "i=101") 2
      (shopNode "i=103") = .ok false := by
    rw [climb, if_neg (by decide), highest]
  refine (found _).2 ⟨[inShop (shopNode "i=1") (shopNode "i=102"),
    inShop (shopNode "i=2") (shopNode "i=103"), inShop (shopNode "i=3") .null],
    by with_unfolding_all rfl, ?_, ?_⟩
  · intro neighbour listed whole cause fails
    rw [← climb_eq_error] at fails
    simp only [List.mem_cons, List.not_mem_nil, or_false] at listed
    rcases listed with rfl | rfl | rfl
    · cases above.symm.trans fails
    · cases elsewhere.symm.trans fails
    · cases whole
  · have yes : Reaches (Browser.superTypeOf foundInShop) 2 (shopNode "i=102") (shopNode "i=101") :=
      climb_eq_true.1 above
    have no : ¬ Reaches (Browser.superTypeOf foundInShop) 2 (shopNode "i=103")
        (shopNode "i=101") := by
      intro reaches
      cases elsewhere.symm.trans (climb_eq_true.2 reaches)
    have whole : (shopNode "i=102").isNull = false := rfl
    have null : NodeId.null.isNull = true := rfl
    simp [inShop, yes, no, whole, null]

end AddressSpace
