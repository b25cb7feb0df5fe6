import AddressSpace.Proofs.Keeping.Session

/-!
# Ascents with a memory

`isSameOrSubtype` keeps every supertype that it has looked up, and looks it up in what it has kept
from then on.  As long as the server tells the same supertypes this makes no difference: whatever has
been asked before, it ends as `climb` does, which keeps nothing.  `verdict_surveyed` says in which
way it ends when.
-/

namespace AddressSpace
open Exchange

/-! ## Ascents -/

inductive Ascends (super : NodeId → Except Error (Option NodeId)) : Nat → NodeId → NodeId → Prop
  | here {type : NodeId} : Ascends super 0 type type
  | up {n : Nat} {type next top : NodeId} (told : super type = .ok (some next))
      (further : Ascends super n next top) : Ascends super (n + 1) type top

/-- Fewer than `depth` supertypes lead from a type to one whose supertype cannot be told, and none of
them nor the type itself is `top`. -/
def FailsBelow (super : NodeId → Except Error (Option NodeId)) (top : NodeId) (depth : Nat)
    (type : NodeId) (cause : Error) : Prop :=
  ∃ n < depth, ∃ last, Ascends super n type last ∧ super last = .error cause ∧
    ∀ m ≤ n, ¬ Ascends super m type top

def climb (super : NodeId → Except Error (Option NodeId)) (top : NodeId) :
    (remaining : Nat) → (type : NodeId) → Except Error Bool
  | 0, type => .ok (type = top)
  | remaining + 1, type =>
    if type = top then .ok true
    else
      match super type with
      | .ok (some next) => climb super top remaining next
      | .ok none => .ok false
      | .error cause => .error cause

section Ascents

variable {super : NodeId → Except Error (Option NodeId)} {n m depth : Nat}
  {type next middle top : NodeId}

theorem ascends_zero : Ascends super 0 type top ↔ type = top := by
  constructor
  · rintro ⟨⟩
    rfl
  · rintro rfl
    exact .here

theorem ascends_succ :
    Ascends super (n + 1) type top ↔ ∃ next, super type = .ok (some next) ∧
      Ascends super n next top := by
  constructor
  · rintro ⟨⟩
    case up next told further => exact ⟨next, told, further⟩
  · rintro ⟨next, told, further⟩
    exact .up told further

theorem ascends_succ_of_told (told : super type = .ok (some next)) :
    Ascends super (n + 1) type top ↔ Ascends super n next top := by
  simp [ascends_succ, told]

theorem ascends_add : Ascends super (n + m) type top ↔
    ∃ middle, Ascends super n type middle ∧ Ascends super m middle top := by
  induction n generalizing type with
  | zero => simp [ascends_zero]
  | succ n ih =>
      rw [Nat.add_right_comm, ascends_succ]
      simp only [ih, ascends_succ]
      grind

theorem Ascends.unique {other : NodeId} (ascends : Ascends super n type top)
    (ascends' : Ascends super n type other) : top = other := by
  induction ascends with
  | here => exact ascends_zero.1 ascends'
  | up told further ih => exact ih ((ascends_succ_of_told told).1 ascends')

theorem Ascends.of_cycle (reached : Ascends super n type middle)
    (cycle : Ascends super (m + 1) middle middle) {k : Nat} (ascends : Ascends super k type top) :
    ∃ j ≤ n + m, Ascends super j type top := by
  induction k using Nat.strongRecOn with
  | ind k ih =>
      by_cases low : k ≤ n + m
      · exact ⟨k, low, ascends⟩
      · obtain ⟨rest, rfl⟩ : ∃ rest, k = (n + (m + 1)) + rest := ⟨k - (n + (m + 1)), by omega⟩
        -- One turn less on the cycle leads to the same end.
        obtain ⟨again, around, further⟩ := ascends_add.1 ascends
        obtain rfl := around.unique (ascends_add.2 ⟨middle, reached, cycle⟩)
        exact ih (n + rest) (by omega) (ascends_add.2 ⟨again, reached, further⟩)

/-! ## Climbing -/

theorem exists_ascends_of_told (told : super type = .ok (some next)) (elsewhere : type ≠ top) :
    (∃ n ≤ depth + 1, Ascends super n type top) ↔ ∃ n ≤ depth, Ascends super n next top := by
  constructor
  · rintro ⟨n, low, ascends⟩
    cases n with
    | zero => exact absurd (ascends_zero.1 ascends) elsewhere
    | succ n => exact ⟨n, by omega, (ascends_succ_of_told told).1 ascends⟩
  · rintro ⟨n, low, ascends⟩
    exact ⟨n + 1, by omega, .up told ascends⟩

theorem eq_of_ascends (untold : ∀ next, super type ≠ .ok (some next))
    (ascends : Ascends super n type top) : n = 0 ∧ type = top := by
  cases ascends with
  | here => exact ⟨rfl, rfl⟩
  | up told further => exact absurd told (untold _)

theorem failsBelow_of_told (told : super type = .ok (some next)) (elsewhere : type ≠ top)
    {cause : Error} :
    FailsBelow super top (depth + 1) type cause ↔ FailsBelow super top depth next cause := by
  constructor
  · rintro ⟨n, low, last, ascends, fails, missed⟩
    cases n with
    | zero =>
        obtain rfl := ascends_zero.1 ascends
        rw [told] at fails
        cases fails
    | succ n =>
        refine ⟨n, by omega, last, (ascends_succ_of_told told).1 ascends, fails, fun m low => ?_⟩
        rw [← ascends_succ_of_told told]
        exact missed (m + 1) (by omega)
  · rintro ⟨n, low, last, ascends, fails, missed⟩
    refine ⟨n + 1, by omega, last, .up told ascends, fails, fun m low => ?_⟩
    cases m with
    | zero => exact fun ascends => elsewhere (ascends_zero.1 ascends)
    | succ m =>
        rw [ascends_succ_of_told told]
        exact missed m (by omega)

theorem climb_eq_true :
    climb super top depth type = .ok true ↔ ∃ n ≤ depth, Ascends super n type top := by
  induction depth generalizing type with
  | zero => simp [climb, ascends_zero]
  | succ depth ih =>
      by_cases here : type = top
      · rw [climb, if_pos here]
        exact iff_of_true rfl ⟨0, Nat.zero_le _, ascends_zero.2 here⟩
      · rw [climb, if_neg here]
        cases told : super type with
        | error cause =>
            refine iff_of_false (by simp) fun ⟨n, _, ascends⟩ => here ?_
            exact (eq_of_ascends (by simp [told]) ascends).2
        | ok answer =>
            cases answer with
            | none =>
                refine iff_of_false (by simp) fun ⟨n, _, ascends⟩ => here ?_
                exact (eq_of_ascends (by simp [told]) ascends).2
            | some next => rw [exists_ascends_of_told told here, ← ih]

theorem climb_eq_error {cause : Error} :
    climb super top depth type = .error cause ↔ FailsBelow super top depth type cause := by
  induction depth generalizing type with
  | zero =>
      refine iff_of_false (by simp [climb]) ?_
      rintro ⟨n, low, -⟩
      exact Nat.not_lt_zero n low
  | succ depth ih =>
      by_cases here : type = top
      · rw [climb, if_pos here]
        refine iff_of_false (by simp) ?_
        rintro ⟨n, low, last, ascends, fails, missed⟩
        exact missed 0 (Nat.zero_le n) (ascends_zero.2 here)
      · rw [climb, if_neg here]
        cases told : super type with
        | error cause' =>
            constructor
            · rintro ⟨⟩
              refine ⟨0, Nat.succ_pos _, type, .here, told, fun m low ascends => here ?_⟩
              exact (eq_of_ascends (by simp [told]) ascends).2
            · rintro ⟨n, low, last, ascends, fails, missed⟩
              obtain ⟨-, rfl⟩ := eq_of_ascends (by simp [told]) ascends
              rw [told] at fails
              cases fails
              rfl
        | ok answer =>
            cases answer with
            | none =>
                refine iff_of_false (by simp) ?_
                rintro ⟨n, low, last, ascends, fails, missed⟩
                obtain ⟨-, rfl⟩ := eq_of_ascends (by simp [told]) ascends
                rw [told] at fails
                cases fails
            | some next => rw [failsBelow_of_told told here, ← ih]

theorem climb_eq_false :
    climb super top depth type = .ok false ↔ (∀ n ≤ depth, ¬ Ascends super n type top) ∧
      ∀ n < depth, ∀ last, Ascends super n type last → ∃ answer, super last = .ok answer := by
  constructor
  · intro ends
    have missed : ∀ n ≤ depth, ¬ Ascends super n type top := by
      intro n low ascends
      rw [climb_eq_true.2 ⟨n, low, ascends⟩] at ends
      cases ends
    refine ⟨missed, fun n low last ascends => ?_⟩
    cases told : super last with
    | ok answer => exact ⟨answer, rfl⟩
    | error cause =>
        rw [climb_eq_error.2 ⟨n, low, last, ascends, told, fun m before => missed m (by omega)⟩]
          at ends
        cases ends
  · rintro ⟨missed, answered⟩
    cases ends : climb super top depth type with
    | error cause =>
        obtain ⟨n, low, last, ascends, fails, -⟩ := climb_eq_error.1 ends
        obtain ⟨answer, told⟩ := answered n low last ascends
        rw [told] at fails
        cases fails
    | ok verdict =>
        cases verdict with
        | false => rfl
        | true =>
            obtain ⟨n, low, ascends⟩ := climb_eq_true.1 ends
            exact absurd ascends (missed n low)

end Ascents

/-! ## Memory -/

def superOf (found : NodeId → Except Error (List Neighbour)) (type : NodeId) :
    Except Error (Option NodeId) :=
  match found type with
  | .ok [only] => .ok (some only.node)
  | .ok _ => .ok none
  | .error cause => .error cause

namespace Browser

variable {σ : Type} {browser : Browser σ} {steady : σ → Prop}
  {found : NodeId → Except Error (List Neighbour)}

/-- While it is `steady`, the server finds the same above a type whenever it is asked. -/
def TellsAbove (browser : Browser σ) (steady : σ → Prop)
    (found : NodeId → Except Error (List Neighbour)) : Prop :=
  ∀ type server, steady server → ∃ new, steady new ∧
    (browser.browse type superTypeContext).result server = (found type, new)

/-- A survey of a steady server that started without any memory, after some questions about types
and whatever else has been done with the server. -/
inductive Surveys (browser : Browser σ) (steady : σ → Prop) : Surveyed σ → Prop
  | start {server : σ} (kept : steady server) : Surveys browser steady ⟨[], server⟩
  | used {survey : Surveyed σ} (before : Surveys browser steady survey) {server : σ}
      (kept : steady server) : Surveys browser steady { survey with server }
  | lookedUp {survey : Surveyed σ} (before : Surveys browser steady survey) (type : NodeId) :
      Surveys browser steady ((browser.superType type).result survey).2
  | asked {survey : Surveyed σ} (before : Surveys browser steady survey) (depth : Nat)
      (expected candidate : NodeId) :
      Surveys browser steady ((browser.isSameOrSubtype depth expected candidate).result survey).2

abbrev Remembers (steady : σ → Prop) (found : NodeId → Except Error (List Neighbour)) :
    Surveyed σ → Prop :=
  Surveyed.Sound steady fun entry => superOf found entry.1 = .ok entry.2

section

variable (tells : browser.TellsAbove steady found)
include tells

theorem result_fetchSuperType (type : NodeId) {server : σ} (kept : steady server) :
    ∃ new, steady new ∧ (browser.fetchSuperType type).result server = (superOf found type, new) := by
  obtain ⟨new, kept', browses⟩ := tells type server kept
  refine ⟨new, kept', ?_⟩
  unfold fetchSuperType superOf
  cases answer : found type with
  | error cause =>
      rw [answer] at browses
      exact result_bind_error browses _
  | ok neighbours =>
      rw [answer] at browses
      rcases neighbours with _ | ⟨only, _ | ⟨second, rest⟩⟩ <;>
        exact result_bind_ok browses _

theorem result_superType (type : NodeId) {survey : Surveyed σ}
    (remembers : Remembers steady found survey) :
    ∃ new, Remembers steady found new ∧
      (browser.superType type).result survey = (superOf found type, new) := by
  unfold superType
  cases known : survey.superTypes.lookup type with
  | some answer =>
      refine ⟨survey, remembers, ?_⟩
      have told : superOf found type = .ok answer := by
        obtain ⟨front, back, listed, -⟩ := List.lookup_eq_some_iff.1 known
        exact remembers.2 (type, answer) (by simp [listed])
      rw [told, result_eq_ok, bind_ok (get_apply _), known]
      rfl
  | none =>
      obtain ⟨new, kept, asked⟩ := result_fetchSuperType tells type remembers.1
      cases told : superOf found type with
      | error cause =>
          rw [told] at asked
          have failed : Survey.onServer (browser.fetchSuperType type) survey =
              .error cause { survey with server := new } := within_error (result_eq_error.1 asked)
          refine ⟨{ survey with server := new }, ⟨kept, remembers.2⟩, ?_⟩
          rw [result_eq_error, bind_ok (get_apply _), known]
          exact bind_error failed _
      | ok answer =>
          rw [told] at asked
          have answered : Survey.onServer (browser.fetchSuperType type) survey =
              .ok answer { survey with server := new } := within_ok (result_eq_ok.1 asked)
          refine ⟨⟨(type, answer) :: survey.superTypes, new⟩, ⟨kept, fun entry listed => ?_⟩, ?_⟩
          · rcases List.mem_cons.1 listed with rfl | older
            · exact told
            · exact remembers.2 entry older
          · rw [result_eq_ok, bind_ok (get_apply _), known]
            exact bind_ok answered _

theorem result_reaches (top : NodeId) (remaining : Nat) (type : NodeId) {survey : Surveyed σ}
    (remembers : Remembers steady found survey) :
    ∃ new, Remembers steady found new ∧
      (browser.reaches top remaining type).result survey =
        (climb (superOf found) top remaining type, new) := by
  -- Each answer is remembered, so the walk goes on from other surveys.
  induction remaining generalizing type survey with
  | zero => exact ⟨survey, remembers, rfl⟩
  | succ remaining ih =>
      rw [reaches, climb]
      by_cases here : type = top
      · rw [if_pos here, if_pos here]
        exact ⟨survey, remembers, rfl⟩
      · rw [if_neg here, if_neg here]
        obtain ⟨new, remembers', told⟩ := result_superType tells type remembers
        cases answer : superOf found type with
        | error cause =>
            rw [answer] at told
            exact ⟨new, remembers', result_bind_error told _⟩
        | ok next =>
            rw [answer] at told
            rw [result_bind_ok told]
            cases next with
            | none => exact ⟨new, remembers', rfl⟩
            | some next => exact ih next remembers'

omit tells in
theorem isSameOrSubtype_eq_reaches {depth : Nat} {expected candidate top type : NodeId}
    (whole : candidate.isNull = false)
    (canonical : browser.namespaces.canonical expected = .ok top)
    (canonical' : browser.namespaces.canonical candidate = .ok type) :
    browser.isSameOrSubtype depth expected candidate = browser.reaches top depth type := by
  rw [isSameOrSubtype, if_neg (Bool.eq_false_iff.1 whole), canonical, canonical']
  rfl

theorem remembers_isSameOrSubtype (depth : Nat) (expected candidate : NodeId)
    {survey : Surveyed σ} (remembers : Remembers steady found survey) :
    Remembers steady found
      ((browser.isSameOrSubtype depth expected candidate).result survey).2 := by
  by_cases null : candidate.isNull
  · rw [isSameOrSubtype, if_pos null]
    exact remembers
  · cases canonical : browser.namespaces.canonical expected with
    | error cause =>
        rw [isSameOrSubtype, if_neg null, canonical]
        exact remembers
    | ok top =>
        cases canonical' : browser.namespaces.canonical candidate with
        | error cause =>
            rw [isSameOrSubtype, if_neg null, canonical, canonical']
            exact remembers
        | ok type =>
            rw [isSameOrSubtype_eq_reaches (Bool.eq_false_iff.2 null) canonical canonical']
            obtain ⟨new, remembers', ends⟩ := result_reaches tells top depth type remembers
            rw [ends]
            exact remembers'

theorem Surveys.remembers {survey : Surveyed σ} (surveys : browser.Surveys steady survey) :
    Remembers steady found survey := by
  induction surveys with
  | start kept => exact ⟨kept, fun entry listed => by cases listed⟩
  | used before kept ih => exact ⟨kept, ih.2⟩
  | lookedUp before type ih =>
      obtain ⟨new, remembers, told⟩ := result_superType tells type ih
      rw [told]
      exact remembers
  | asked before depth expected candidate ih =>
      exact remembers_isSameOrSubtype tells depth expected candidate ih

end

/-! ## Verdicts -/

def verdict (browser : Browser σ) (depth : Nat) (expected candidate : NodeId)
    (survey : Surveyed σ) : Except Error Bool :=
  ((browser.isSameOrSubtype depth expected candidate).result survey).1

variable (tells : browser.TellsAbove steady found) {expected candidate top type : NodeId}
include tells

theorem verdict_eq_climb {survey : Surveyed σ} (surveys : browser.Surveys steady survey)
    (whole : candidate.isNull = false)
    (canonical : browser.namespaces.canonical expected = .ok top)
    (canonical' : browser.namespaces.canonical candidate = .ok type) (depth : Nat) :
    browser.verdict depth expected candidate survey = climb (superOf found) top depth type := by
  obtain ⟨new, -, ends⟩ := result_reaches tells top depth type (surveys.remembers tells)
  rw [verdict, isSameOrSubtype_eq_reaches whole canonical canonical', ends]

omit tells in
theorem canonical_of_verdict {survey : Surveyed σ} {depth : Nat}
    (holds : browser.verdict depth expected candidate survey = .ok true) :
    candidate.isNull = false ∧ (∃ top, browser.namespaces.canonical expected = .ok top) ∧
      ∃ type, browser.namespaces.canonical candidate = .ok type := by
  unfold verdict isSameOrSubtype at holds
  by_cases null : candidate.isNull
  · rw [if_pos null] at holds
    cases holds
  · rw [if_neg null] at holds
    cases canonical : browser.namespaces.canonical expected with
    | error cause =>
        rw [canonical] at holds
        cases holds
    | ok top =>
        cases canonical' : browser.namespaces.canonical candidate with
        | error cause =>
            rw [canonical, canonical'] at holds
            cases holds
        | ok type => exact ⟨Bool.eq_false_iff.2 null, ⟨top, rfl⟩, ⟨type, rfl⟩⟩

theorem verdict_trans {survey : Surveyed σ} (surveys : browser.Surveys steady survey)
    {middle : NodeId} {far near : Nat}
    (upper : browser.verdict far expected middle survey = .ok true)
    (lower : browser.verdict near middle candidate survey = .ok true) :
    browser.verdict (far + near) expected candidate survey = .ok true := by
  obtain ⟨whole, ⟨top, canonical⟩, ⟨between, canonical'⟩⟩ := canonical_of_verdict upper
  obtain ⟨whole', -, ⟨type, canonical''⟩⟩ := canonical_of_verdict lower
  rw [verdict_eq_climb tells surveys whole canonical canonical', climb_eq_true] at upper
  rw [verdict_eq_climb tells surveys whole' canonical' canonical'', climb_eq_true] at lower
  rw [verdict_eq_climb tells surveys whole' canonical canonical'', climb_eq_true]
  obtain ⟨n, low, ascends⟩ := upper
  obtain ⟨m, low', ascends'⟩ := lower
  exact ⟨m + n, by omega, ascends_add.2 ⟨between, ascends', ascends⟩⟩

/-- On a server that tells the same supertypes throughout, and whatever has been asked before, a type
is below another one just if some supertypes within the bound lead there, a failure is reported just
if it comes first, and in all other cases the answer is no.  So what is remembered does not matter,
a type is below itself without a question to the server, a wider bound loses nothing, bounds add up,
and a way that runs into a cycle leads nowhere else. -/
theorem verdict_surveyed {survey other : Surveyed σ} (surveys : browser.Surveys steady survey)
    (surveys' : browser.Surveys steady other) (whole : candidate.isNull = false)
    (canonical : browser.namespaces.canonical expected = .ok top)
    (canonical' : browser.namespaces.canonical candidate = .ok type) (depth : Nat) :
    (browser.verdict depth expected candidate survey = .ok true ↔
      ∃ n ≤ depth, Ascends (superOf found) n type top) ∧
    (∀ cause, browser.verdict depth expected candidate survey = .error cause ↔
      FailsBelow (superOf found) top depth type cause) ∧
    (browser.verdict depth expected candidate survey = .ok false ↔
      (∀ n ≤ depth, ¬ Ascends (superOf found) n type top) ∧
      ∀ n < depth, ∀ last, Ascends (superOf found) n type last →
        ∃ answer, superOf found last = .ok answer) ∧
    browser.verdict depth expected candidate other =
      browser.verdict depth expected candidate survey ∧
    (type = top →
      (browser.isSameOrSubtype depth expected candidate).result survey = (.ok true, survey)) ∧
    (∀ more ≥ depth, browser.verdict depth expected candidate survey = .ok true →
      browser.verdict more expected candidate survey = .ok true) ∧
    (∀ middle above, browser.verdict above expected middle survey = .ok true →
      browser.verdict depth middle candidate survey = .ok true →
      browser.verdict (above + depth) expected candidate survey = .ok true) ∧
    ∀ n m again, Ascends (superOf found) n type again →
      Ascends (superOf found) (m + 1) again again →
      (∀ k ≤ n + m, ¬ Ascends (superOf found) k type top) →
      browser.verdict depth expected candidate survey ≠ .ok true := by
  have ends := verdict_eq_climb tells surveys whole canonical canonical'
  have ends' := verdict_eq_climb tells surveys' whole canonical canonical' depth
  refine ⟨?_, fun cause => ?_, ?_, ends'.trans (ends depth).symm, fun same => ?_,
    fun more wider => ?_, fun middle above upper lower => verdict_trans tells surveys upper lower,
    fun n m again reached cycle missed => ?_⟩
  · rw [ends, climb_eq_true]
  · rw [ends, climb_eq_error]
  · rw [ends, climb_eq_false]
  · rw [isSameOrSubtype_eq_reaches whole canonical canonical', same]
    cases depth with
    | zero => simp [reaches, result, pure_apply]
    | succ depth => rw [reaches, if_pos rfl]; rfl
  · rw [ends, ends, climb_eq_true, climb_eq_true]
    rintro ⟨n, low, ascends⟩
    exact ⟨n, by omega, ascends⟩
  · rw [ends, Ne, climb_eq_true]
    rintro ⟨k, -, ascends⟩
    obtain ⟨j, low, ascends'⟩ := reached.of_cycle cycle ascends
    exact missed j low ascends'

end Browser

/-! ### A press below a machine, and two types above each other -/

def cycleTransport : Transport Unit where
  isConnected _ := true
  endpoints _ := pure []
  connect _ _ := pure ()
  disconnect := pure ()
  browse request := pure { references :=
    if request.node = .standard 102 then [{ node := .standard 101, nodeClass := 8 }]
    else if request.node = .standard 103 then [{ node := .standard 104, nodeClass := 8 }]
    else if request.node = .standard 104 then [{ node := .standard 103, nodeClass := 8 }]
    else [] }
  browseNext _ := pure {}
  read _ := pure {}
  translate _ := pure {}
  subscribe _ _ := pure 0
  unsubscribe _ := pure ()

def cycleBrowser : Browser Unit := ⟨cycleTransport, .ofList [Standard.namespaceUri], 1⟩

def foundAbove (type : NodeId) : Except Error (List Neighbour) :=
  ((cycleBrowser.browse type Browser.superTypeContext).result ()).1

def askedTwice : Surveyed Unit :=
  ((cycleBrowser.isSameOrSubtype 1 (Standard.node 101) (Standard.node 103)).result
    ((cycleBrowser.isSameOrSubtype 2 (Standard.node 101) (Standard.node 102)).result ⟨[], ()⟩).2).2

theorem verdict_surveyed_press :
    askedTwice.superTypes =
      [(⟨Standard.namespaceUri, "i=103"⟩, some ⟨Standard.namespaceUri, "i=104"⟩),
        (⟨Standard.namespaceUri, "i=102"⟩, some ⟨Standard.namespaceUri, "i=101"⟩)] ∧
    cycleBrowser.verdict 2 (Standard.node 101) (Standard.node 102) askedTwice = .ok true ∧
    cycleBrowser.verdict 9 (Standard.node 101) (Standard.node 103) askedTwice ≠ .ok true := by
  have tells : cycleBrowser.TellsAbove (fun _ => True) foundAbove :=
    fun _ _ _ => ⟨(), trivial, rfl⟩
  have start : cycleBrowser.Surveys (fun _ => True) ⟨[], ()⟩ := .start trivial
  have asked : cycleBrowser.Surveys (fun _ => True) askedTwice :=
    (start.asked 2 (Standard.node 101) (Standard.node 102)).asked 1 (Standard.node 101)
      (Standard.node 103)
  have machine : cycleBrowser.namespaces.canonical (Standard.node 101) =
      .ok ⟨Standard.namespaceUri, "i=101"⟩ := rfl
  have press : cycleBrowser.namespaces.canonical (Standard.node 102) =
      .ok ⟨Standard.namespaceUri, "i=102"⟩ := rfl
  have wheel : cycleBrowser.namespaces.canonical (Standard.node 103) =
      .ok ⟨Standard.namespaceUri, "i=103"⟩ := rfl
  have lower : superOf foundAbove ⟨Standard.namespaceUri, "i=102"⟩ =
      .ok (some ⟨Standard.namespaceUri, "i=101"⟩) := by with_unfolding_all rfl
  have forth : superOf foundAbove ⟨Standard.namespaceUri, "i=103"⟩ =
      .ok (some ⟨Standard.namespaceUri, "i=104"⟩) := by with_unfolding_all rfl
  have back : superOf foundAbove ⟨Standard.namespaceUri, "i=104"⟩ =
      .ok (some ⟨Standard.namespaceUri, "i=103"⟩) := by with_unfolding_all rfl
  refine ⟨by decide +kernel, ?_, ?_⟩
  · obtain ⟨isBelow, -⟩ := Browser.verdict_surveyed tells asked start rfl machine press 2
    exact isBelow.2 ⟨1, by decide, .up lower .here⟩
  · obtain ⟨-, -, -, -, -, -, -, cyclic⟩ :=
      Browser.verdict_surveyed tells asked start rfl machine wheel 9
    refine cyclic 0 1 ⟨Standard.namespaceUri, "i=103"⟩ .here (.up forth (.up back .here))
      fun k low ascends => ?_
    match k with
    | 0 => exact absurd (ascends_zero.1 ascends) (by decide)
    | 1 => exact absurd (ascends_zero.1 ((ascends_succ_of_told forth).1 ascends)) (by decide)

end AddressSpace
