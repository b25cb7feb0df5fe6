import AddressSpace.Proofs.Crawl.Depth
import AddressSpace.Proofs.Pages

/-!
# A crawl comes to an end

Each round of a crawl takes a neighbour from the stack and enters it, so that a crawl has at most as
many rounds as it finds nodes, and asks the server for a bounded number of pages in each.  What the
server answers makes no difference to this: `discover_bounded`.
-/

namespace AddressSpace
open Exchange

namespace Browser

variable {σ : Type} (browser : Browser σ) (ofVariableType : Bool) (maxDepth : Nat)

/-! ## Rounds -/

def pendingBelow (i depth : Nat) (node : NodeId) : Crawling σ (List Pending) := do
  let below ← Crawling.onServer ((browser.browse node .instancesAndTypes).tolerate [])
  pure (below.map (⟨i, ·, depth + 1⟩))

def round : Pending → Crawling σ (List Pending)
  | ⟨parent, found, depth⟩ => do
    let i ← browser.enter ofVariableType parent found
    if depth < maxDepth then
      if (← get).arena.lineHas parent found.node then pure []
      else browser.pendingBelow i depth found.node
    else pure []

theorem enterAll_cons (item : Pending) (stack : List Pending) :
    browser.enterAll ofVariableType maxDepth (item :: stack) = (do
      let below ← browser.round ofVariableType maxDepth item
      browser.enterAll ofVariableType maxDepth (below ++ stack)) := by
  obtain ⟨parent, found, depth⟩ := item
  rw [enterAll, round, bind_assoc]
  apply bind_congr
  intro i
  split
  · rw [bind_assoc]
    apply bind_congr
    intro crawl
    split
    · rw [pure_bind, List.nil_append]
    · rw [pendingBelow, bind_assoc]
      apply bind_congr
      intro below
      rw [pure_bind, Pending.pushAll_eq]
  · rw [pure_bind, List.nil_append]

/-- The crawl cut off after a number of rounds, and what is left on the stack then. -/
def enterFirst : (rounds : Nat) → List Pending → Crawling σ (List Pending)
  | 0, stack => pure stack
  | _ + 1, [] => pure []
  | rounds + 1, item :: stack => do
    let below ← browser.round ofVariableType maxDepth item
    enterFirst rounds (below ++ stack)

theorem enterFirst_bind (rounds : Nat) (stack : List Pending) :
    (browser.enterFirst ofVariableType maxDepth rounds stack >>=
        browser.enterAll ofVariableType maxDepth) =
      browser.enterAll ofVariableType maxDepth stack := by
  induction rounds generalizing stack with
  | zero => rw [enterFirst, pure_bind]
  | succ rounds ih =>
      cases stack with
      | nil => rw [enterFirst, pure_bind]
      | cons item stack =>
          rw [enterFirst, bind_assoc, enterAll_cons]
          apply bind_congr
          intro below
          exact ih (below ++ stack)

def discoverFirst (rounds : Nat) (base : NodeId) : Crawling σ (List Pending) := do
  let base ← Exchange.ofExcept (browser.namespaces.canonical base)
  let root ← Crawling.addRoot (rootDeclaration base ofVariableType)
  let found ← Crawling.onServer (browser.browse base .instancesAndTypes)
  browser.enterFirst ofVariableType maxDepth rounds (Pending.pushAll root 1 found [])

theorem discoverFirst_bind (rounds : Nat) (base : NodeId) :
    (browser.discoverFirst ofVariableType maxDepth rounds base >>=
        browser.enterAll ofVariableType maxDepth) =
      browser.discover maxDepth base ofVariableType := by
  unfold discoverFirst discover
  simp only [bind_assoc, enterFirst_bind]

/-! ## One node in each round -/

variable {browser ofVariableType maxDepth}

theorem arena_of_onServer {α : Type} {exchange : Exchange σ α} {a : α} {crawl new : Crawl σ}
    (ends : Crawling.onServer exchange crawl = .ok a new) : new.arena = crawl.arena := by
  unfold Crawling.onServer Exchange.within at ends
  split at ends
  · cases ends
    rfl
  · cases ends

theorem size_of_enter {parent i : Nat} {found : Neighbour} {crawl new : Crawl σ}
    (enters : browser.enter ofVariableType parent found crawl = .ok i new) :
    new.arena.size = crawl.arena.size + 1 := by
  obtain ⟨rule, between, ruled, added⟩ := bind_eq_ok enters
  rw [← arena_of_onServer ruled]
  cases added
  exact Arena.size_add _ _ _

theorem size_of_round {item : Pending} {below : List Pending} {crawl new : Crawl σ}
    (ends : browser.round ofVariableType maxDepth item crawl = .ok below new) :
    new.arena.size = crawl.arena.size + 1 := by
  obtain ⟨parent, found, depth⟩ := item
  obtain ⟨i, between, enters, rest⟩ := bind_eq_ok ends
  rw [← size_of_enter enters]
  split at rest
  · obtain ⟨_, _, same, rest⟩ := bind_eq_ok rest
    cases same
    split at rest
    · cases rest
      rfl
    · obtain ⟨found, after, browses, same⟩ := bind_eq_ok rest
      cases same
      rw [arena_of_onServer browses]
  · cases rest
    rfl

theorem size_of_enterFirst {rounds : Nat} {stack left : List Pending} {crawl new : Crawl σ}
    (ends : browser.enterFirst ofVariableType maxDepth rounds stack crawl = .ok left new) :
    left = [] ∨ new.arena.size = crawl.arena.size + rounds := by
  induction rounds generalizing stack crawl with
  | zero =>
      cases ends
      exact .inr rfl
  | succ rounds ih =>
      cases stack with
      | nil =>
          cases ends
          exact .inl rfl
      | cons item stack =>
          obtain ⟨below, between, round, rest⟩ := bind_eq_ok ends
          have larger := size_of_round round
          apply (ih rest).imp_right
          omega

/-! ## The end -/

section Growth

variable (browser ofVariableType) (size : Nat)

theorem keeps_size_onServer {α : Type} (exchange : Exchange σ α) :
    Keeps (fun crawl : Crawl σ => size ≤ crawl.arena.size) (fun _ => True)
      (Crawling.onServer exchange) :=
  (keeps_true exchange).within (fun _ _ => trivial) fun _ large _ _ => large

theorem keeps_size_enter (parent : Nat) (found : Neighbour) :
    Keeps (fun crawl : Crawl σ => size ≤ crawl.arena.size) (fun _ => True)
      (browser.enter ofVariableType parent found) := by
  apply (keeps_size_onServer size _).bind
  intro rule crawl large
  refine .ok (Nat.le_trans large ?_)
  rw [Arena.size_add]
  exact Nat.le_succ _

theorem keeps_size_visit (levels parent : Nat) (found : Neighbour) :
    Keeps (fun crawl : Crawl σ => size ≤ crawl.arena.size) (fun _ => True)
      (browser.visit ofVariableType levels parent found) := by
  induction levels generalizing parent found with
  | zero => exact (browser.keeps_size_enter ofVariableType size _ _).bind fun _ => keeps_pure ()
  | succ levels ih =>
      apply (browser.keeps_size_enter ofVariableType size _ _).bind
      intro i
      apply keeps_get.bind
      intro crawl
      apply keeps_ite (keeps_pure ())
      exact (keeps_size_onServer size _).bind fun below => keeps_forM (ih i) below

theorem keeps_size_enterAll (maxDepth : Nat) (stack : List Pending) :
    Keeps (fun crawl : Crawl σ => size ≤ crawl.arena.size) (fun _ => True)
      (browser.enterAll ofVariableType maxDepth stack) := by
  rw [enterAll_eq_forM]
  apply keeps_forM
  intro item
  exact browser.keeps_size_visit ofVariableType size _ _ _

end Growth

theorem size_of_discoverFirst {rounds : Nat} {base : NodeId} {left : List Pending}
    {crawl new : Crawl σ}
    (ends : browser.discoverFirst ofVariableType maxDepth rounds base crawl = .ok left new) :
    left = [] ∨ new.arena.size = crawl.arena.size + 1 + rounds := by
  obtain ⟨root, between, canonical, rest⟩ := bind_eq_ok ends
  rw [(ofExcept_eq_ok canonical).2] at rest
  obtain ⟨i, after, added, rest⟩ := bind_eq_ok rest
  cases added
  obtain ⟨found, after, browses, rest⟩ := bind_eq_ok rest
  have grown : after.arena = crawl.arena.push none (rootDeclaration root ofVariableType) :=
    arena_of_onServer browses
  rw [← Arena.size_push_none crawl.arena (rootDeclaration root ofVariableType), ← grown]
  exact size_of_enterFirst rest

theorem result_discover_of_first {rounds : Nat} {base : NodeId} {crawl new : Crawl σ}
    {answer : Except Error Unit}
    (ends : (browser.discoverFirst ofVariableType maxDepth rounds base).result crawl =
      (answer.map fun _ => [], new)) :
    (browser.discover maxDepth base ofVariableType).result crawl = (answer, new) := by
  rw [← discoverFirst_bind browser ofVariableType maxDepth rounds base]
  cases answer with
  | error cause => exact result_bind_error ends _
  | ok done =>
      rw [result_bind_ok ends, enterAll]
      rfl

theorem result_discoverFirst (rounds : Nat) {base : NodeId} {crawl new : Crawl σ}
    {answer : Except Error Unit}
    (ends : (browser.discover maxDepth base ofVariableType).result crawl = (answer, new))
    (enough : new.arena.size ≤ crawl.arena.size + rounds) :
    (browser.discoverFirst ofVariableType maxDepth rounds base).result crawl =
      (answer.map fun _ => [], new) := by
  have whole := browser.discoverFirst_bind ofVariableType maxDepth rounds base
  cases first : (browser.discoverFirst ofVariableType maxDepth rounds base).result crawl with
  | mk answer' new' =>
      cases answer' with
      | error cause =>
          rw [← whole, result_bind_error first] at ends
          cases ends
          rfl
      | ok left =>
          rcases size_of_discoverFirst (result_eq_ok.1 first) with rfl | large
          · rw [← whole, result_bind_ok first, enterAll] at ends
            cases ends
            rfl
          · -- A stack that is not empty would have made the arena larger than it ever gets.
            have kept := (browser.keeps_size_enterAll ofVariableType new'.arena.size maxDepth
              left).result (Nat.le_refl _)
            rw [← result_bind_ok first, whole, ends] at kept
            dsimp only at kept
            omega

end Browser

/-! ## Requests -/

namespace Crawling

variable {σ α β : Type} {kind : Request → Bool} {bound : Nat}

def apart (exchange : Crawling (Recorded σ) α) : Exchange (Recorded (Crawl σ)) α :=
  exchange.within
    (fun recorded => ⟨recorded.server.arena, ⟨recorded.server.server, recorded.requests⟩⟩)
    fun crawl _ => ⟨⟨crawl.arena, crawl.server.server⟩, crawl.server.requests⟩

theorem apart_bind (exchange : Crawling (Recorded σ) α) (next : α → Crawling (Recorded σ) β) :
    apart (exchange >>= next) = (apart exchange >>= fun a => apart (next a)) := by
  funext recorded
  unfold apart within
  simp only [bind, EStateM.bind]
  cases exchange ⟨recorded.server.arena, ⟨recorded.server.server, recorded.requests⟩⟩ <;> rfl

theorem result_of_apart {exchange : Crawling (Recorded σ) α} {arena : Arena} {recorded : Recorded σ}
    {answer : Except Error α} {new : Crawl σ} {requests : List Request}
    (ends : (apart exchange).result ⟨⟨arena, recorded.server⟩, recorded.requests⟩ =
      (answer, ⟨new, requests⟩)) :
    exchange.result ⟨arena, recorded⟩ = (answer, ⟨new.arena, new.server, requests⟩) := by
  rw [apart, result_within] at ends
  cases ends
  rfl

theorem makes_onServer {exchange : Exchange σ α} {onRecord : Exchange (Recorded σ) α}
    (makes : Makes kind bound exchange onRecord) :
    Makes kind bound (onServer exchange) (apart (onServer onRecord)) := by
  intro recorded
  obtain ⟨made, few, ends⟩ := makes ⟨recorded.server.server, recorded.requests⟩
  refine ⟨made, few, ?_⟩
  unfold apart onServer
  simp only [result_within, ends]

theorem makes_nothing {exchange : Crawling σ α} {onRecord : Crawling (Recorded σ) α}
    (same : ∀ arena server requests, ∃ answer after,
      exchange.result ⟨arena, server⟩ = (answer, ⟨after, server⟩) ∧
        onRecord.result ⟨arena, ⟨server, requests⟩⟩ = (answer, ⟨after, ⟨server, requests⟩⟩)) :
    Makes kind 0 exchange (apart onRecord) := by
  intro recorded
  obtain ⟨answer, after, off, on⟩ := same recorded.server.arena recorded.server.server
    recorded.requests
  refine ⟨[], Nat.le_refl 0, ?_⟩
  have off' : exchange.result recorded.server = (answer, ⟨after, recorded.server.server⟩) := off
  rw [apart, result_within, on, off', List.append_nil]

theorem makes_pure (a : α) : Makes kind 0 (pure a : Crawling σ α) (apart (pure a)) :=
  makes_nothing fun arena _ _ => ⟨.ok a, arena, rfl, rfl⟩

end Crawling

namespace Browser

variable {σ : Type} {browser : Browser σ} {ofVariableType : Bool} {maxDepth : Nat}

abbrev anyRequest : Request → Bool := fun _ => true

theorem makes_browse_any (start : NodeId) (context : BrowseContext) :
    Makes anyRequest (max 1 browser.maxPages) (browser.browse start context)
      (browser.recorded.browse start context) :=
  (makes_browse_of (fun _ => Nat.le_refl 1) start context).mono (by omega)

theorem makes_ruleOf (found : Neighbour) :
    Makes anyRequest (max 1 browser.maxPages) (browser.ruleOf found)
      (browser.recorded.ruleOf found) := by
  unfold ruleOf
  split
  · exact (makes_ofExcept (.ok _)).mono (Nat.zero_le _)
  · apply Makes.tolerate
    exact ((makes_browse_any _ _).bind fun _ => makes_ofExcept (.ok _)).mono (Nat.le_refl _)

theorem makes_enter (parent : Nat) (found : Neighbour) :
    Makes anyRequest (max 1 browser.maxPages) (browser.enter ofVariableType parent found)
      (Crawling.apart (browser.recorded.enter ofVariableType parent found)) := by
  have adds (declaration : Declaration) : Makes anyRequest 0
      (Crawling.addBelow parent declaration : Crawling σ Nat)
      (Crawling.apart (Crawling.addBelow parent declaration)) :=
    Crawling.makes_nothing fun arena _ _ =>
      ⟨.ok arena.size, arena.add parent declaration, rfl, rfl⟩
  unfold enter
  rw [Crawling.apart_bind]
  exact (Crawling.makes_onServer (makes_ruleOf found)).bind fun rule => adds _

theorem makes_pendingBelow (i depth : Nat) (node : NodeId) :
    Makes anyRequest (max 1 browser.maxPages) (browser.pendingBelow i depth node)
      (Crawling.apart (browser.recorded.pendingBelow i depth node)) := by
  unfold pendingBelow
  rw [Crawling.apart_bind]
  exact (Crawling.makes_onServer ((makes_browse_any _ _).tolerate _)).bind fun below =>
    Crawling.makes_pure _

theorem makes_round (item : Pending) :
    Makes anyRequest (max 1 browser.maxPages + max 1 browser.maxPages)
      (browser.round ofVariableType maxDepth item)
      (Crawling.apart (browser.recorded.round ofVariableType maxDepth item)) := by
  obtain ⟨parent, found, depth⟩ := item
  unfold round
  rw [Crawling.apart_bind]
  apply (makes_enter parent found).bind
  intro i
  split
  · have branch (arena : Arena) : Makes anyRequest (max 1 browser.maxPages)
        (if arena.lineHas parent found.node then pure []
          else browser.pendingBelow i depth found.node)
        (Crawling.apart (if arena.lineHas parent found.node then pure []
          else browser.recorded.pendingBelow i depth found.node)) := by
      split
      · exact (Crawling.makes_pure []).mono (Nat.zero_le _)
      · exact makes_pendingBelow i depth found.node
    exact fun recorded => branch recorded.server.arena recorded
  · exact (Crawling.makes_pure []).mono (Nat.zero_le _)

theorem makes_enterFirst (rounds : Nat) (stack : List Pending) :
    Makes anyRequest (2 * rounds * max 1 browser.maxPages)
      (browser.enterFirst ofVariableType maxDepth rounds stack)
      (Crawling.apart (browser.recorded.enterFirst ofVariableType maxDepth rounds stack)) := by
  induction rounds generalizing stack with
  | zero => exact (Crawling.makes_pure stack).mono (Nat.zero_le _)
  | succ rounds ih =>
      cases stack with
      | nil => exact (Crawling.makes_pure []).mono (Nat.zero_le _)
      | cons item stack =>
          unfold enterFirst
          rw [Crawling.apart_bind]
          apply ((makes_round item).bind fun below => ih (below ++ stack)).mono
          rw [Nat.mul_add, Nat.add_mul]
          omega

theorem makes_discoverFirst (rounds : Nat) (base : NodeId) :
    Makes anyRequest ((2 * rounds + 1) * max 1 browser.maxPages)
      (browser.discoverFirst ofVariableType maxDepth rounds base)
      (Crawling.apart (browser.recorded.discoverFirst ofVariableType maxDepth rounds base)) := by
  have canonical : Makes anyRequest 0
      (Exchange.ofExcept (browser.namespaces.canonical base) : Crawling σ NodeId)
      (Crawling.apart (Exchange.ofExcept (browser.namespaces.canonical base))) := by
    apply Crawling.makes_nothing
    intro arena server requests
    refine ⟨browser.namespaces.canonical base, arena, ?_⟩
    cases browser.namespaces.canonical base with
    | ok root => exact ⟨rfl, rfl⟩
    | error cause => exact ⟨rfl, rfl⟩
  have adds (declaration : Declaration) : Makes anyRequest 0
      (Crawling.addRoot declaration : Crawling σ Nat)
      (Crawling.apart (Crawling.addRoot declaration)) :=
    Crawling.makes_nothing fun arena _ _ => ⟨.ok arena.size, arena.push none declaration, rfl, rfl⟩
  unfold discoverFirst
  simp only [Crawling.apart_bind]
  refine (canonical.bind fun root => (adds _).bind fun i =>
    (Crawling.makes_onServer (makes_browse_any _ _)).bind fun found =>
      makes_enterFirst rounds _).mono ?_
  rw [Nat.add_mul]
  omega

theorem makes_discover {arena : Arena} (recorded : Recorded σ) {base : NodeId}
    {answer : Except Error Unit} {new : Crawl σ}
    (ends : (browser.discover maxDepth base ofVariableType).result ⟨arena, recorded.server⟩ =
      (answer, new)) :
    ∃ made : List Request,
      made.length ≤ (2 * (new.arena.size - arena.size) + 1) * max 1 browser.maxPages ∧
      (browser.recorded.discover maxDepth base ofVariableType).result ⟨arena, recorded⟩ =
        (answer, ⟨new.arena, new.server, recorded.requests ++ made⟩) := by
  let rounds := new.arena.size - arena.size
  have first := result_discoverFirst rounds ends (by dsimp only; omega)
  obtain ⟨made, few, noted⟩ :=
    makes_discoverFirst rounds base ⟨⟨arena, recorded.server⟩, recorded.requests⟩
  rw [first] at noted
  rw [List.countP_true] at few
  exact ⟨made, few, result_discover_of_first (Crawling.result_of_apart noted)⟩

end Browser

/-! ## Every crawl -/

/-- A crawl with a depth bound of one at least ends on every server.  Cut off after any number of
rounds and then carried on it is the whole crawl, and nothing is left to carry on after as many
rounds as nodes have been found.  The number of requests is bounded by that of these nodes and by
the page bound.  Whatever the end is, each node of the arena lies within the depth bound, and one
with children does not have the id of any of its parents. -/
theorem discover_bounded {σ : Type} {maxDepth : Nat} (positive : 1 ≤ maxDepth) {arena : Arena}
    (crawled : arena.CrawledWithin maxDepth) (browser : Browser σ) (base : NodeId)
    (ofVariableType : Bool) (server : σ) :
    (∀ rounds, browser.discover maxDepth base ofVariableType =
      browser.discoverFirst ofVariableType maxDepth rounds base >>=
        browser.enterAll ofVariableType maxDepth) ∧
    ∃ answer new,
      (browser.discover maxDepth base ofVariableType).result ⟨arena, server⟩ = (answer, new) ∧
      (∀ rounds ≥ new.arena.size - arena.size,
        (browser.discoverFirst ofVariableType maxDepth rounds base).result ⟨arena, server⟩ =
          (answer.map fun _ => [], new)) ∧
      (∀ requests, ∃ made : List Request,
        made.length ≤ (2 * (new.arena.size - arena.size) + 1) * max 1 browser.maxPages ∧
        (browser.recorded.discover maxDepth base ofVariableType).result
            ⟨arena, ⟨server, requests⟩⟩ =
          (answer, ⟨new.arena, new.server, requests ++ made⟩)) ∧
      ∀ i node, new.arena.node? i = some node → ∃ above,
        new.arena.Lineage i (node.declaration.node :: above) ∧ above.length ≤ maxDepth ∧
          (node.children ≠ #[] → node.declaration.node ∉ above) := by
  refine ⟨fun rounds => (browser.discoverFirst_bind ofVariableType maxDepth rounds base).symm, ?_⟩
  have shallow := (crawled.discover browser base ofVariableType server).shallow positive
  cases ends : (browser.discover maxDepth base ofVariableType).result ⟨arena, server⟩ with
  | mk answer new =>
      rw [ends] at shallow
      refine ⟨answer, new, rfl, fun rounds enough => ?_, fun requests => ?_, shallow⟩
      · exact Browser.result_discoverFirst rounds ends (by dsimp only; omega)
      · exact Browser.makes_discover ⟨server, requests⟩ ends

/-! ### A server without an end -/

/-- A server on which there is a new type below every type, and the type itself once more. -/
def endlessTransport : Transport Nat where
  isConnected _ := true
  endpoints _ := pure []
  connect _ _ := pure ()
  disconnect := pure ()
  browse request := fun n => .ok { references := [
    { node := .standard (.ofNat n), nodeClass := 8 }, { node := request.node, nodeClass := 8 }] }
    (n + 1)
  browseNext _ := pure {}
  read _ := pure {}
  translate _ := pure {}
  subscribe _ _ := pure 0
  unsubscribe _ := pure ()

def endlessBrowser : Browser Nat := ⟨endlessTransport, .ofList [Standard.namespaceUri], 1⟩

theorem discover_bounded_endless :
    ∃ new, (endlessBrowser.discover 2 (Standard.node 58) false).result ⟨.empty, 100⟩ =
        (.ok (), new) ∧
      new.arena.size = 5 ∧ new.arena.Shallow 2 := by
  obtain ⟨-, answer, new, ends, -, -, shallow⟩ :=
    discover_bounded (show 1 ≤ 2 by decide) .empty endlessBrowser (Standard.node 58) false 100
  have first : ((endlessBrowser.discoverFirst false 2 5 (Standard.node 58)).result
      ⟨.empty, 100⟩).1.toOption.map List.length = some 0 := by decide +kernel
  have size : ((endlessBrowser.discoverFirst false 2 5 (Standard.node 58)).result
      ⟨.empty, 100⟩).2.arena.size = 5 := by decide +kernel
  cases cut : (endlessBrowser.discoverFirst false 2 5 (Standard.node 58)).result ⟨.empty, 100⟩ with
  | mk left after =>
      rw [cut] at first size
      cases left with
      | error cause => cases first
      | ok left =>
          obtain rfl := List.eq_nil_of_length_eq_zero (Option.some.inj first)
          have whole : (endlessBrowser.discover 2 (Standard.node 58) false).result ⟨.empty, 100⟩ =
              (.ok (), after) := Browser.result_discover_of_first cut
          rw [whole] at ends
          cases ends
          exact ⟨_, whole, size, shallow⟩

end AddressSpace
