import AddressSpace.Crawl

/-!
# Laws of conversations

How a conversation runs step by step, and when two conversations with different servers are *alike*:
started in related states they end in the same way, with related answers and in related states.
-/

namespace AddressSpace.Exchange

variable {σ τ α β γ δ : Type}

@[simp] theorem pure_apply (a : α) (state : σ) : (pure a : Exchange σ α) state = .ok a state := rfl

@[simp] theorem get_apply (state : σ) : (get : Exchange σ σ) state = .ok state state := rfl

@[simp] theorem modify_apply (change : σ → σ) (state : σ) :
    (modify change : Exchange σ Unit) state = .ok () (change state) := rfl

@[simp] theorem fail_apply (cause : Error) (state : σ) :
    (fail cause : Exchange σ α) state = .error cause state := rfl

@[simp] theorem ofExcept_ok (a : α) (state : σ) :
    (ofExcept (.ok a) : Exchange σ α) state = .ok a state := rfl

@[simp] theorem ofExcept_error (cause : Error) (state : σ) :
    (ofExcept (.error cause) : Exchange σ α) state = .error cause state := rfl

theorem ofExcept_eq_ok {x : Except Error α} {a : α} {state new : σ}
    (ends : (ofExcept x : Exchange σ α) state = .ok a new) : x = .ok a ∧ new = state := by
  cases x with
  | ok b => cases ends; exact ⟨rfl, rfl⟩
  | error cause => cases ends

theorem bind_ok {exchange : Exchange σ α} {state new : σ} {a : α}
    (ends : exchange state = .ok a new) (next : α → Exchange σ β) :
    (exchange >>= next) state = next a new := by
  simp only [bind, EStateM.bind, ends]

theorem bind_error {exchange : Exchange σ α} {state new : σ} {cause : Error}
    (ends : exchange state = .error cause new) (next : α → Exchange σ β) :
    (exchange >>= next) state = .error cause new := by
  simp only [bind, EStateM.bind, ends]

theorem bind_congr_state {exchange : Exchange σ α} {exchange' : Exchange σ α} {state state' : σ}
    (same : exchange state = exchange' state') (next : α → Exchange σ β) :
    (exchange >>= next) state = (exchange' >>= next) state' := by
  simp only [bind, EStateM.bind, same]

@[simp] theorem fail_bind (cause : Error) (next : α → Exchange σ β) :
    (fail cause >>= next : Exchange σ β) = fail cause := rfl

theorem within_ok {part : τ → σ} {put : σ → τ → τ} {exchange : Exchange σ α} {whole : τ} {a : α}
    {new : σ} (ends : exchange (part whole) = .ok a new) :
    exchange.within part put whole = .ok a (put new whole) := by
  rw [within, ends]

theorem within_error {part : τ → σ} {put : σ → τ → τ} {exchange : Exchange σ α} {whole : τ}
    {cause : Error} {new : σ} (ends : exchange (part whole) = .error cause new) :
    exchange.within part put whole = .error cause (put new whole) := by
  rw [within, ends]

theorem bind_eq_ok {exchange : Exchange σ α} {next : α → Exchange σ β} {state last : σ} {b : β}
    (ends : (exchange >>= next) state = .ok b last) :
    ∃ a new, exchange state = .ok a new ∧ next a new = .ok b last := by
  cases first : exchange state with
  | ok a new => exact ⟨a, new, rfl, by rwa [bind_ok first] at ends⟩
  | error cause new => rw [bind_error first] at ends; cases ends

theorem bind_except_eq_ok {x : Except Error α} {f : α → Except Error β} {b : β}
    (ends : (x >>= f) = .ok b) : ∃ a, x = .ok a ∧ f a = .ok b := by
  cases x with
  | ok a => exact ⟨a, rfl, ends⟩
  | error cause => cases ends

theorem result_eq_ok {exchange : Exchange σ α} {state new : σ} {a : α} :
    exchange.result state = (.ok a, new) ↔ exchange state = .ok a new := by
  unfold result
  cases exchange state <;> simp

theorem exists_eq_ok {exchange : Exchange σ α} {state : σ} {a : α}
    (answered : (exchange.result state).1.toOption = some a) :
    ∃ new, exchange state = .ok a new := by
  unfold result at answered
  cases ends : exchange state with
  | ok b new =>
      rw [ends] at answered
      obtain rfl := Option.some.inj answered
      exact ⟨new, rfl⟩
  | error cause new =>
      rw [ends] at answered
      cases answered

theorem result_eq_error {exchange : Exchange σ α} {state new : σ} {cause : Error} :
    exchange.result state = (.error cause, new) ↔ exchange state = .error cause new := by
  unfold result
  cases exchange state <;> simp

theorem result_bind_ok {exchange : Exchange σ α} {state new : σ} {a : α}
    (ends : exchange.result state = (.ok a, new)) (next : α → Exchange σ β) :
    (exchange >>= next).result state = (next a).result new := by
  unfold result
  rw [bind_ok (result_eq_ok.1 ends)]

theorem result_bind_error {exchange : Exchange σ α} {state new : σ} {cause : Error}
    (ends : exchange.result state = (.error cause, new)) (next : α → Exchange σ β) :
    (exchange >>= next).result state = (.error cause, new) :=
  result_eq_error.2 (bind_error (result_eq_error.1 ends) next)

theorem result_bind_pure (exchange : Exchange σ α) (f : α → β) (state : σ) :
    (do pure (f (← exchange)) : Exchange σ β).result state =
      ((exchange.result state).1.map f, (exchange.result state).2) := by
  unfold result
  simp only [bind, EStateM.bind]
  cases exchange state <;> rfl

theorem result_ofExcept_bind_pure (x : Except Error α) (f : α → β) (state : σ) :
    (do pure (f (← ofExcept x)) : Exchange σ β).result state = (x.map f, state) := by
  cases x <;> rfl

theorem result_within (part : τ → σ) (put : σ → τ → τ) (exchange : Exchange σ α) (whole : τ) :
    (exchange.within part put).result whole =
      ((exchange.result (part whole)).1, put (exchange.result (part whole)).2 whole) := by
  unfold result within
  cases exchange (part whole) <;> rfl

theorem result_tolerate (exchange : Exchange σ α) (fallback : α) (state : σ) :
    (exchange.tolerate fallback).result state =
      (match (exchange.result state).1 with
        | .ok a => .ok a
        | .error cause => if cause.isConnection then .error cause else .ok fallback,
        (exchange.result state).2) := by
  unfold result tolerate
  cases exchange state with
  | ok a new => rfl
  | error cause new => cases lost : cause.isConnection <;> simp [lost]

inductive EndsIn (P : σ → Prop) (E : Error → Prop) : EStateM.Result Error σ α → Prop
  | ok {a s} (kept : P s) : EndsIn P E (.ok a s)
  | error {cause s} (allowed : E cause) (kept : P s) : EndsIn P E (.error cause s)

theorem EndsIn.imp {P Q : σ → Prop} {E : Error → Prop} {result : EStateM.Result Error σ α}
    (implied : ∀ state, P state → Q state) (ends : EndsIn P E result) : EndsIn Q E result := by
  cases ends with
  | ok kept => exact .ok (implied _ kept)
  | error allowed kept => exact .error allowed (implied _ kept)

def Keeps (P : σ → Prop) (E : Error → Prop) (exchange : Exchange σ α) : Prop :=
  ∀ state, P state → EndsIn P E (exchange state)

section Keeps

variable {P : σ → Prop} {E : Error → Prop}

theorem keeps_pure (a : α) : Keeps P E (pure a : Exchange σ α) := fun _ kept => .ok kept

theorem keeps_get : Keeps P E (get : Exchange σ σ) := fun _ kept => .ok kept

theorem keeps_modify {change : σ → σ} (keeps : ∀ state, P state → P (change state)) :
    Keeps P E (modify change : Exchange σ Unit) := fun state kept => .ok (keeps state kept)

theorem keeps_fail {cause : Error} (allowed : E cause) : Keeps P E (fail cause : Exchange σ α) :=
  fun _ kept => .error allowed kept

theorem keeps_ofExcept {x : Except Error α} (allowed : ∀ cause, x = .error cause → E cause) :
    Keeps P E (ofExcept x : Exchange σ α) := by
  cases x with
  | ok a => exact keeps_pure a
  | error cause => exact keeps_fail (allowed cause rfl)

theorem keeps_ite {c : Prop} [Decidable c] {x y : Exchange σ α} (yes : Keeps P E x)
    (no : Keeps P E y) : Keeps P E (if c then x else y) := by
  split
  · exact yes
  · exact no

theorem Keeps.bind {exchange : Exchange σ α} {next : α → Exchange σ β} (first : Keeps P E exchange)
    (goesOn : ∀ a, Keeps P E (next a)) : Keeps P E (exchange >>= next) := by
  intro state kept
  have ends := first state kept
  cases same : exchange state with
  | ok a new =>
      rw [same] at ends
      cases ends with
      | ok kept' =>
          rw [bind_ok same]
          exact goesOn a new kept'
  | error cause new =>
      rw [same] at ends
      cases ends with
      | error allowed kept' =>
          rw [bind_error same]
          exact .error allowed kept'

theorem Keeps.result {exchange : Exchange σ α} (keeps : Keeps P E exchange) {state : σ}
    (kept : P state) : P (exchange.result state).2 := by
  have ends := keeps state kept
  unfold Exchange.result
  generalize exchange state = result at ends
  cases ends with
  | ok kept' => exact kept'
  | error _ kept' => exact kept'

theorem keeps_of_result {exchange : Exchange σ α}
    (kept : ∀ state, P state → P (exchange.result state).2) :
    Keeps P (fun _ => True) exchange := by
  intro state before
  have after := kept state before
  unfold Exchange.result at after
  generalize exchange state = result at after
  cases result with
  | ok a new => exact .ok after
  | error cause new => exact .error trivial after

theorem keeps_true (exchange : Exchange σ α) : Keeps (fun _ => True) (fun _ => True) exchange :=
  keeps_of_result fun _ _ => trivial

theorem keeps_forM {f : α → Exchange σ Unit} (each : ∀ a, Keeps P E (f a)) :
    (as : List α) → Keeps P E (as.forM f)
  | [] => keeps_pure ()
  | a :: rest => (each a).bind fun _ => keeps_forM each rest

theorem keeps_mapM {f : α → Exchange σ β} (each : ∀ a, Keeps P E (f a)) :
    (as : List α) → Keeps P E (as.mapM f)
  | [] => keeps_pure []
  | a :: rest => by
      rw [List.mapM_cons]
      exact (each a).bind fun b => (keeps_mapM each rest).bind fun bs => keeps_pure (b :: bs)

theorem Keeps.bind_congr {exchange : Exchange σ α} (keeps : Keeps P E exchange) {state : σ}
    (kept : P state) {next next' : α → Exchange σ β}
    (same : ∀ a new, P new → next a new = next' a new) :
    (exchange >>= next) state = (exchange >>= next') state := by
  have ends := keeps state kept
  cases first : exchange state with
  | ok a new =>
      rw [first] at ends
      cases ends with
      | ok kept' =>
          rw [bind_ok first, bind_ok first]
          exact same a new kept'
  | error cause new => rw [bind_error first, bind_error first]

theorem keeps_forM_congr {f g : α → Exchange σ Unit} (each : ∀ a, Keeps P E (g a))
    (same : ∀ a state, P state → f a state = g a state) (as : List α) {state : σ} (kept : P state) :
    as.forM f state = as.forM g state := by
  induction as generalizing state with
  | nil => rfl
  | cons a rest ih =>
      show (f a >>= fun _ => rest.forM f) state = (g a >>= fun _ => rest.forM g) state
      rw [bind_congr_state (same a state kept)]
      exact (each a).bind_congr kept fun _ new kept' => ih kept'

theorem Keeps.within {Q : τ → Prop} {part : τ → σ} {put : σ → τ → τ} {exchange : Exchange σ α}
    (keeps : Keeps P E exchange) (parts : ∀ whole, Q whole → P (part whole))
    (wholes : ∀ whole, Q whole → ∀ new, P new → Q (put new whole)) :
    Keeps Q E (exchange.within part put) := by
  intro whole kept
  have ends := keeps (part whole) (parts whole kept)
  unfold Exchange.within
  generalize exchange (part whole) = result at ends
  cases ends with
  | ok kept' => exact .ok (wholes whole kept _ kept')
  | error allowed kept' => exact .error allowed (wholes whole kept _ kept')

theorem Keeps.tolerate {exchange : Exchange σ α} (keeps : Keeps P E exchange) (fallback : α) :
    Keeps P E (exchange.tolerate fallback) := by
  intro state kept
  have ends := keeps state kept
  unfold Exchange.tolerate
  generalize exchange state = result at ends
  cases ends with
  | ok kept' => exact .ok kept'
  | error allowed kept' =>
      dsimp only
      split
      · exact .error allowed kept'
      · exact .ok kept'

end Keeps

inductive SameEnd (R : σ → τ → Prop) (V : α → β → Prop) :
    EStateM.Result Error σ α → EStateM.Result Error τ β → Prop
  | ok {a b s t} : V a b → R s t → SameEnd R V (.ok a s) (.ok b t)
  | error {cause s t} : R s t → SameEnd R V (.error cause s) (.error cause t)

/-- Conversations that end alike whenever they start in related states. -/
def Alike (R : σ → τ → Prop) (V : α → β → Prop) (x : Exchange σ α) (y : Exchange τ β) : Prop :=
  ∀ s t, R s t → SameEnd R V (x s) (y t)

inductive Agree (V : α → β → Prop) : Except Error α → Except Error β → Prop
  | ok {a b} (same : V a b) : Agree V (.ok a) (.ok b)
  | error (cause) : Agree V (.error cause) (.error cause)

variable {R : σ → τ → Prop} {V : α → β → Prop} {W : γ → δ → Prop}

theorem agree_rfl (x : Except Error α) : Agree Eq x x := by
  cases x with
  | ok a => exact .ok rfl
  | error cause => exact .error cause

theorem agree_map (f : α → β) (x : Except Error α) : Agree (fun a b => b = f a) x (x.map f) := by
  cases x with
  | ok a => exact .ok rfl
  | error cause => exact .error cause

theorem alike_refl (x : Exchange σ α) : Alike Eq Eq x x := by
  rintro s _ rfl
  cases x s with
  | ok a new => exact .ok rfl rfl
  | error cause new => exact .error rfl

theorem alike_pure {a : α} {b : β} (same : V a b) :
    Alike R V (pure a : Exchange σ α) (pure b : Exchange τ β) :=
  fun _ _ related => .ok same related

theorem alike_fail (cause : Error) :
    Alike R V (fail cause : Exchange σ α) (fail cause : Exchange τ β) :=
  fun _ _ related => .error related

theorem Alike.bind {x : Exchange σ α} {y : Exchange τ β} {f : α → Exchange σ γ}
    {g : β → Exchange τ δ} (first : Alike R V x y)
    (next : ∀ a b, V a b → Alike R W (f a) (g b)) : Alike R W (x >>= f) (y >>= g) := by
  intro s t related
  have ends := first s t related
  cases hx : x s <;> cases hy : y t <;> rw [hx, hy] at ends <;> cases ends
  · rename_i same related'
    rw [bind_ok hx, bind_ok hy]
    exact next _ _ same _ _ related'
  · rename_i related'
    rw [bind_error hx, bind_error hy]
    exact .error related'

theorem alike_ofExcept {x : Except Error α} {y : Except Error β} (same : Agree V x y) :
    Alike R V (ofExcept x : Exchange σ α) (ofExcept y : Exchange τ β) := by
  cases same with
  | ok same => exact alike_pure same
  | error cause => exact alike_fail cause

theorem alike_ite {c : Prop} [Decidable c] {x x' : Exchange σ α} {y y' : Exchange τ β}
    (yes : Alike R V x y) (no : Alike R V x' y') :
    Alike R V (if c then x else x') (if c then y else y') := by
  split
  · exact yes
  · exact no

theorem alike_get : Alike R R (get : Exchange σ σ) (get : Exchange τ τ) :=
  fun _ _ related => .ok related related

theorem alike_modify {f : σ → σ} {g : τ → τ} (kept : ∀ s t, R s t → R (f s) (g t)) :
    Alike R Eq (modify f : Exchange σ Unit) (modify g) :=
  fun s t related => .ok rfl (kept s t related)

theorem alike_forM {f : α → Exchange σ Unit} {g : α → Exchange τ Unit}
    (each : ∀ a, Alike R Eq (f a) (g a)) (as : List α) : Alike R Eq (as.forM f) (as.forM g) := by
  induction as with
  | nil => exact alike_pure rfl
  | cons a rest ih => exact (each a).bind fun _ _ _ => ih

theorem Alike.within {σ' τ' : Type} {R' : σ' → τ' → Prop} {part : σ' → σ} {put : σ → σ' → σ'}
    {part' : τ' → τ} {put' : τ → τ' → τ'} {x : Exchange σ α} {y : Exchange τ β}
    (alike : Alike R V x y) (parts : ∀ s t, R' s t → R (part s) (part' t))
    (wholes : ∀ s t, R' s t → ∀ p q, R p q → R' (put p s) (put' q t)) :
    Alike R' V (x.within part put) (y.within part' put') := by
  intro s t related
  have ends := alike _ _ (parts s t related)
  unfold Exchange.within
  cases hx : x (part s) <;> cases hy : y (part' t) <;> rw [hx, hy] at ends <;> cases ends
  · rename_i same related'
    exact .ok same (wholes s t related _ _ related')
  · rename_i related'
    exact .error (wholes s t related _ _ related')

theorem Alike.tolerate {a : α} {b : β} {x : Exchange σ α} {y : Exchange τ β}
    (alike : Alike R V x y) (same : V a b) : Alike R V (x.tolerate a) (y.tolerate b) := by
  intro s t related
  have ends := alike s t related
  unfold Exchange.tolerate
  cases hx : x s <;> cases hy : y t <;> rw [hx, hy] at ends <;> cases ends
  · rename_i same' related'
    exact .ok same' related'
  · rename_i cause _ _ related'
    dsimp only
    split
    · exact .error related'
    · exact .ok same related'

end AddressSpace.Exchange
