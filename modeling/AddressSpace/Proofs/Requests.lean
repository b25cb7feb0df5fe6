import AddressSpace.Proofs.Exchange

namespace AddressSpace

variable {σ α β : Type}

inductive Request
  | endpoints (url : String)
  | connect (endpoint : Endpoint) (options : SessionOptions)
  | disconnect
  | browse (request : BrowseRequest)
  | browseNext (point : ContinuationPoint)
  | read (requests : List ReadRequest)
  | translate (request : PathRequest)
  | subscribe (node : WireId) (listener : Listener)
  | unsubscribe (item : UInt32)

def Request.isBrowseNext : Request → Bool
  | browseNext _ => true
  | _ => false

structure Recorded (σ : Type) where
  server : σ
  requests : List Request := []

namespace Recorded

def put (server : σ) (recorded : Recorded σ) : Recorded σ := { recorded with server }

def note (request : Request) (recorded : Recorded σ) : Recorded σ :=
  { recorded with requests := recorded.requests ++ [request] }

def ask (request : Request) (exchange : Exchange σ α) : Exchange (Recorded σ) α :=
  fun recorded => exchange.within server put (recorded.note request)

end Recorded

def Transport.recorded (transport : Transport σ) : Transport (Recorded σ) where
  isConnected recorded := transport.isConnected recorded.server
  endpoints url := Recorded.ask (.endpoints url) (transport.endpoints url)
  connect endpoint options :=
    Recorded.ask (.connect endpoint options) (transport.connect endpoint options)
  disconnect := Recorded.ask .disconnect transport.disconnect
  browse request := Recorded.ask (.browse request) (transport.browse request)
  browseNext point := Recorded.ask (.browseNext point) (transport.browseNext point)
  read requests := Recorded.ask (.read requests) (transport.read requests)
  translate request := Recorded.ask (.translate request) (transport.translate request)
  subscribe node listener :=
    Recorded.ask (.subscribe node listener) (transport.subscribe node listener)
  unsubscribe item := Recorded.ask (.unsubscribe item) (transport.unsubscribe item)

namespace Exchange

/-- On the record a conversation makes at most `bound` requests of a kind, and otherwise it goes as
off the record. -/
def Makes (kind : Request → Bool) (bound : Nat) (exchange : Exchange σ α)
    (onRecord : Exchange (Recorded σ) α) : Prop :=
  ∀ recorded, ∃ made : List Request, made.countP kind ≤ bound ∧
    onRecord.result recorded = ((exchange.result recorded.server).1,
      ⟨(exchange.result recorded.server).2, recorded.requests ++ made⟩)

variable {kind : Request → Bool} {bound more : Nat}

theorem makes_ofExcept (x : Except Error α) :
    Makes kind 0 (ofExcept x : Exchange σ α) (ofExcept x) := by
  intro recorded
  refine ⟨[], Nat.le_refl 0, ?_⟩
  rw [List.append_nil]
  cases x <;> rfl

theorem makes_ask (request : Request) (exchange : Exchange σ α) :
    Makes kind (if kind request then 1 else 0) exchange (Recorded.ask request exchange) := by
  intro recorded
  refine ⟨[request], Nat.le_of_eq List.countP_singleton, ?_⟩
  show (exchange.within Recorded.server Recorded.put).result (recorded.note request) = _
  rw [result_within]
  rfl

theorem Makes.mono {exchange : Exchange σ α} {onRecord : Exchange (Recorded σ) α}
    (makes : Makes kind bound exchange onRecord) (less : bound ≤ more) :
    Makes kind more exchange onRecord := by
  intro recorded
  obtain ⟨made, few, ends⟩ := makes recorded
  exact ⟨made, Nat.le_trans few less, ends⟩

theorem Makes.bind {exchange : Exchange σ α} {onRecord : Exchange (Recorded σ) α}
    {next : α → Exchange σ β} {nextOnRecord : α → Exchange (Recorded σ) β}
    (first : Makes kind bound exchange onRecord)
    (goesOn : ∀ a, Makes kind more (next a) (nextOnRecord a)) :
    Makes kind (bound + more) (exchange >>= next) (onRecord >>= nextOnRecord) := by
  intro recorded
  obtain ⟨made, few, ends⟩ := first recorded
  unfold result at ends ⊢
  cases off : exchange recorded.server with
  | ok a server =>
      cases on : onRecord recorded <;> rw [off, on] at ends <;> cases ends
      obtain ⟨made', few', ends'⟩ := goesOn a ⟨server, recorded.requests ++ made⟩
      unfold result at ends'
      refine ⟨made ++ made', ?_, ?_⟩
      · rw [List.countP_append]
        exact Nat.add_le_add few few'
      · rw [bind_ok off, bind_ok on, ends', List.append_assoc]
  | error cause server =>
      cases on : onRecord recorded <;> rw [off, on] at ends <;> cases ends
      exact ⟨made, Nat.le_add_right_of_le few, by rw [bind_error off, bind_error on]⟩

theorem Makes.tolerate {exchange : Exchange σ α} {onRecord : Exchange (Recorded σ) α}
    (makes : Makes kind bound exchange onRecord) (fallback : α) :
    Makes kind bound (exchange.tolerate fallback) (onRecord.tolerate fallback) := by
  intro recorded
  obtain ⟨made, few, ends⟩ := makes recorded
  refine ⟨made, few, ?_⟩
  rw [result_tolerate, result_tolerate, ends]

theorem Makes.result_eq {exchange : Exchange σ α} {onRecord : Exchange (Recorded σ) α}
    (makes : Makes kind bound exchange onRecord) (recorded : Recorded σ) :
    exchange.result recorded.server =
      ((onRecord.result recorded).1, (onRecord.result recorded).2.server) := by
  obtain ⟨made, -, ends⟩ := makes recorded
  rw [ends]

theorem result_ask_ofExcept (request : Request) (exchange : Exchange σ α)
    (read : α → Except Error β) (recorded : Recorded σ) :
    (Recorded.ask request exchange >>= fun a => ofExcept (read a)).result recorded =
      (((exchange >>= fun a => ofExcept (read a)).result recorded.server).1,
        ⟨((exchange >>= fun a => ofExcept (read a)).result recorded.server).2,
          recorded.requests ++ [request]⟩) := by
  unfold result
  cases asked : exchange recorded.server with
  | ok a new =>
      have noted : Recorded.ask request exchange recorded =
          .ok a ⟨new, recorded.requests ++ [request]⟩ := within_ok asked
      rw [bind_ok asked, bind_ok noted]
      cases read a <;> rfl
  | error cause new =>
      have noted : Recorded.ask request exchange recorded =
          .error cause ⟨new, recorded.requests ++ [request]⟩ := within_error asked
      rw [bind_error asked, bind_error noted]

end Exchange

end AddressSpace
