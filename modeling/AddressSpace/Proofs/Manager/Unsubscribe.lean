import AddressSpace.Proofs.Manager.Calls
import AddressSpace.Proofs.Requests
import Mathlib.Data.List.Nodup

namespace AddressSpace
open Exchange

variable {σ : Type}

def Client.onRecord (client : Client σ) : Client (Recorded σ) :=
  ⟨client.transport.recorded, client.config⟩

def Session.Lacks (session : Session σ) (id : Guid) : Prop :=
  ∀ subscription ∈ session.subscriptions, subscription.id ≠ id

inductive Client.GivesUp (client : Client σ) (id : Guid) (session : Session (Recorded σ)) :
    Except Error Unit → Session (Recorded σ) → Prop
  | unknown (lacks : session.Lacks id) :
      GivesUp client id session (.error (NotFoundError.subscription (toString id))) session
  | bare {front back : List Subscription} {subscription : Subscription}
      (holds : session.Holds id front subscription back) (bare : subscription.item = none) :
      GivesUp client id session (.ok ()) { session with subscriptions := front ++ back }
  | ended {front back : List Subscription} {subscription : Subscription} {item : UInt32} {server : σ}
      (holds : session.Holds id front subscription back) (monitors : subscription.item = some item)
      (ends : client.transport.unsubscribe item session.server.server = .ok () server) :
      GivesUp client id session (.ok ()) { session with
        server := ⟨server, session.server.requests ++ [.unsubscribe item]⟩
        subscriptions := front ++ back }
  | refused {front back : List Subscription} {subscription : Subscription} {item : UInt32}
      {cause : Error} {server : σ}
      (holds : session.Holds id front subscription back) (monitors : subscription.item = some item)
      (refuses : client.transport.unsubscribe item session.server.server = .error cause server) :
      GivesUp client id session (.error cause) { session with
        server := ⟨server, session.server.requests ++ [.unsubscribe item]⟩
        subscriptions := front ++ back }

namespace Session

variable {session : Session σ} {id : Guid} {front back : List Subscription}
  {subscription : Subscription}

theorem Holds.not_lacks (holds : session.Holds id front subscription back) :
    ¬ session.Lacks id := by
  intro lacks
  refine lacks subscription ?_ holds.named
  rw [holds.subscriptions]
  exact List.mem_append_right front List.mem_cons_self

theorem Holds.left_ne (holds : session.Holds id front subscription back) :
    front ++ back ≠ session.subscriptions := by
  intro same
  have lengths := congrArg List.length same
  rw [holds.subscriptions, List.length_append, List.length_append, List.length_cons] at lengths
  omega

theorem Holds.left_eq_filter (holds : session.Holds id front subscription back)
    (distinct : (session.subscriptions.map (·.id)).Nodup) :
    front ++ back = session.subscriptions.filter (·.id ≠ id) := by
  rw [holds.subscriptions, List.map_append, List.map_cons] at distinct
  have once := (List.nodup_middle.1 distinct).notMem
  rw [holds.named, ← List.map_append] at once
  have apart : ∀ other ∈ front ++ back, decide (other.id ≠ id) = true := by
    intro other listed
    exact decide_eq_true fun same => once (List.mem_map.2 ⟨other, listed, same⟩)
  rw [holds.subscriptions, List.filter_append, List.filter_cons_of_neg (by simp [holds.named]),
    ← List.filter_append, List.filter_eq_self.2 apart]

theorem Lacks.eq_filter (lacks : session.Lacks id) :
    session.subscriptions = session.subscriptions.filter (·.id ≠ id) :=
  (List.filter_eq_self.2 fun subscription listed => decide_eq_true (lacks subscription listed)).symm

end Session

namespace Client

variable {client : Client σ} {id : Guid}

theorem unsubscribe_of_lacks {session : Session σ} (lacks : session.Lacks id) :
    client.unsubscribe id session =
      .error (NotFoundError.subscription (toString id)) session := by
  have missing : session.subscriptions.find? (·.id = id) = none :=
    List.find?_eq_none.2 fun subscription listed => by simpa using lacks subscription listed
  rw [unsubscribe_apply, missing]

theorem unsubscribe_givesUp (client : Client σ) (id : Guid) (session : Session (Recorded σ)) :
    let outcome := (client.onRecord.unsubscribe id).result session
    client.GivesUp id session outcome.1 outcome.2 := by
  unfold Exchange.result
  rw [unsubscribe_apply]
  cases found : session.subscriptions.find? (·.id = id) with
  | none =>
      exact .unknown fun subscription listed => by
        simpa using List.find?_eq_none.1 found subscription listed
  | some subscription =>
      obtain ⟨front, back, holds, left⟩ := Session.holds_of_find? found
      dsimp only
      rw [left]
      cases monitors : subscription.item with
      | none => exact .bare holds monitors
      | some item =>
          dsimp only
          cases asked : client.transport.unsubscribe item session.server.server with
          | ok done server =>
              have noted : client.onRecord.transport.unsubscribe item session.server =
                  .ok () ⟨server, session.server.requests ++ [.unsubscribe item]⟩ := within_ok asked
              rw [noted]
              exact .ended holds monitors asked
          | error cause server =>
              have noted : client.onRecord.transport.unsubscribe item session.server =
                  .error cause ⟨server, session.server.requests ++ [.unsubscribe item]⟩ :=
                within_error asked
              rw [noted]
              exact .refused holds monitors asked

section

variable {session new : Session (Recorded σ)} {ends : Except Error Unit}

theorem GivesUp.unchanged_iff {cause : Error} (givesUp : client.GivesUp id session ends new)
    (fails : ends = .error cause) :
    new.subscriptions = session.subscriptions ↔ session.Lacks id := by
  cases givesUp with
  | unknown lacks => exact iff_of_true rfl lacks
  | bare _ _ => cases fails
  | ended _ _ _ => cases fails
  | refused holds _ _ => exact iff_of_false holds.left_ne holds.not_lacks

theorem GivesUp.subscriptions (givesUp : client.GivesUp id session ends new)
    (distinct : (session.subscriptions.map (·.id)).Nodup) :
    new.subscriptions = session.subscriptions.filter (·.id ≠ id) := by
  cases givesUp with
  | unknown lacks => exact lacks.eq_filter
  | bare holds _ => exact holds.left_eq_filter distinct
  | ended holds _ _ => exact holds.left_eq_filter distinct
  | refused holds _ _ => exact holds.left_eq_filter distinct

end

/-- What an attempt to give up a subscription does, on the record.  One that fails changes the
subscriptions unless there was none to give up.  If no two subscriptions have the same id, none with
the id is left however the attempt ends, and a second attempt asks the server for nothing. -/
theorem unsubscribe_exact (client : Client σ) (id : Guid) (session : Session (Recorded σ)) :
    let outcome := (client.onRecord.unsubscribe id).result session
    client.GivesUp id session outcome.1 outcome.2 ∧
    (∀ cause, outcome.1 = .error cause →
      (outcome.2.subscriptions = session.subscriptions ↔ session.Lacks id)) ∧
    ((session.subscriptions.map (·.id)).Nodup →
      outcome.2.subscriptions = session.subscriptions.filter (·.id ≠ id) ∧
        (client.onRecord.unsubscribe id).result outcome.2 =
          (.error (NotFoundError.subscription (toString id)), outcome.2)) ∧
    ∀ manager : Manager (Recorded σ), manager.session = session →
      (client.onRecord.call (.unsubscribe id)).result manager =
        (outcome.1.map fun _ => .done, { manager with session := outcome.2 }) := by
  intro outcome
  have givesUp : client.GivesUp id session outcome.1 outcome.2 :=
    client.unsubscribe_givesUp id session
  refine ⟨givesUp, fun cause fails => givesUp.unchanged_iff fails, fun distinct => ?_, ?_⟩
  · have left := givesUp.subscriptions distinct
    refine ⟨left, result_eq_error.2 (unsubscribe_of_lacks fun subscription listed => ?_)⟩
    rw [left] at listed
    exact of_decide_eq_true (List.mem_filter.1 listed).2
  · rintro manager rfl
    exact result_call_unsubscribe id manager

end Client

/-- A server that keeps its items, whoever asks it to end them. -/
def keeperTransport : Transport (List UInt32) where
  isConnected _ := true
  endpoints _ := pure []
  connect _ _ := pure ()
  disconnect := pure ()
  browse _ := pure {}
  browseNext _ := pure {}
  read _ := pure {}
  translate _ := pure {}
  subscribe _ _ := fun items => .ok 7 (7 :: items)
  unsubscribe _ := Exchange.fail (.status "Unsubscribe" "7" .badTooManyOperations)

/-- The item of a subscription that is given up in vain stays, and nothing holds it any more. -/
theorem unsubscribe_not_atomic :
    let client : Client (List UInt32) := ⟨keeperTransport, .ofEndpoint "opc.tcp://keeper"⟩
    let subscription : Subscription := ⟨⟨1⟩, Standard.node 2258, ⟨0⟩, some 7⟩
    let session : Session (Recorded (List UInt32)) :=
      { server := ⟨[7], []⟩, subscriptions := [subscription] }
    let outcome := (client.onRecord.unsubscribe ⟨1⟩).result session
    (outcome.1 = .error (.status "Unsubscribe" "7" .badTooManyOperations) ∧
      outcome.2.subscriptions ≠ session.subscriptions) ∧
    outcome.2.server = ⟨[7], [.unsubscribe 7]⟩ ∧ outcome.2.subscriptions = [] ∧
    (client.onRecord.unsubscribe ⟨1⟩).result outcome.2 =
      (.error (NotFoundError.subscription (toString (⟨1⟩ : Guid))), outcome.2) := by
  refine ⟨⟨rfl, by decide⟩, rfl, rfl, rfl⟩

end AddressSpace
