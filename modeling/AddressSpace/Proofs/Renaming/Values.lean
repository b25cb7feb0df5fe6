import AddressSpace.Proofs.TypeLibrary.Agreement
import Std.Data.String.ToNat

namespace AddressSpace
open Exchange

variable {ρ : Equiv.Perm UInt16}

theorem WireId.toString_rename (zero : ρ 0 = 0) (id : WireId) :
    toString (id.rename ρ) = toString id ↔ ρ id.index = id.index := by
  constructor
  · intro same
    have chars : (id.rename ρ).toChars = id.toChars := String.ofList_injective same
    by_cases home : id.index = 0
    · rw [home, zero]
    · have away : ρ id.index ≠ 0 := fun moved => home (ρ.injective (moved.trans zero.symm))
      -- Both texts begin with an index and end with the same identifier.
      rw [toChars, toChars, if_neg home, rename, if_neg away] at chars
      injection chars with _ chars
      injection chars with _ chars
      injection chars with _ chars
      have digits := List.append_cancel_right chars
      exact UInt16.toNat_inj.1 (Nat.repr_injective (String.toList_injective digits))
  · intro kept
    rw [rename, kept]

namespace Value

mutual

def indices : Value → List UInt16
  | .nodeId id => [id.index]
  | .qualifiedName name => [name.index]
  | .array items => indicesOfAll items
  | _ => []

def indicesOfAll : List Value → List UInt16
  | [] => []
  | value :: rest => value.indices ++ indicesOfAll rest

end

mutual

theorem toJson_rename (zero : ρ 0 = 0) : (value : Value) →
    ((value.rename ρ).toJson = value.toJson ↔ ∀ index ∈ value.indices, ρ index = index)
  | .nodeId id => by
      rw [rename, toJson, toJson, Json.string.injEq, id.toString_rename zero, indices,
        List.forall_mem_singleton]
  | .qualifiedName name => by
      have numbers : Json.nat (ρ name.index).toNat = Json.nat name.index.toNat ↔
          ρ name.index = name.index := by
        rw [Json.nat, Json.nat, Json.int.injEq, Int.natCast_inj, UInt16.toNat_inj]
      rw [indices, List.forall_mem_singleton, ← numbers]
      simp [rename, WireName.rename, toJson]
  | .array items => by
      rw [rename, toJson, toJson, Json.array.injEq, indices, listToJson_renameAll zero items]
  | .empty | .boolean _ | .int32 _ | .uint32 _ | .int64 _ | .double _ | .string _ | .dateTime _
  | .guid _ | .byteString _ => by simp [rename, indices]

theorem listToJson_renameAll (zero : ρ 0 = 0) : (items : List Value) →
    (listToJson (renameAll ρ items) = listToJson items ↔
      ∀ index ∈ indicesOfAll items, ρ index = index)
  | [] => by simp [renameAll, indicesOfAll]
  | value :: rest => by
      rw [renameAll, listToJson, listToJson, List.cons.injEq, indicesOfAll, List.forall_mem_append,
        toJson_rename zero value, listToJson_renameAll zero rest]

end

end Value

theorem DataValue.toJson_rename (zero : ρ 0 = 0) (data : DataValue) :
    (data.rename ρ).toJson = data.toJson ↔
      data.status.isBad ∨ ∀ index ∈ data.value.indices, ρ index = index := by
  rw [toJson, toJson, rename]
  by_cases bad : data.status.isBad
  · rw [if_pos bad, if_pos bad]
    exact iff_of_true rfl (.inl bad)
  · rw [if_neg bad, if_neg bad, Value.toJson_rename zero, or_iff_right bad]

variable {σ τ : Type} {R : σ → τ → Prop}

theorem NamespaceTable.Renamed.mapM_encode {table table' : NamespaceTable}
    (renamed : NamespaceTable.Renamed ρ table table') (nodes : List NodeId) :
    nodes.mapM table'.encode = (nodes.mapM table.encode).map fun ids => ids.map (·.rename ρ) := by
  induction nodes with
  | nil => rfl
  | cons node rest ih =>
      rw [List.mapM_cons, List.mapM_cons, renamed.encode, ih]
      cases table.encode node with
      | error cause => rfl
      | ok id => cases rest.mapM table.encode <;> rfl

/-- What both servers say as JSON, which is the same just if no namespace index in a value of good
quality is renamed. -/
def RenamedValues (ρ : Equiv.Perm UInt16) (values values' : List Json) : Prop :=
  ∃ answers : List DataValue, values = answers.map (·.toJson) ∧
    values' = answers.map (fun data => (data.rename ρ).toJson) ∧
    (values' = values ↔ ∀ data ∈ answers, data.status.isBad ∨
      ∀ index ∈ data.value.indices, ρ index = index)

theorem renamedValues_map (zero : ρ 0 = 0) (answers : List DataValue) :
    RenamedValues ρ (answers.map (·.toJson)) (answers.map fun data => (data.rename ρ).toJson) := by
  refine ⟨answers, rfl, rfl, ?_⟩
  rw [List.map_inj_left]
  exact forall₂_congr fun data _ => data.toJson_rename zero

theorem Browser.Renamed.readValues {browser : Browser σ} {browser' : Browser τ}
    (renamed : Browser.Renamed ρ R browser browser') {nodes : List NodeId}
    (other : nodes.mapM browser.namespaces.encode ≠ .ok [.standard Standard.namespaceArray]) :
    Alike R (RenamedValues ρ) (browser.readValues nodes) (browser'.readValues nodes) := by
  unfold Browser.readValues
  rw [renamed.namespaces.mapM_encode]
  cases encoded : nodes.mapM browser.namespaces.encode with
  | error cause => exact alike_fail cause
  | ok ids =>
      let requests : List ReadRequest := ids.map fun node => { node }
      have elsewhere : requests ≠ arrayRequest := by
        intro same
        obtain ⟨node, rfl, alone⟩ := List.map_eq_singleton_iff.1 same
        obtain ⟨rfl, -⟩ := (ReadRequest.mk.injEq ..).mp alone
        exact other encoded
      have renamedRequests : (ids.map (·.rename ρ)).map (fun node => ({ node } : ReadRequest)) =
          requests.map (·.rename ρ) := by
        rw [List.map_map, List.map_map]
        rfl
      refine Alike.bind (V := fun a b => a = ids ∧ b = ids.map (·.rename ρ))
        (alike_ofExcept (.ok ⟨rfl, rfl⟩)) ?_
      rintro _ _ ⟨rfl, rfl⟩
      rw [renamedRequests]
      refine (renamed.transport.read requests elsewhere).bind fun answer answer' same => ?_
      subst same
      refine alike_ite (alike_fail _) ?_
      have counted : (answer.rename ρ).values.length = answer.values.length := List.length_map ..
      simp only [counted]
      refine alike_ite (alike_pure ?_) (alike_fail _)
      rw [ReadAnswer.rename, List.map_map]
      exact renamedValues_map renamed.namespaces.zero answer.values

namespace Client

variable {client : Client σ} {client' : Client τ}

theorem sameSession_rebuild
    (renamed : Transport.Renamed ρ R client.transport client'.transport)
    (sameConfig : client'.config = client.config) {config : Config} {session after : Session σ}
    {session' after' : Session τ} (related : R session.server session'.server) {count count' : Nat}
    (ends : client.rebuild config session = .ok count after)
    (ends' : client'.rebuild config session' = .ok count' after') :
    SameSession ρ R after after' := by
  obtain ⟨namespaces, between, arena, server, fetched, crawled, rfl, rfl⟩ := rebuild_eq_ok.1 ends
  obtain ⟨namespaces', between', arena', server', fetched', crawled', rfl, rfl⟩ :=
    rebuild_eq_ok.1 ends'
  have tables := renamed.fetch _ _ related
  rw [fetched, fetched'] at tables
  cases tables with
  | ok tables related =>
      have both := through_renamed renamed sameConfig tables
      have found := both.crawlTypes config.maxCrawlDepth.toNat _ _ related
      rw [crawled, crawled'] at found
      cases found with
      | ok same related => exact ⟨related, tables, rfl⟩

/-- In sessions that have been rebuilt, reading the values of the same nodes fails with the same
error, or succeeds with JSON that differs just if a namespace index in one of the values is
renamed. -/
theorem values_renamed (renamed : Transport.Renamed ρ R client.transport client'.transport)
    (sameConfig : client'.config = client.config) {config : Config} {session after : Session σ}
    {session' after' : Session τ} (related : R session.server session'.server) {count count' : Nat}
    (ends : client.rebuild config session = .ok count after)
    (ends' : client'.rebuild config session' = .ok count' after') {nodes : List NodeId}
    (other : nodes.mapM after.namespaces.encode ≠ .ok [.standard Standard.namespaceArray]) :
    SameEnd (SameSession ρ R) (RenamedValues ρ) (client.ask (·.readValues nodes) after)
      (client'.ask (·.readValues nodes) after') := by
  have same := sameSession_rebuild renamed sameConfig related ends ends'
  have browsers := through_renamed renamed sameConfig same.namespaces
  exact sameSession_onServer (browsers.readValues other) after after' same

def valueClient (own : UInt16) (uris : List String) : Client Unit where
  transport :=
    { pressTransport own uris with
      read requests := pure (
        if requests = arrayRequest then { values := [.good (.array (uris.map .string))] }
        else { values := requests.map fun _ => .good (.nodeId ⟨own, .number 7⟩) }) }
  config := .ofEndpoint "opc.tcp://press"

theorem renamed_value : Transport.Renamed (Equiv.swap 1 2) Eq
    (valueClient 1 ["ns0", "ns1", "ns2"]).transport
    (valueClient 2 ["ns0", "ns2", "ns1"]).transport := by
  refine { renamed_press with
    array := alike_pure ⟨rfl, .cons ⟨rfl, .array rfl rfl permuted_press⟩ .nil⟩
    read := fun requests other => alike_pure ?_ }
  rw [if_neg other, if_neg (map_rename_ne_arrayRequest permuted_press.zero other)]
  rw [ReadAnswer.rename, List.map_map, List.map_map]
  rfl

def valueNodes : List NodeId := [⟨"ns1", "i=5"⟩]

theorem rebuild_value {own : UInt16} {uris : List String}
    (known : own = 1 ∧ uris = ["ns0", "ns1", "ns2"] ∨ own = 2 ∧ uris = ["ns0", "ns2", "ns1"]) :
    ∃ after, (valueClient own uris).rebuild (.ofEndpoint "") freshSession = .ok 1 after ∧
      after.namespaces = .ofList uris := by
  have fetched : NamespaceTable.fetch (valueClient own uris).transport () =
      .ok (.ofList uris) () := by
    rcases known with ⟨rfl, rfl⟩ | ⟨rfl, rfl⟩ <;> rfl
  have counted : (((valueClient own uris).rebuild (.ofEndpoint "")).result
      freshSession).1.toOption = some 1 := by
    simp only [Exchange.result, rebuild_apply, Browser.crawlTypes, Browser.discover_eq_forM]
    rcases known with ⟨rfl, rfl⟩ | ⟨rfl, rfl⟩ <;> decide +kernel
  obtain ⟨after, ends⟩ := exists_eq_ok counted
  obtain ⟨namespaces, between, arena, server, fetched', crawled, -, rfl⟩ := rebuild_eq_ok.1 ends
  cases fetched.symm.trans fetched'
  exact ⟨_, ends, rfl⟩

theorem encode_valueNodes : valueNodes.mapM (NamespaceTable.ofList ["ns0", "ns1", "ns2"]).encode ≠
    .ok [.standard Standard.namespaceArray] := by
  have encoded : valueNodes.mapM (NamespaceTable.ofList ["ns0", "ns1", "ns2"]).encode =
      .ok [⟨1, .number 5⟩] := rfl
  intro same
  cases encoded.symm.trans same

theorem values_renamed_value : ∃ after after',
    (valueClient 1 ["ns0", "ns1", "ns2"]).rebuild (.ofEndpoint "") freshSession = .ok 1 after ∧
      (valueClient 2 ["ns0", "ns2", "ns1"]).rebuild (.ofEndpoint "") freshSession = .ok 1 after' ∧
      SameEnd (SameSession (Equiv.swap 1 2) Eq) (RenamedValues (Equiv.swap 1 2))
        ((valueClient 1 ["ns0", "ns1", "ns2"]).ask (·.readValues valueNodes) after)
        ((valueClient 2 ["ns0", "ns2", "ns1"]).ask (·.readValues valueNodes) after') := by
  obtain ⟨after, ends, known⟩ := rebuild_value (.inl ⟨rfl, rfl⟩)
  obtain ⟨after', ends', -⟩ := rebuild_value (.inr ⟨rfl, rfl⟩)
  exact ⟨after, after', ends, ends',
    values_renamed renamed_value rfl rfl ends ends' (known ▸ encode_valueNodes)⟩

/-- A node id keeps the namespace index of its session when it is read as a value. -/
theorem values_keep_indices : ¬ ∀ (ρ : Equiv.Perm UInt16) (R : Unit → Unit → Prop)
    (client client' : Client Unit) (config : Config) (session session' after after' : Session Unit)
    (count count' : Nat) (nodes : List NodeId),
    Transport.Renamed ρ R client.transport client'.transport → client'.config = client.config →
    R session.server session'.server →
    client.rebuild config session = .ok count after →
    client'.rebuild config session' = .ok count' after' →
    nodes.mapM after.namespaces.encode ≠ .ok [.standard Standard.namespaceArray] →
      ((client'.ask (·.readValues nodes)).result after').1 =
        ((client.ask (·.readValues nodes)).result after).1 := by
  intro always
  obtain ⟨⟨⟨⟩, _, _, _, _⟩, ends, rfl⟩ := rebuild_value (.inl ⟨rfl, rfl⟩)
  obtain ⟨⟨⟨⟩, _, _, _, _⟩, ends', rfl⟩ := rebuild_value (.inr ⟨rfl, rfl⟩)
  have same := always _ _ _ _ _ _ _ _ _ _ _ valueNodes renamed_value rfl rfl ends ends'
    encode_valueNodes
  have texts : [Json.string "ns=2;i=7"] = [Json.string "ns=1;i=7"] := Except.ok.inj same
  injection texts with text
  injection text with text
  exact absurd text (by decide)

end Client

end AddressSpace
