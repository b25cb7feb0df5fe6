import AddressSpace.Proofs.NamespaceTable.RoundTrip
import AddressSpace.Proofs.Session

namespace AddressSpace
open Exchange

variable {σ : Type}

namespace NamespaceTable

theorem idxOf?_eq_some_iff_take {uris : List String} {uri : String} {i : Nat} :
    uris.idxOf? uri = some i ↔ uris[i]? = some uri ∧ uri ∉ uris.take i := by
  rw [List.idxOf?_eq_some_iff]
  constructor
  · rintro ⟨inside, rfl, first⟩
    refine ⟨List.getElem?_eq_getElem inside, fun before => ?_⟩
    obtain ⟨j, earlier, same⟩ := List.mem_take_iff_getElem.1 before
    exact first j (by omega) same
  · rintro ⟨there, first⟩
    obtain ⟨inside, same⟩ := List.getElem?_eq_some_iff.1 there
    refine ⟨inside, same, fun j earlier same' => first ?_⟩
    exact List.mem_take_iff_getElem.2 ⟨j, by omega, same'⟩

theorem Lists.indices_eq_some_iff {table : NamespaceTable} {uris : List String}
    (lists : table.Lists uris) (room : uris.length ≤ capacity) {uri : String} {index : UInt16} :
    table.indices[uri]? = some index ↔ table.uris[index]? = some uri := by
  rw [lists.indices, lists.uris, Option.map_eq_some_iff]
  constructor
  · rintro ⟨i, listed, rfl⟩
    have inside := (List.idxOf?_eq_some_iff.1 listed).1
    have same : (UInt16.ofNat i).toNat = i :=
      UInt16.toNat_ofNat_of_lt (Nat.lt_of_lt_of_le inside room)
    rw [listed, same]
  · intro listed
    exact ⟨index.toNat, listed, UInt16.ofNat_toNat⟩

theorem getElem?_uris_ofList (uris : List String) (i : Nat) (uri : String) :
    (∃ index : UInt16, index.toNat = i ∧ (ofList uris).uris[index]? = some uri) ↔
      i < capacity ∧ uris[i]? = some uri ∧ uri ∉ uris.take i := by
  have listed (index : UInt16) : (ofList uris).uris[index]? = some uri ↔
      uris[index.toNat]? = some uri ∧ uri ∉ uris.take index.toNat := by
    have small : index.toNat < capacity := index.toNat_lt
    rw [(lists_ofList uris).uris, idxOf?_eq_some_iff_take, List.getElem?_take_of_lt small,
      List.take_take, Nat.min_eq_left (Nat.le_of_lt small)]
  constructor
  · rintro ⟨index, rfl, there⟩
    exact ⟨index.toNat_lt, (listed index).1 there⟩
  · rintro ⟨small, there⟩
    have same : (UInt16.ofNat i).toNat = i := UInt16.toNat_ofNat_of_lt small
    refine ⟨UInt16.ofNat i, same, (listed _).2 ?_⟩
    rwa [same]

theorem nodup_toList (uris : List String) : (ofList uris).toList.Nodup := by
  have distinct := Std.TreeMap.distinct_keys_toList (t := (ofList uris).uris)
  refine List.pairwise_map.2 (distinct.imp_of_mem fun listed listed' different same => ?_)
  -- Two entries with one URI would be two places where it stands first.
  have there := Std.TreeMap.mem_toList_iff_getElem?_eq_some.1 listed
  have there' := Std.TreeMap.mem_toList_iff_getElem?_eq_some.1 listed'
  rw [(lists_ofList uris).uris] at there there'
  rw [same, there'] at there
  exact different (Std.compare_eq_iff_eq.2 (UInt16.toNat_inj.1 (Option.some.inj there).symm))

theorem map_uriAt_keys (table : NamespaceTable) :
    table.uris.keys.map table.uriAt = table.toList.map .ok := by
  rw [toList, ← Std.TreeMap.map_fst_toList_eq_keys, List.map_map, List.map_map]
  refine List.map_congr_left fun entry listed => ?_
  exact uriAt_eq_ok_iff.2 (Std.TreeMap.mem_toList_iff_getElem?_eq_some.1 listed)

theorem pairwise_keys (table : NamespaceTable) : table.uris.keys.Pairwise (· < ·) :=
  (Std.TreeMap.ordered_keys (t := table.uris)).imp fun less => compareOfLessAndEq_eq_lt.1 less

end NamespaceTable

def Transport.Announces (transport : Transport σ) (server : σ) (uris : List String) (new : σ) :
    Prop :=
  ∃ answer data,
    transport.read [{ node := .standard Standard.namespaceArray }] server = .ok answer new ∧
      answer.status.isBad = false ∧ answer.values = [data] ∧ data.status.isBad = false ∧
      data.value = .array (uris.map .string)

inductive Transport.Withholds (transport : Transport σ) (server : σ) : Error → σ → Prop
  | unanswered {cause new}
      (fails : transport.read [{ node := .standard Standard.namespaceArray }] server =
        .error cause new) :
      Withholds transport server cause new
  | badCall {answer new}
      (answers : transport.read [{ node := .standard Standard.namespaceArray }] server =
        .ok answer new)
      (bad : answer.status.isBad) :
      Withholds transport server (.status "Read" "i=2255" answer.status) new
  | badCount {answer new}
      (answers : transport.read [{ node := .standard Standard.namespaceArray }] server =
        .ok answer new)
      (good : answer.status.isBad = false) (count : answer.values.length ≠ 1) :
      Withholds transport server
        (SchemaError.unexpectedResultCount "Read" 1 answer.values.length) new
  | badValue {answer new data}
      (answers : transport.read [{ node := .standard Standard.namespaceArray }] server =
        .ok answer new)
      (good : answer.status.isBad = false) (single : answer.values = [data])
      (bad : data.status.isBad) :
      Withholds transport server (.status "Read" "i=2255" data.status) new
  | noStrings {answer new data}
      (answers : transport.read [{ node := .standard Standard.namespaceArray }] server =
        .ok answer new)
      (good : answer.status.isBad = false) (single : answer.values = [data])
      (good' : data.status.isBad = false)
      (other : ∀ uris : List String, data.value ≠ .array (uris.map .string)) :
      Withholds transport server
        (SchemaError.unexpectedValueType "i=2255" "String[]" data.value.typeName) new

theorem NamespaceTable.fetch_cases (transport : Transport σ) (server : σ) :
    (∃ uris new, transport.Announces server uris new ∧
      fetch transport server = .ok (ofList uris) new) ∨
    ∃ cause new, transport.Withholds server cause new ∧
      fetch transport server = .error cause new := by
  have node : toString (WireId.standard Standard.namespaceArray) = "i=2255" := by decide +kernel
  unfold fetch
  rw [node]
  cases asked : transport.read [{ node := .standard Standard.namespaceArray }] server with
  | error cause new => exact .inr ⟨cause, new, .unanswered asked, bind_error asked _⟩
  | ok answer new =>
      rw [bind_ok asked]
      unfold ReadAnswer.single
      cases call : answer.status.isBad with
      | true => exact .inr ⟨_, new, .badCall asked call, rfl⟩
      | false =>
          rw [if_neg Bool.false_ne_true]
          split
          case h_1 data single =>
            cases quality : data.status.isBad with
            | true => exact .inr ⟨_, new, .badValue asked call single quality, rfl⟩
            | false =>
                rw [if_neg Bool.false_ne_true, bind_ok (ofExcept_ok _ _), ofValue]
                cases read : data.value.strings? with
                | some uris =>
                    refine .inl ⟨uris, new, ⟨answer, data, asked, call, single, quality, ?_⟩, rfl⟩
                    exact Value.strings?_eq_some_iff.1 read
                | none =>
                    refine .inr ⟨_, new, .noStrings asked call single quality fun uris same => ?_,
                      rfl⟩
                    rw [Value.strings?_eq_some_iff.2 same] at read
                    cases read
          case h_2 several =>
            refine .inr ⟨_, new, .badCount asked call fun single => ?_, rfl⟩
            obtain ⟨data, single⟩ := List.length_eq_one_iff.1 single
            exact several data single

structure Tabled (σ : Type) where
  table : NamespaceTable
  server : σ

inductive Upkeep (σ : Type)
  | replace (uris : List String)
  | refresh (transport : Transport σ)
  | clear

def Upkeep.run : Upkeep σ → Exchange (Tabled σ) Unit
  | replace uris => modify fun tabled => { tabled with table := .ofList uris }
  | refresh transport => do
    let table ← (NamespaceTable.fetch transport).within (·.server) fun server tabled =>
      { tabled with server }
    modify fun tabled => { tabled with table }
  | clear => modify fun tabled => { tabled with table := .empty }

namespace Upkeep

theorem refresh_run_of_ok {transport : Transport σ} {tabled : Tabled σ} {table : NamespaceTable}
    {new : σ} (fetches : NamespaceTable.fetch transport tabled.server = .ok table new) :
    (refresh transport).run tabled = .ok () ⟨table, new⟩ :=
  bind_ok (within_ok fetches) _

theorem refresh_run_of_error {transport : Transport σ} {tabled : Tabled σ} {cause : Error}
    {new : σ} (fetches : NamespaceTable.fetch transport tabled.server = .error cause new) :
    (refresh transport).run tabled = .error cause ⟨tabled.table, new⟩ :=
  bind_error (within_error fetches) _

theorem table_run (change : Upkeep σ) {tabled : Tabled σ}
    (listed : ∃ uris, tabled.table = .ofList uris) :
    ∃ uris, (change.run.result tabled).2.table = .ofList uris := by
  cases change with
  | replace uris => exact ⟨uris, rfl⟩
  | clear => exact ⟨[], rfl⟩
  | refresh transport =>
      rcases NamespaceTable.fetch_cases transport tabled.server with
        ⟨uris, new, -, fetches⟩ | ⟨cause, new, -, fetches⟩
      · rw [result_eq_ok.2 (refresh_run_of_ok fetches)]
        exact ⟨uris, rfl⟩
      · rw [result_eq_error.2 (refresh_run_of_error fetches)]
        exact listed

def runAll (changes : List (Upkeep σ)) (tabled : Tabled σ) : Tabled σ :=
  changes.foldl (fun tabled change => (change.run.result tabled).2) tabled

theorem table_runAll (changes : List (Upkeep σ)) {tabled : Tabled σ}
    (listed : ∃ uris, tabled.table = .ofList uris) :
    ∃ uris, (runAll changes tabled).table = .ofList uris := by
  induction changes generalizing tabled with
  | nil => exact listed
  | cons change rest ih => exact ih (change.table_run listed)

end Upkeep

theorem Client.namespaces_rebuild (client : Client σ) (config : Config) (session : Session σ) :
    ((client.rebuild config).result session).2.namespaces =
      ((Upkeep.refresh client.transport).run.result
        ⟨session.namespaces, session.server⟩).2.table := by
  unfold Exchange.result
  rw [rebuild_apply]
  cases fetches : NamespaceTable.fetch client.transport session.server with
  | error cause new =>
      have ran : (Upkeep.refresh client.transport).run ⟨session.namespaces, session.server⟩ =
          .error cause ⟨session.namespaces, new⟩ := Upkeep.refresh_run_of_error fetches
      rw [ran]
  | ok table new =>
      have ran : (Upkeep.refresh client.transport).run ⟨session.namespaces, session.server⟩ =
          .ok () ⟨table, new⟩ := Upkeep.refresh_run_of_ok fetches
      rw [ran]
      dsimp only
      cases (client.through table).crawlTypes config.maxCrawlDepth.toNat new <;> rfl

/-- Whatever has been done to a table, its URIs and its indices belong together one to one, and it
lists each URI once, in the order of the indices.  What was in it does not matter when it is
replaced: then it holds each URI at the first place where the array has it, if that place is an
index.  A refresh replaces it by the array that the server announces, and leaves it as it was if the
server announces none; a rebuild of a session does the same to the table of the session. -/
theorem upkeep_exact (changes : List (Upkeep σ)) (server : σ) :
    let tabled := Upkeep.runAll changes ⟨.empty, server⟩
    (∀ (uri : String) (index : UInt16),
      tabled.table.indices[uri]? = some index ↔ tabled.table.uris[index]? = some uri) ∧
    (tabled.table.toList.Nodup ∧ ∃ indices : List UInt16, indices.Pairwise (· < ·) ∧
      (∀ index, index ∈ indices ↔ index ∈ tabled.table.uris) ∧
      indices.map tabled.table.uriAt = tabled.table.toList.map .ok) ∧
    (∀ uris,
      (Upkeep.replace uris).run.result tabled = (.ok (), ⟨.ofList uris, tabled.server⟩) ∧
      ∀ (i : Nat) (uri : String),
        (∃ index : UInt16,
          index.toNat = i ∧ (NamespaceTable.ofList uris).uris[index]? = some uri) ↔
            i < 65536 ∧ uris[i]? = some uri ∧ uri ∉ uris.take i) ∧
    (∀ transport : Transport σ,
      (∃ uris new, transport.Announces tabled.server uris new ∧
          (Upkeep.refresh transport).run.result tabled = (.ok (), ⟨.ofList uris, new⟩)) ∨
        ∃ cause new, transport.Withholds tabled.server cause new ∧
          (Upkeep.refresh transport).run.result tabled = (.error cause, ⟨tabled.table, new⟩)) ∧
    ∀ (client : Client σ) (config : Config) (session : Session σ),
      ((client.rebuild config).result session).2.namespaces =
        ((Upkeep.refresh client.transport).run.result
          ⟨session.namespaces, session.server⟩).2.table := by
  intro tabled
  obtain ⟨uris, listed⟩ : ∃ uris, tabled.table = .ofList uris :=
    Upkeep.table_runAll changes ⟨[], rfl⟩
  refine ⟨?_, ⟨?_, tabled.table.uris.keys, tabled.table.pairwise_keys,
    fun _ => Std.TreeMap.mem_keys, tabled.table.map_uriAt_keys⟩, ?_, ?_, Client.namespaces_rebuild⟩
  · intro uri index
    rw [listed]
    exact (NamespaceTable.lists_ofList uris).indices_eq_some_iff (List.length_take_le _ _)
  · rw [listed]
    exact NamespaceTable.nodup_toList uris
  · intro uris
    exact ⟨rfl, NamespaceTable.getElem?_uris_ofList uris⟩
  · intro transport
    rcases NamespaceTable.fetch_cases transport tabled.server with
      ⟨uris, new, announces, fetches⟩ | ⟨cause, new, withholds, fetches⟩
    · exact .inl ⟨uris, new, announces, result_eq_ok.2 (Upkeep.refresh_run_of_ok fetches)⟩
    · exact .inr ⟨cause, new, withholds, result_eq_error.2 (Upkeep.refresh_run_of_error fetches)⟩

end AddressSpace
