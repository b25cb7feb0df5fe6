import AddressSpace.Proofs.Crawl.Descent
import AddressSpace.Proofs.Renaming.Survey
import AddressSpace.Proofs.Session
import Mathlib.Logic.Equiv.Basic

namespace AddressSpace
open Exchange

variable {σ τ α β : Type} {ρ : Equiv.Perm UInt16} {R : σ → τ → Prop}

structure SameSession (ρ : Equiv.Perm UInt16) (R : σ → τ → Prop) (session : Session σ)
    (session' : Session τ) : Prop where
  server : R session.server session'.server
  namespaces : NamespaceTable.Renamed ρ session.namespaces session'.namespaces
  superTypes : session'.superTypes = session.superTypes

theorem sameSession_onServer {V : α → β → Prop} {exchange : Exchange σ α}
    {exchange' : Exchange τ β} (alike : Alike R V exchange exchange') :
    Alike (SameSession ρ R) V (Session.onServer exchange) (Session.onServer exchange') :=
  alike.within (fun _ _ same => same.server) fun _ _ same _ _ related =>
    ⟨related, same.namespaces, same.superTypes⟩

theorem sameSession_onSurvey {V : α → β → Prop} {survey : Survey σ α} {survey' : Survey τ β}
    (alike : Alike (Browser.Renamed.SameSurvey R) V survey survey') :
    Alike (SameSession ρ R) V (Session.onSurvey survey) (Session.onSurvey survey') :=
  alike.within (fun _ _ same => ⟨same.superTypes, same.server⟩) fun _ _ same _ _ related =>
    ⟨related.2, same.namespaces, related.1⟩

namespace Client

section Renamed

variable {client : Client σ} {client' : Client τ}
  (renamed : Transport.Renamed ρ R client.transport client'.transport)
  (sameConfig : client'.config = client.config)
include renamed sameConfig

theorem through_renamed {namespaces namespaces' : NamespaceTable}
    (tables : NamespaceTable.Renamed ρ namespaces namespaces') :
    Browser.Renamed ρ R (client.through namespaces) (client'.through namespaces') :=
  ⟨renamed, tables, by rw [through, through, sameConfig]⟩

theorem ask_renamed {question : Browser σ → Exchange σ α} {question' : Browser τ → Exchange τ α}
    (alike : ∀ browser browser', Browser.Renamed ρ R browser browser' →
      Alike R Eq (question browser) (question' browser')) :
    Alike (SameSession ρ R) Eq (client.ask question) (client'.ask question') :=
  alike_get.bind fun _ _ same => sameSession_onServer
    (alike _ _ (through_renamed renamed sameConfig same.namespaces))

theorem askAboutTypes_renamed {question : Browser σ → Survey σ α}
    {question' : Browser τ → Survey τ α} (alike : ∀ browser browser',
      Browser.Renamed ρ R browser browser' →
        Alike (Browser.Renamed.SameSurvey R) Eq (question browser) (question' browser')) :
    Alike (SameSession ρ R) Eq (client.askAboutTypes question) (client'.askAboutTypes question') :=
  alike_get.bind fun _ _ same => sameSession_onSurvey
    (alike _ _ (through_renamed renamed sameConfig same.namespaces))

theorem respond_renamed (question : Question) :
    Alike (SameSession ρ R) Eq (client.respond question) (client'.respond question) := by
  have depth : client'.config.maxTypeDepth.toNat = client.config.maxTypeDepth.toNat := by
    rw [sameConfig]
  have wrapped : ∀ {β : Type} {x : Exchange (Session σ) β} {y : Exchange (Session τ) β}
      (answer : β → Answer), Alike (SameSession ρ R) Eq x y →
      Alike (SameSession ρ R) Eq (x >>= fun b => pure (answer b))
        (y >>= fun b => pure (answer b)) := by
    intro β x y answer alike
    exact alike.bind fun _ _ same => alike_pure (congrArg answer same)
  cases question with
  | browse start context =>
      exact wrapped .neighbours
        (ask_renamed renamed sameConfig fun _ _ both => both.browse start context)
  | browseInstances start context type =>
      refine wrapped .neighbours (askAboutTypes_renamed renamed sameConfig fun _ _ both => ?_)
      rw [depth]
      exact both.browseInstances _ start context type
  | isSameOrSubtype expected candidate =>
      refine wrapped .verdict (askAboutTypes_renamed renamed sameConfig fun _ _ both => ?_)
      rw [depth]
      exact both.isSameOrSubtype _ expected candidate
  | resolve start names =>
      exact wrapped .node (ask_renamed renamed sameConfig fun _ _ both => both.resolveAll start names)
  | typeDefinition node =>
      exact wrapped .node (ask_renamed renamed sameConfig fun _ _ both => both.typeDefinition node)
  | modellingRule node =>
      exact wrapped .rule (ask_renamed renamed sameConfig fun _ _ both => both.modellingRule node)
  | implementedNamespace machine =>
      exact wrapped .text
        (ask_renamed renamed sameConfig fun _ _ both => both.implementedNamespace machine)
  | identificationValues identification =>
      exact wrapped .values
        (ask_renamed renamed sameConfig fun _ _ both => both.identificationValues identification)
  | readBrowseName node =>
      exact wrapped .text (ask_renamed renamed sameConfig fun _ _ both => both.readBrowseName node)
  | machines start =>
      exact wrapped .neighbours (ask_renamed renamed sameConfig fun _ _ both => both.browse start _)

theorem responses_renamed (questions : List Question) {session : Session σ} {session' : Session τ}
    (same : SameSession ρ R session session') :
    client'.responses questions session' = client.responses questions session := by
  induction questions generalizing session session' with
  | nil => rfl
  | cons question rest ih =>
      have ends := respond_renamed renamed sameConfig question session session' same
      unfold responses Exchange.result
      generalize client.respond question session = result at ends
      generalize client'.respond question session' = result' at ends
      cases ends with
      | ok answer same =>
          subst answer
          exact congrArg _ (ih same)
      | error same => exact congrArg _ (ih same)

/-- A rebuild has the same result on both servers, whatever the two sessions knew before.  After a
success both know the same types and answer all questions in the same way.  After a failure each
knows the types that it knew before, and unless the namespaces could not be read, both answer all
questions in the same way. -/
theorem rebuild_renamed (config : Config) (session : Session σ) (session' : Session τ)
    (related : R session.server session'.server) :
    (∃ count after after', client.rebuild config session = .ok count after ∧
      client'.rebuild config session' = .ok count after' ∧ after'.library = after.library ∧
        ∀ questions, client'.responses questions after' = client.responses questions after) ∨
    ∃ cause after after', client.rebuild config session = .error cause after ∧
      client'.rebuild config session' = .error cause after' ∧
      after.library = session.library ∧ after'.library = session'.library ∧
        (((∃ lost, NamespaceTable.fetch client.transport session.server = .error cause lost) ∧
            (∃ lost, NamespaceTable.fetch client'.transport session'.server = .error cause lost) ∧
            after.namespaces = session.namespaces ∧ after'.namespaces = session'.namespaces) ∨
          ∀ questions, client'.responses questions after' = client.responses questions after) := by
  rw [rebuild_apply, rebuild_apply]
  have fetched := renamed.fetch _ _ related
  generalize NamespaceTable.fetch client.transport session.server = result at fetched
  generalize NamespaceTable.fetch client'.transport session'.server = result' at fetched
  cases fetched with
  | error related =>
      -- Each session keeps its old table here, and nothing relates the two.
      exact .inr ⟨_, _, _, rfl, rfl, rfl, rfl, .inl ⟨⟨_, rfl⟩, ⟨_, rfl⟩, rfl, rfl⟩⟩
  | @ok namespaces namespaces' server server' tables related =>
      have both := through_renamed renamed sameConfig tables
      have crawled := both.crawlTypes config.maxCrawlDepth.toNat _ _ related
      dsimp only
      generalize (client.through namespaces).crawlTypes _ server = result at crawled
      generalize (client'.through namespaces').crawlTypes _ server' = result' at crawled
      cases crawled with
      | error related =>
          -- The tables are new by now, and questions do not look at the libraries.
          exact .inr ⟨_, _, _, rfl, rfl, rfl, rfl, .inr fun questions =>
            responses_renamed renamed sameConfig questions ⟨related, tables, rfl⟩⟩
      | @ok arena arena' server server' found related =>
          subst found
          have targets : TypeLibrary.targets arena namespaces' config.typeNamespaces =
              TypeLibrary.targets arena namespaces config.typeNamespaces := by
            unfold TypeLibrary.targets
            simp only [List.contains_eq_mem, tables.listed]
          dsimp only
          rw [targets]
          exact .inl ⟨_, _, _, rfl, rfl, rfl, fun questions =>
            responses_renamed renamed sameConfig questions ⟨related, tables, rfl⟩⟩

end Renamed

/-- A server with a type in a namespace of its own, which has the index `own`. -/
def pressTransport (own : UInt16) (uris : List String) : Transport Unit where
  isConnected _ := true
  endpoints _ := pure []
  connect _ _ := pure ()
  disconnect := pure ()
  browse request := pure (
    if request.node = .standard Standard.baseObjectType then
      { references := [
          { node := ⟨own, .number 1000⟩, nodeClass := 8, browseName := ⟨own, "Press"⟩ }] }
    else {})
  browseNext _ := pure {}
  read requests := pure (
    if requests = arrayRequest then { values := [.good (.array (uris.map .string))] } else {})
  translate _ := pure {}
  subscribe _ _ := pure 0
  unsubscribe _ := pure ()

def pressClient (own : UInt16) (uris : List String) : Client Unit :=
  ⟨pressTransport own uris, .ofEndpoint "opc.tcp://press"⟩

theorem permuted_press : Permuted (Equiv.swap 1 2) ["ns0", "ns1", "ns2"] ["ns0", "ns2", "ns1"] := by
  have elsewhere : ∀ index : UInt16, index ≠ 1 → index ≠ 2 → Equiv.swap 1 2 index = index :=
    fun index first second => Equiv.swap_apply_of_ne_of_ne first second
  refine ⟨by decide, by decide, rfl, by decide, fun index => ?_, fun index beyond => ?_⟩
  · by_cases first : index = 1
    · subst first
      rw [Equiv.swap_apply_left]
      rfl
    · by_cases second : index = 2
      · subst second
        rw [Equiv.swap_apply_right]
        rfl
      · rw [elsewhere index first second]
        have first' : index.toNat ≠ 1 := fun same => first (UInt16.toNat_inj.1 same)
        have second' : index.toNat ≠ 2 := fun same => second (UInt16.toNat_inj.1 same)
        match index.toNat, first', second' with
        | 0, _, _ => rfl
        | n + 3, _, _ => rfl
  · refine elsewhere index ?_ ?_ <;> rintro rfl <;> exact absurd beyond (by decide)

theorem renamed_press : Transport.Renamed (Equiv.swap 1 2) Eq
    (pressTransport 1 ["ns0", "ns1", "ns2"]) (pressTransport 2 ["ns0", "ns2", "ns1"]) := by
  have zero := permuted_press.zero
  refine ⟨alike_pure ⟨rfl, .cons ⟨rfl, .array rfl rfl permuted_press⟩ .nil⟩, ?_, ?_,
    fun _ => alike_pure rfl, fun _ => alike_pure rfl⟩
  · intro requests other
    refine alike_pure ?_
    rw [if_neg other, if_neg (map_rename_ne_arrayRequest zero other)]
    rfl
  · intro request
    refine alike_pure ?_
    have same' : (request.rename (Equiv.swap 1 2)).node = .standard Standard.baseObjectType ↔
        request.node = .standard Standard.baseObjectType := WireId.rename_eq_standard zero
    by_cases base : request.node = .standard Standard.baseObjectType
    · rw [if_pos base, if_pos (same'.2 base)]
      rfl
    · rw [if_neg base, if_neg (mt same'.1 base)]
      rfl

def freshSession : Session Unit := { server := () }

def staleSession : Session Unit where
  server := ()
  namespaces := .ofList ["ns0", "ns2"]
  superTypes := [(⟨"ns1", "i=1000"⟩, some ⟨"ns1", "i=1001"⟩)]
  library := { infos := [⟨"ns2", "ns2", "PressType", "ns2IdentificationType"⟩] }

theorem rebuild_renamed_press :
    ∃ after after',
      (pressClient 1 ["ns0", "ns1", "ns2"]).rebuild (.ofEndpoint "") freshSession = .ok 1 after ∧
      (pressClient 2 ["ns0", "ns2", "ns1"]).rebuild (.ofEndpoint "") staleSession = .ok 1 after' ∧
      after'.library = after.library ∧
        ∀ questions, (pressClient 2 ["ns0", "ns2", "ns1"]).responses questions after' =
          (pressClient 1 ["ns0", "ns1", "ns2"]).responses questions after := by
  have counted : (((pressClient 1 ["ns0", "ns1", "ns2"]).rebuild (.ofEndpoint "")).result
      freshSession).1.toOption = some 1 := by
    -- The crawl has to be a descent to be evaluated.
    simp only [Exchange.result, rebuild_apply, Browser.crawlTypes, Browser.discover_eq_forM]
    decide +kernel
  obtain ⟨after, rebuilt⟩ := exists_eq_ok counted
  obtain ⟨count, ended, after', ends, ends', same, answers⟩ | ⟨cause, ended, after', fails, -⟩ :=
    @rebuild_renamed Unit Unit _ _ (pressClient 1 ["ns0", "ns1", "ns2"])
      (pressClient 2 ["ns0", "ns2", "ns1"]) renamed_press rfl (.ofEndpoint "") freshSession
      staleSession rfl
  · cases rebuilt.symm.trans ends
    exact ⟨_, after', ends, ends', same, answers⟩
  · cases rebuilt.symm.trans fails

def lostTransport : Transport Unit where
  isConnected _ := false
  endpoints _ := Exchange.fail ConnectionError.notConnected
  connect _ _ := Exchange.fail ConnectionError.notConnected
  disconnect := pure ()
  browse _ := Exchange.fail ConnectionError.notConnected
  browseNext _ := Exchange.fail ConnectionError.notConnected
  read _ := Exchange.fail ConnectionError.notConnected
  translate _ := Exchange.fail ConnectionError.notConnected
  subscribe _ _ := Exchange.fail ConnectionError.notConnected
  unsubscribe _ := Exchange.fail ConnectionError.notConnected

/-- A rebuild that fails leaves different libraries different. -/
theorem libraries_differ_after_failure : ¬ ∀ (ρ : Equiv.Perm UInt16) (R : Unit → Unit → Prop)
    (client client' : Client Unit) (config : Config) (session session' : Session Unit),
    Transport.Renamed ρ R client.transport client'.transport → client'.config = client.config →
    R session.server session'.server →
      ((client'.rebuild config).result session').2.library =
        ((client.rebuild config).result session).2.library := by
  intro always
  have lost : Transport.Renamed (Equiv.refl UInt16) (fun _ _ => True) lostTransport lostTransport :=
    ⟨alike_fail _, fun _ _ => alike_fail _, fun _ => alike_fail _, fun _ => alike_fail _,
      fun _ => alike_fail _⟩
  have ends : ∀ (config : Config) (session : Session Unit),
      (Client.mk lostTransport config).rebuild config session =
        .error ConnectionError.notConnected session := by
    intro config session
    rw [rebuild_apply]
    rfl
  let config := Config.ofEndpoint "opc.tcp://press"
  let info : NamespaceInformation := ⟨"ns1", "ns1", "PressType", "ns1IdentificationType"⟩
  have same := always _ _ ⟨lostTransport, config⟩ ⟨lostTransport, config⟩ config { server := () }
    { server := (), library := { infos := [info] } } lost rfl trivial
  simp only [Exchange.result, ends] at same
  have infos : [info] = [] := congrArg TypeLibrary.infos same
  cases infos

end Client

end AddressSpace
