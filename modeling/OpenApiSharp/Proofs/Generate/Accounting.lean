import OpenApiSharp.Proofs.Documentation.Service
import OpenApiSharp.Proofs.Model.Inventory
import OpenApiSharp.Proofs.Naming.Fresh
import OpenApiSharp.Proofs.Related
import OpenApiSharp.Proofs.Report
import OpenApiSharp.Proofs.Service.Grouping
import OpenApiSharp.Proofs.Service.Survey
import OpenApiSharp.Proofs.Specification

/-!
# Accounting for every item of a run

A run ends without a report only for a key of a path item that has no
spelling.  Otherwise every model, every service and every endpoint has a share
in the report, the report is the sum of these shares, and a failed item takes
nothing from the others.
-/

namespace OpenApiSharp

open Document Naming

/-- What one item adds to the files and to the errors of a report. -/
structure Share where
  artifacts : List Artifact
  errors : List Diagnostic

/-- The share of a model: the file with its declaration, or one error under
the name of its definition. -/
inductive ModelShare (index : Model.NamespaceIndex)
    (descriptor : Model.Descriptor) : Share → Prop
  | emitted {declaration : Model.Declaration}
      (declared : descriptor.declaration index = .ok declaration) :
      ModelShare index descriptor
        { artifacts :=
            [{ path := descriptor.path
               content := declaration.source
               kind := descriptor.kind.text }]
          errors := [] }
  | failed {fault : JsonTextFault}
      (undeclared : descriptor.declaration index = .error fault) :
      ModelShare index descriptor
        { artifacts := []
          errors :=
            [{ level := .error
               item := descriptor.sourceName
               message := "model generation failed: " ++ fault.message }] }

/-- What becomes of one endpoint of the service for a tag: a method that serves
it, or one error that names it. -/
inductive EndpointShare (tag : String) (endpoint : Service.Endpoint) :
    Except Diagnostic Service.Method → Prop
  | built {method : Service.Method} (serves : method.Serves endpoint) :
      EndpointShare tag endpoint (.ok method)
  | failed {fault : Service.UrlFault} (same : fault.url = endpoint.url)
      (noText : ∀ url, endpoint.url ≠ .text url) :
      EndpointShare tag endpoint
        (.error (Service.failureOf tag endpoint fault))

def errorOf? : Except Diagnostic Service.Method → Option Diagnostic
  | .error diagnostic => some diagnostic
  | .ok _ => none

/-- The share of a service: its interface and its class, both with the methods
of those endpoints that have one, and an error for each of the others. -/
inductive ServiceShare (tag : String) (endpoints : List Service.Endpoint) :
    Share → Prop
  | files (service : Service.Declaration)
      (outcomes : List (Except Diagnostic Service.Method))
      (accounted : List.Forall₂ (EndpointShare tag) endpoints outcomes)
      (built : service.methods = outcomes.filterMap Except.toOption) :
      ServiceShare tag endpoints
        { artifacts :=
            [{ path := "Services/Interfaces/" ++ service.interfaceName ++ ".cs"
               content :=
                 CSharp.textOfLines (service.interfaceHead ++
                   CSharp.separated
                     (service.methods.map Service.Method.interfaceLines) ++
                   ["\x7d"])
               kind := "interface" },
             { path := "Services/Implementations/" ++ service.className ++ ".cs"
               content :=
                 CSharp.textOfLines (service.classHead ++
                   service.methods.flatMap (fun method =>
                     method.implementationLines service.httpClient) ++
                   ["\x7d"])
               kind := "implementation" }]
          errors := outcomes.filterMap errorOf? }

/-- A report that is the sum of the shares of its models, in the order of the
inventory, and of its services, in the order of the tags. -/
def Accounted (config : Config) (document : Value) (report : Report) : Prop :=
  let descriptors :=
    Model.inventory (Specification.schemas document) config
  let groups := (Service.survey (Specification.paths document)).groups
  ∃ models services : List Share,
    List.Forall₂ (ModelShare (Model.indexOf descriptors))
      descriptors models ∧
    List.Forall₂ (fun group => ServiceShare group.1 group.2)
      groups services ∧
    report.artifacts = (models ++ services).flatMap Share.artifacts ∧
    report.errors = (models ++ services).flatMap Share.errors

def Model.Descriptor.share (descriptor : Model.Descriptor)
    (index : Model.NamespaceIndex) : Share where
  artifacts := (descriptor.generate index).artifacts
  errors := (descriptor.generate index).diagnostics

theorem Model.Descriptor.modelShare
    (descriptor : Model.Descriptor) (index : Model.NamespaceIndex) :
    ModelShare index descriptor (descriptor.share index) := by
  cases outcome : descriptor.declaration index with
  | ok declaration =>
      simp only [share, generate, outcome]
      exact .emitted outcome
  | error fault =>
      simp only [share, generate, outcome]
      exact .failed outcome

private theorem Model.Descriptor.filter_diagnostics
    (descriptor : Model.Descriptor) (index : Model.NamespaceIndex) :
    (descriptor.generate index).diagnostics.filter (·.level == .error) =
      (descriptor.share index).errors := by
  cases outcome : descriptor.declaration index <;>
    simp [share, generate, outcome, ItemResult.diagnostics]

/-- The outcome of an endpoint as a share of its service. -/
def outcomeOf (tag : String)
    (entry : Service.Endpoint × Except Service.UrlFault Service.Method) :
    Except Diagnostic Service.Method :=
  entry.2.mapError (Service.failureOf tag entry.1)

private theorem endpointShare_outcomeOf
    {tag : String} {endpoint : Service.Endpoint}
    {entry : Service.Endpoint × Except Service.UrlFault Service.Method}
    (same : entry.1 = endpoint)
    (result : Service.EndpointResult endpoint entry.2) :
    EndpointShare tag endpoint (outcomeOf tag entry) := by
  obtain ⟨_, outcome⟩ := entry
  subst same
  cases result with
  | built serves => exact .built serves
  | failed same noText => exact .failed same noText

@[simp]
theorem filterMap_outcomeOf
    (tag : String)
    (results :
      List (Service.Endpoint × Except Service.UrlFault Service.Method)) :
    (results.map (outcomeOf tag)).filterMap Except.toOption =
      Service.builtMethods results := by
  rw [List.filterMap_map, Service.builtMethods]
  congr 1
  funext entry
  cases entry with
  | mk endpoint result => cases result <;> rfl

/-- Of the remarks on endpoints, those on failures are errors. -/
@[simp]
private theorem filter_resultDiagnostics
    (tag : String)
    (results :
      List (Service.Endpoint × Except Service.UrlFault Service.Method)) :
    (Service.resultDiagnostics tag results).filter (·.level == .error) =
      (results.map (outcomeOf tag)).filterMap errorOf? := by
  induction results with
  | nil =>
      rfl
  | cons entry rest inductionHypothesis =>
      obtain ⟨endpoint, result⟩ := entry
      rw [Service.resultDiagnostics, List.flatMap_cons, List.filter_append,
        ← Service.resultDiagnostics, inductionHypothesis, List.map_cons]
      cases result with
      | error fault => rfl
      | ok method =>
          rw [List.filterMap_cons_none (by rfl)]
          by_cases calls : method.clientCall.isNone <;>
            simp [Service.methodDiagnostics, calls]

def ServiceRun.share (service : ServiceRun) : Share where
  artifacts := service.declaration.artifacts
  errors := service.diagnostics.filter (·.level == .error)

@[simp]
theorem ServiceRun.errors_share (service : ServiceRun) :
    service.share.errors =
      (service.results.map (outcomeOf service.tag)).filterMap errorOf? := by
  rw [← filter_resultDiagnostics, share, diagnostics, List.filter_append]
  by_cases kept : service.name = service.baseName <;> simp [kept]

private theorem ServiceRun.serviceShare
    (service : ServiceRun) {endpoints : List Service.Endpoint}
    (results :
      List.Forall₂
        (fun endpoint entry =>
          entry.1 = endpoint ∧ Service.EndpointResult endpoint entry.2)
        endpoints service.results)
    (methods :
      service.declaration.methods = Service.builtMethods service.results) :
    ServiceShare service.tag endpoints service.share := by
  have accounted :
      List.Forall₂ (EndpointShare service.tag) endpoints
        (service.results.map (outcomeOf service.tag)) := by
    rw [List.forall₂_map_right_iff]
    exact results.imp fun endpoint entry related =>
      endpointShare_outcomeOf related.1 related.2
  rw [← filterMap_outcomeOf service.tag] at methods
  have shape := ServiceShare.files service.declaration _ accounted methods
  rw [← service.errors_share, ← Service.Declaration.artifacts_eq] at shape
  exact shape

private theorem serviceShare_ofEndpoints
    (config : Config) (index : Model.NamespaceIndex)
    (group : String × List Service.Endpoint) (name : String) :
    ServiceShare group.1 group.2
      (ServiceRun.ofEndpoints config index group name).share :=
  (ServiceRun.ofEndpoints config index group name).serviceShare
    (Service.methodResults_forall₂ (name ++ "Service") [] group.2) rfl

theorem level_of_mem_renamings
    {descriptors : List Model.Descriptor} {diagnostic : Diagnostic}
    (member : diagnostic ∈ Model.renamings descriptors) :
    diagnostic.level = .warning := by
  obtain ⟨descriptor, _, renamed⟩ := List.mem_flatMap.1 member
  by_cases kept :
      descriptor.name = Naming.typeName descriptor.sourceName
  · simp [Model.Descriptor.renaming, kept] at renamed
  · simp only [Model.Descriptor.renaming, kept, if_false,
      List.mem_singleton] at renamed
    rw [renamed]

private theorem level_of_mem_survey
    {survey : Service.Survey} {diagnostic : Diagnostic}
    (member : diagnostic ∈ survey.diagnostics) :
    diagnostic.level = .warning := by
  obtain ⟨outcome, _, remarked⟩ := List.mem_flatMap.1 member
  cases outcome with
  | skipped item reason =>
      rw [Service.Outcome.diagnostics, List.mem_singleton] at remarked
      rw [remarked]
  | found item endpoint nameless =>
      rw [List.eq_of_mem_replicate remarked]

def Run.modelShares (run : Run) : List Share :=
  run.descriptors.map fun descriptor =>
    descriptor.share (Model.indexOf run.descriptors)

def Run.serviceShares (run : Run) : List Share :=
  run.services.map ServiceRun.share

theorem Run.ofDocument_artifacts (config : Config) (document : Value) :
    let run := Run.ofDocument config document
    run.report.artifacts =
      (run.modelShares ++ run.serviceShares).flatMap Share.artifacts := by
  intro run
  rw [Run.report_artifacts, List.flatMap_append, Run.modelShares,
    Run.serviceShares, List.flatMap_map, List.flatMap_map]
  change (run.descriptors.map _).flatMap _ ++ _ = _
  rw [List.flatMap_map]
  rfl

theorem Run.ofDocument_errors (config : Config) (document : Value) :
    let run := Run.ofDocument config document
    run.report.errors =
      (run.modelShares ++ run.serviceShares).flatMap Share.errors := by
  intro run
  have renamings :
      (Model.renamings run.descriptors).filter (·.level == .error) = [] :=
    filter_error_eq_nil fun _ => level_of_mem_renamings
  have survey : run.survey.diagnostics.filter (·.level == .error) = [] :=
    filter_error_eq_nil fun _ => level_of_mem_survey
  have models :
      (run.models.flatMap ItemResult.diagnostics).filter
          (·.level == .error) =
        run.modelShares.flatMap Share.errors := by
    change ((run.descriptors.map _).flatMap _).filter _ = _
    rw [Run.modelShares, List.flatMap_map, List.flatMap_map,
      List.filter_flatMap]
    simp only [Model.Descriptor.filter_diagnostics]
    rfl
  have services :
      (run.services.flatMap ServiceRun.diagnostics).filter
          (·.level == .error) =
        run.serviceShares.flatMap Share.errors := by
    rw [Run.serviceShares, List.flatMap_map, List.filter_flatMap]
    rfl
  rw [Report.errors, Run.report_diagnostics, List.filter_append,
    List.filter_append, List.filter_append, renamings, survey, models,
    services, List.flatMap_append, List.nil_append, List.append_nil]

private theorem Run.forall₂_modelShares (config : Config) (document : Value) :
    let run := Run.ofDocument config document
    List.Forall₂ (ModelShare (Model.indexOf run.descriptors))
      run.descriptors run.modelShares := by
  intro run
  rw [Run.modelShares, List.forall₂_map_right_iff, List.forall₂_same]
  intro descriptor _
  exact descriptor.modelShare _

private theorem Run.forall₂_serviceShares (config : Config) (document : Value) :
    let run := Run.ofDocument config document
    List.Forall₂ (fun group => ServiceShare group.1 group.2)
      run.survey.groups run.serviceShares := by
  intro run
  rw [Run.serviceShares, List.forall₂_map_right_iff]
  apply Run.services_related
  intro group _ name _
  exact serviceShare_ofEndpoints config _ group name

private theorem Run.accounted (config : Config) (document : Value) :
    Accounted config document (Run.ofDocument config document).report :=
  ⟨_, _, Run.forall₂_modelShares config document,
    Run.forall₂_serviceShares config document,
    Run.ofDocument_artifacts config document,
    Run.ofDocument_errors config document⟩

/-- A run ends without a report exactly when a path item has a key without a
spelling, whatever else the document holds.  Every other run accounts for each
of its models, services and endpoints. -/
theorem generate_isolates_failures (config : Config) (document : Value) :
    (Service.HasUnspelledKey (Specification.paths document) ∧
        ∃ fault, generate config document = .error fault) ∨
      (¬ Service.HasUnspelledKey (Specification.paths document) ∧
        ∃ report, generate config document = .ok report ∧
          Accounted config document report) := by
  let run := Run.ofDocument config document
  have complete :
      run.survey.fault = none ↔
        ¬ Service.HasUnspelledKey (Specification.paths document) :=
    Service.survey_fault_eq_none_iff _
  cases ended : run.survey.fault with
  | none =>
      refine Or.inr ⟨complete.1 ended, run.report, ?_,
        Run.accounted config document⟩
      simp only [generate]
      rw [show (Run.ofDocument config document).survey.fault = none from ended]
  | some fault =>
      have unspelled :
          Service.HasUnspelledKey (Specification.paths document) := by
        by_contra spelled
        rw [complete.2 spelled] at ended
        cases ended
      refine Or.inl ⟨unspelled, fault, ?_⟩
      simp only [generate]
      rw [show (Run.ofDocument config document).survey.fault = some fault
        from ended]

/-! ## Documents that JSON can write -/

/-- The warning on an item that could not keep its own name. -/
def renameWarning (item words baseName name : String) : List Diagnostic :=
  if name = baseName then []
  else
    [⟨.warning, item,
      words ++ baseName ++ " already used, emitted as " ++ name⟩]

/-- The tags of a document with their endpoints and the names of their
services. -/
def namedGroups (config : Config) (document : Value) :
    List ((String × List Service.Endpoint) × String) :=
  let groups := (Service.survey (Specification.paths document)).groups
  groups.zip (serviceNames config.cleanup (groups.map (·.1)))

/-- The remarks on a document in order: on the names of models, on operations
in document order, and for each tag on the name of its service and on the
methods that no call of the client can serve. -/
def expectedDiagnostics (config : Config) (document : Value) :
    List Diagnostic :=
  ((Model.inventory (Specification.schemas document) config).flatMap
      fun descriptor =>
        renameWarning descriptor.sourceName "type name "
          (typeName descriptor.sourceName) descriptor.name) ++
    (Service.operations (Specification.paths document)).flatMap
      Service.Operation.warnings ++
    (namedGroups config document).flatMap fun ((tag, endpoints), name) =>
      renameWarning tag "service name " (serviceBaseName tag config.cleanup)
          name ++
        Service.methodWarnings tag endpoints

/-- A report without errors that has one file for each schema and two for each
tag, and the expected remarks. -/
structure JsonAccounted (config : Config) (document : Value)
    (report : Report) : Prop where
  errors : report.errors = []
  schemas :
    ((Model.inventory (Specification.schemas document) config).map
        Model.Descriptor.sourceName).Perm
      ((Specification.schemas document).map Prod.fst)
  artifacts :
    ∃ models : List Artifact, ∃ services : List (Artifact × Artifact),
      report.artifacts =
        models ++ services.flatMap (fun files => [files.1, files.2]) ∧
      List.Forall₂
        (fun descriptor artifact =>
          artifact.path = descriptor.path ∧
            artifact.kind = descriptor.kind.text)
        (Model.inventory (Specification.schemas document) config) models ∧
      List.Forall₂
        (fun group files =>
          files.1.kind = "interface" ∧
          files.1.path =
            "Services/Interfaces/I" ++ group.2 ++ "Service.cs" ∧
          files.2.kind = "implementation" ∧
          files.2.path =
            "Services/Implementations/" ++ group.2 ++ "Service.cs")
        (namedGroups config document) services
  diagnostics : report.diagnostics = expectedDiagnostics config document

section Parts

variable {document : Value} (json : document.isJson = true)

include json

private theorem not_hasUnspelledKey :
    ¬ Service.HasUnspelledKey (Specification.paths document) := by
  rintro ⟨url, pathItem, entry, key, node, field, unspelled⟩
  have pathItemJson := (Specification.isJson_of_mem_paths json entry).2
  have textual := (Value.isJson_of_mem_entries pathItemJson field).1
  obtain ⟨content, rfl⟩ := Scalar.exists_text_of_isText textual
  cases unspelled

private theorem url_of_mem_groups
    {group : String × List Service.Endpoint} {endpoint : Service.Endpoint}
    (grouped :
      group ∈ (Service.survey (Specification.paths document)).groups)
    (member : endpoint ∈ group.2) : ∃ url, endpoint.url = .text url := by
  have complete :
      (Service.survey (Specification.paths document)).fault = none :=
    (Service.survey_fault_eq_none_iff _).2 (not_hasUnspelledKey json)
  obtain ⟨operation, present, describes⟩ :=
    Service.exists_operation_of_mem_groups complete grouped member
  obtain ⟨pathItem, entry⟩ := Service.url_mem_of_mem_operations present
  have textual := (Specification.isJson_of_mem_paths json entry).1
  rw [describes.url]
  exact Scalar.exists_text_of_isText textual

end Parts

/-- Where every outcome is a file, the files are those of the items in their
order. -/
private theorem forall₂_artifacts_of_forall_generated
    {α : Type} {items : List α} {outcome : α → ItemResult}
    {R : α → Artifact → Prop}
    (emitted : ∀ item ∈ items, ∃ artifact,
      outcome item = .generated artifact ∧ R item artifact) :
    List.Forall₂ R items
      ((items.map outcome).flatMap ItemResult.artifacts) := by
  induction items with
  | nil =>
      exact List.Forall₂.nil
  | cons item rest inductionHypothesis =>
      obtain ⟨artifact, generated, related⟩ :=
        emitted item List.mem_cons_self
      rw [List.map_cons, List.flatMap_cons, generated]
      refine List.Forall₂.cons related (inductionHypothesis ?_)
      intro later member
      exact emitted later (List.mem_cons_of_mem _ member)

section Models

variable {document : Value} (json : document.isJson = true) (config : Config)

include json

private theorem declaration_isOk_of_mem_inventory
    (index : Model.NamespaceIndex) {descriptor : Model.Descriptor}
    (member :
      descriptor ∈ Model.inventory (Specification.schemas document) config) :
    ∃ declaration, descriptor.declaration index = .ok declaration :=
  descriptor.declaration_isOk_of_isJson index
    (Specification.isJson_of_mem_schemas json
      (Model.mem_schemas_of_mem_inventory member))

private theorem exists_artifact_of_mem_inventory
    (index : Model.NamespaceIndex) {descriptor : Model.Descriptor}
    (member :
      descriptor ∈ Model.inventory (Specification.schemas document) config) :
    ∃ artifact : Artifact,
      descriptor.generate index = .generated artifact ∧
        artifact.path = descriptor.path ∧
        artifact.kind = descriptor.kind.text := by
  obtain ⟨declaration, declared⟩ :=
    declaration_isOk_of_mem_inventory json config index member
  exact ⟨_, by rw [Model.Descriptor.generate, declared], rfl, rfl⟩

private theorem forall₂_models :
    List.Forall₂
      (fun descriptor artifact =>
        artifact.path = Model.Descriptor.path descriptor ∧
          artifact.kind = descriptor.kind.text)
      (Model.inventory (Specification.schemas document) config)
      ((Run.ofDocument config document).models.flatMap
        ItemResult.artifacts) := by
  change List.Forall₂ _ _ ((List.map _ _).flatMap _)
  apply forall₂_artifacts_of_forall_generated
  intro descriptor member
  exact exists_artifact_of_mem_inventory json config _ member

private theorem diagnostics_models :
    (Run.ofDocument config document).models.flatMap
        ItemResult.diagnostics = [] := by
  rw [List.flatMap_eq_nil_iff]
  intro outcome recorded
  obtain ⟨descriptor, member, rfl⟩ := List.mem_map.1 recorded
  obtain ⟨artifact, generated, _⟩ :=
    exists_artifact_of_mem_inventory json config
      (Model.indexOf
        (Model.inventory (Specification.schemas document) config)) member
  rw [generated]
  rfl

end Models

private theorem survey_diagnostics
    {paths : Value} (complete : (Service.survey paths).fault = none) :
    (Service.survey paths).diagnostics =
      (Service.operations paths).flatMap Service.Operation.warnings := by
  rw [Service.Survey.diagnostics,
    Service.survey_outcomes_of_fault_eq_none complete, List.flatMap_map]
  apply List.flatMap_congr
  intro operation _
  exact operation.outcome_diagnostics

private theorem Run.services_eq_map (config : Config) (document : Value) :
    (Run.ofDocument config document).services =
      (namedGroups config document).map fun group =>
        ServiceRun.ofEndpoints config
          (Model.indexOf
            (Model.inventory (Specification.schemas document) config))
          group.1 group.2 :=
  List.map_uncurry_zip_eq_zipWith.symm

private theorem ofEndpoints_diagnostics
    (config : Config) (index : Model.NamespaceIndex)
    {group : String × List Service.Endpoint} (name : String)
    (texts : ∀ endpoint ∈ group.2, ∃ url, endpoint.url = .text url) :
    (ServiceRun.ofEndpoints config index group name).diagnostics =
      renameWarning group.1 "service name "
          (Naming.serviceBaseName group.1 config.cleanup) name ++
        Service.methodWarnings group.1 group.2 := by
  rw [ServiceRun.diagnostics, ServiceRun.ofEndpoints,
    Service.resultDiagnostics_methodResults _ _ _ texts]
  rfl

section Account

variable {document : Value} (json : document.isJson = true) (config : Config)

include json

private theorem diagnostics_services :
    (Run.ofDocument config document).services.flatMap
        ServiceRun.diagnostics =
      (namedGroups config document).flatMap fun ((tag, endpoints), name) =>
        renameWarning tag "service name "
            (serviceBaseName tag config.cleanup) name ++
          Service.methodWarnings tag endpoints := by
  rw [Run.services_eq_map, List.flatMap_map]
  apply List.flatMap_congr
  rintro ⟨group, name⟩ member
  apply ofEndpoints_diagnostics
  intro endpoint served
  exact url_of_mem_groups json (List.of_mem_zip member).1 served

private theorem report_diagnostics_of_isJson :
    (Run.ofDocument config document).report.diagnostics =
      expectedDiagnostics config document := by
  have complete :
      (Service.survey (Specification.paths document)).fault = none :=
    (Service.survey_fault_eq_none_iff _).2 (not_hasUnspelledKey json)
  rw [Run.report_diagnostics, diagnostics_models json, List.append_nil,
    diagnostics_services json]
  change _ ++ (Service.survey (Specification.paths document)).diagnostics
    ++ _ = _
  rw [survey_diagnostics complete]
  rfl

end Account

private theorem level_of_mem_renameWarning
    {item words baseName name : String} {diagnostic : Diagnostic}
    (member : diagnostic ∈ renameWarning item words baseName name) :
    diagnostic.level = .warning := by
  rw [renameWarning] at member
  split at member
  · cases member
  · rw [List.mem_singleton.1 member]

private theorem level_of_mem_expectedDiagnostics
    {config : Config} {document : Value} {diagnostic : Diagnostic}
    (member : diagnostic ∈ expectedDiagnostics config document) :
    diagnostic.level = .warning := by
  rw [expectedDiagnostics, List.mem_append, List.mem_append] at member
  rcases member with (models | surveyed) | services
  · obtain ⟨descriptor, _, renamed⟩ := List.mem_flatMap.1 models
    exact level_of_mem_renameWarning renamed
  · obtain ⟨operation, _, warned⟩ := List.mem_flatMap.1 surveyed
    exact Service.Operation.level_of_mem_warnings warned
  · obtain ⟨⟨⟨tag, endpoints⟩, name⟩, _, warned⟩ :=
      List.mem_flatMap.1 services
    rcases List.mem_append.1 warned with renamed | methods
    · exact level_of_mem_renameWarning renamed
    · exact Service.level_of_mem_methodWarnings methods

private theorem artifacts_services (config : Config) (document : Value) :
    ∃ services : List (Artifact × Artifact),
      (Run.ofDocument config document).services.flatMap
          (fun service => service.declaration.artifacts) =
        services.flatMap (fun files => [files.1, files.2]) ∧
      List.Forall₂
        (fun group files =>
          files.1.kind = "interface" ∧
          files.1.path =
            "Services/Interfaces/I" ++ group.2 ++ "Service.cs" ∧
          files.2.kind = "implementation" ∧
          files.2.path =
            "Services/Implementations/" ++ group.2 ++ "Service.cs")
        (namedGroups config document) services := by
  refine ⟨(namedGroups config document).map fun group =>
    let service :=
      ServiceRun.ofEndpoints config
        (Model.indexOf
          (Model.inventory (Specification.schemas document) config))
        group.1 group.2
    (service.declaration.interfaceArtifact,
      service.declaration.classArtifact), ?_, ?_⟩
  · rw [Run.services_eq_map, List.flatMap_map, List.flatMap_map]
    rfl
  · rw [List.forall₂_map_right_iff, List.forall₂_same]
    intro group _
    exact
      ⟨rfl, Service.Declaration.interfaceArtifact_path _, rfl,
        Service.Declaration.classArtifact_path _⟩

/-- A document of JSON values is generated without any error, and its report
is the expected one. -/
theorem generate_accounts_for_json
    (config : Config) (document : Value) (json : document.isJson = true) :
    ∃ report, generate config document = .ok report ∧
      JsonAccounted config document report := by
  have complete :
      (Run.ofDocument config document).survey.fault = none :=
    (Service.survey_fault_eq_none_iff _).2 (not_hasUnspelledKey json)
  have diagnostics :
      (Run.ofDocument config document).report.diagnostics =
        expectedDiagnostics config document :=
    report_diagnostics_of_isJson json config
  obtain ⟨services, files, related⟩ := artifacts_services config document
  refine ⟨(Run.ofDocument config document).report, ?_, ?_⟩
  · simp only [generate]
    rw [complete]
  · exact
      { errors := by
          rw [Report.errors, diagnostics]
          exact
            filter_error_eq_nil fun _ => level_of_mem_expectedDiagnostics
        schemas := Model.inventory_sourceNames_perm _ config
        artifacts :=
          ⟨_, services, by rw [Run.report_artifacts, files],
            forall₂_models json config, related⟩
        diagnostics }

/-- A document with one schema and two operations, one of them without tags. -/
def petDocument : Value :=
  .map
    [(.text "paths", .map
      [(.text "/pets", .map
        [(.text "get", .map
          [(.text "tags", .list [.text "pet"]),
           (.text "operationId", .text "listPets")]),
         (.text "head", .map [(.text "operationId", .text "countPets")])])]),
     (.text "definitions", .map
      [(.text "Pet", .map [(.text "enum", .list [.text "cat", .text "dog"])])])]

theorem generate_accounts_for_pets :
    petDocument.isJson = true ∧
      ∃ report, generate {} petDocument = .ok report ∧
        JsonAccounted {} petDocument report :=
  ⟨rfl, generate_accounts_for_json {} petDocument rfl⟩

end OpenApiSharp
