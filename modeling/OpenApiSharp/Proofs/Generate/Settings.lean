import OpenApiSharp.Proofs.Generate.Placement

/-!
# How far settings reach

The namespaces and the client that a user chooses are written into files, but
they decide nothing else: which items fail, what is remarked on, and where files
are put depends on the document and on what is dropped from service names.  The
files of models depend on no setting but the namespace of models.
-/

namespace OpenApiSharp

open Document

/-- What a report says apart from the contents of its files. -/
structure Outline where
  /-- The paths of the files with their kinds. -/
  files : List (String × String)
  diagnostics : List Diagnostic
  deriving DecidableEq, Repr

def Artifact.entry (artifact : Artifact) : String × String :=
  (artifact.path, artifact.kind)

def Report.outline (report : Report) : Outline where
  files := report.artifacts.map Artifact.entry
  diagnostics := report.diagnostics

/-- The kinds of files that hold models. -/
def modelKinds : List String :=
  [Schema.Kind.enumeration, .record, .wrapper, .fallback].map Schema.Kind.text

def Report.modelFiles (report : Report) : List Artifact :=
  report.artifacts.filter fun artifact => modelKinds.contains artifact.kind

namespace Model

/-- The descriptor of the same definition under other settings. -/
def Descriptor.under (config : Config) (descriptor : Descriptor) : Descriptor :=
  { descriptor with
    namespaceName :=
      modelNamespace config descriptor.category descriptor.kind }

variable (schemas : List (String × Value)) (config config' : Config)

private theorem inventory_under :
    inventory schemas config' =
      (inventory schemas config).map (Descriptor.under config') := by
  rw [inventory, inventory, List.map_zipWith]
  rfl

@[simp]
private theorem renamings_under (descriptors : List Descriptor) :
    renamings (descriptors.map (Descriptor.under config')) =
      renamings descriptors := by
  rw [renamings, renamings, List.flatMap_map]
  rfl

variable {schemas config} {descriptor : Descriptor}

/-- The folder is split back out of the namespace, and it is the same whatever
namespace the user has put in front. -/
private theorem path_under (member : descriptor ∈ inventory schemas config) :
    (descriptor.under config').path = descriptor.path := by
  have member' :
      descriptor.under config' ∈ inventory schemas config' := by
    rw [inventory_under schemas config config']
    exact List.mem_map_of_mem member
  have placement :
      (descriptor.under config').placement = descriptor.placement :=
    rfl
  rw [path_eq_placement member', path_eq_placement member, placement]

private theorem Descriptor.body_under
    (descriptor : Descriptor) (index index' : NamespaceIndex) :
    ((descriptor.under config').body index').map (fun _ => ()) =
      (descriptor.body index).map fun _ => () := by
  have kind : (descriptor.under config').kind = descriptor.kind := rfl
  have node : (descriptor.under config').node = descriptor.node := rfl
  rw [Descriptor.body, Descriptor.body, kind, node]
  cases descriptor.kind with
  | enumeration => cases enumTexts descriptor.node <;> rfl
  | record => rfl
  | wrapper => rfl
  | fallback => rfl

/-- Whether a descriptor has a declaration depends on its definition alone. -/
private theorem Descriptor.declaration_under
    (descriptor : Descriptor) (index index' : NamespaceIndex) :
    (∃ fault,
      descriptor.declaration index = .error fault ∧
        (descriptor.under config').declaration index' = .error fault) ∨
    ∃ declared declared',
      descriptor.declaration index = .ok declared ∧
        (descriptor.under config').declaration index' = .ok declared' := by
  have same := descriptor.body_under config' index index'
  rw [Descriptor.declaration, Descriptor.declaration]
  cases built : descriptor.body index with
  | error fault =>
      cases built' : (descriptor.under config').body index' with
      | error fault' =>
          rw [built, built'] at same
          cases same
          exact Or.inl ⟨fault, rfl, rfl⟩
      | ok body' =>
          rw [built, built'] at same
          cases same
  | ok body =>
      cases built' : (descriptor.under config').body index' with
      | error fault' =>
          rw [built, built'] at same
          cases same
      | ok body' =>
          exact Or.inr ⟨_, _, rfl, rfl⟩

variable (index index' : NamespaceIndex)

private theorem entries_under (member : descriptor ∈ inventory schemas config) :
    ((descriptor.under config').generate index').artifacts.map
        Artifact.entry =
      (descriptor.generate index).artifacts.map Artifact.entry := by
  have path := path_under config' member
  rw [Descriptor.generate, Descriptor.generate]
  rcases descriptor.declaration_under config' index index' with
    ⟨fault, failed, failed'⟩ | ⟨declared, declared', built, built'⟩
  · rw [failed, failed']
    rfl
  · rw [built, built', path]
    rfl

@[simp]
private theorem diagnostics_under (descriptor : Descriptor) :
    ((descriptor.under config').generate index').diagnostics =
      (descriptor.generate index).diagnostics := by
  rw [Descriptor.generate, Descriptor.generate]
  rcases descriptor.declaration_under config' index index' with
    ⟨fault, failed, failed'⟩ | ⟨declared, declared', built, built'⟩
  · rw [failed, failed']
    rfl
  · rw [built, built']
    rfl

end Model

private theorem Service.Declaration.entries_artifacts
    (service : Service.Declaration) :
    service.artifacts.map Artifact.entry =
      [("Services/Interfaces/I" ++ service.serviceName ++ "Service.cs",
          "interface"),
       ("Services/Implementations/" ++ service.serviceName ++ "Service.cs",
          "implementation")] := by
  rw [← interfaceArtifact_path, ← classArtifact_path]
  rfl

section Services

variable {config config' : Config} (index index' : Model.NamespaceIndex)
  (group : String × List Service.Endpoint) (name : String)

private theorem ServiceRun.diagnostics_ofEndpoints
    (cleanup : config'.cleanup = config.cleanup) :
    (ServiceRun.ofEndpoints config' index' group name).diagnostics =
      (ServiceRun.ofEndpoints config index group name).diagnostics := by
  simp only [ServiceRun.diagnostics, ServiceRun.ofEndpoints, cleanup]
  rfl

end Services

private theorem Run.report_outline (run : Run) :
    run.report.outline =
      { files :=
          (run.models.flatMap fun outcome =>
            outcome.artifacts.map Artifact.entry) ++
          run.services.flatMap fun service =>
            service.declaration.artifacts.map Artifact.entry
        diagnostics :=
          Model.renamings run.descriptors ++
            run.models.flatMap ItemResult.diagnostics ++
            run.survey.diagnostics ++
            run.services.flatMap ServiceRun.diagnostics } := by
  rw [Report.outline, Run.report_artifacts, Run.report_diagnostics,
    List.map_append, List.map_flatMap, List.map_flatMap]

section Runs

variable (document : Value) (config config' : Config)

private theorem descriptors_under :
    (Run.ofDocument config' document).descriptors =
      (Run.ofDocument config document).descriptors.map
        (Model.Descriptor.under config') :=
  Model.inventory_under _ config config'

/-- What is read off the outcomes of models is the same under all settings if
it is the same for each model. -/
private theorem flatMap_models_under
    {α : Type} (read : ItemResult → List α)
    (agree :
      ∀ descriptor ∈ (Run.ofDocument config document).descriptors,
        ∀ index index',
          read ((descriptor.under config').generate index') =
            read (descriptor.generate index)) :
    (Run.ofDocument config' document).models.flatMap read =
      (Run.ofDocument config document).models.flatMap read := by
  have descriptors := descriptors_under document config config'
  change ((Run.ofDocument config' document).descriptors.map _).flatMap read =
    ((Run.ofDocument config document).descriptors.map _).flatMap read
  rw [descriptors, List.map_map, List.flatMap_map, List.flatMap_map]
  apply List.flatMap_congr
  intro descriptor member
  exact agree descriptor member _ _

variable {config config'} (cleanup : config'.cleanup = config.cleanup)

include cleanup

private theorem flatMap_services_under
    {α : Type} (read : ServiceRun → List α)
    (agree :
      ∀ group name index index',
        read (ServiceRun.ofEndpoints config' index' group name) =
          read (ServiceRun.ofEndpoints config index group name)) :
    (Run.ofDocument config' document).services.flatMap read =
      (Run.ofDocument config document).services.flatMap read := by
  have images :
      (Run.ofDocument config' document).services.map read =
        (Run.ofDocument config document).services.map read := by
    simp only [Run.ofDocument]
    rw [List.map_zipWith, List.map_zipWith, cleanup]
    congr 1
    funext group name
    exact agree group name _ _
  rw [List.flatMap_def, List.flatMap_def, images]

/-- Where the same is dropped from service names, reports differ at most in
the contents of files. -/
private theorem outline_under :
    (Run.ofDocument config' document).report.outline =
      (Run.ofDocument config document).report.outline := by
  have modelEntries :=
    flatMap_models_under document config config'
      (fun outcome => outcome.artifacts.map Artifact.entry)
      fun descriptor member index index' =>
        Model.entries_under config' index index' member
  have modelRemarks :=
    flatMap_models_under document config config' ItemResult.diagnostics
      fun descriptor _ index index' =>
        Model.diagnostics_under config' index index' descriptor
  have serviceEntries :=
    flatMap_services_under document cleanup
      (fun service => service.declaration.artifacts.map Artifact.entry)
      fun group name index index' => by
        rw [Service.Declaration.entries_artifacts,
          Service.Declaration.entries_artifacts]
        rfl
  have serviceRemarks :=
    flatMap_services_under document cleanup ServiceRun.diagnostics
      fun group name index index' =>
        ServiceRun.diagnostics_ofEndpoints index index' group name cleanup
  have renamings :
      Model.renamings (Run.ofDocument config' document).descriptors =
        Model.renamings (Run.ofDocument config document).descriptors := by
    rw [descriptors_under document config config', Model.renamings_under]
  have survey :
      (Run.ofDocument config' document).survey =
        (Run.ofDocument config document).survey :=
    rfl
  rw [Run.report_outline, Run.report_outline, modelEntries, modelRemarks,
    serviceEntries, serviceRemarks, renamings, survey]

end Runs

theorem Model.Descriptor.kind_of_mem_artifacts
    {descriptor : Model.Descriptor} {index : Model.NamespaceIndex}
    {artifact : Artifact}
    (emitted : artifact ∈ (descriptor.generate index).artifacts) :
    artifact.kind ∈ modelKinds := by
  rw [generate] at emitted
  cases declared : descriptor.declaration index with
  | error fault =>
      rw [declared] at emitted
      cases emitted
  | ok declaration =>
      rw [declared] at emitted
      rw [List.mem_singleton.1 emitted]
      cases kind : descriptor.kind <;> simp [modelKinds, Schema.Kind.text]

private theorem Service.Declaration.kind_not_mem_modelKinds
    {service : Service.Declaration} {artifact : Artifact}
    (member : artifact ∈ service.artifacts) :
    artifact.kind ∉ modelKinds := by
  have kinds : "interface" ∉ modelKinds ∧ "implementation" ∉ modelKinds := by
    decide
  rw [artifacts, List.mem_pair] at member
  rcases member with rfl | rfl
  · exact kinds.1
  · exact kinds.2

theorem Run.isModelKind_of_mem_models
    {config : Config} {document : Value} {artifact : Artifact}
    (member :
      artifact ∈ (Run.ofDocument config document).models.flatMap
        ItemResult.artifacts) :
    modelKinds.contains artifact.kind = true := by
  obtain ⟨outcome, produced, emitted⟩ := List.mem_flatMap.1 member
  obtain ⟨descriptor, _, rfl⟩ := List.mem_map.1 produced
  exact List.contains_iff_mem.2
    (Model.Descriptor.kind_of_mem_artifacts emitted)

theorem Run.not_isModelKind_of_mem_services
    {run : Run} {artifact : Artifact}
    (member :
      artifact ∈ run.services.flatMap fun service =>
        service.declaration.artifacts) :
    ¬ modelKinds.contains artifact.kind = true := by
  obtain ⟨service, _, emitted⟩ := List.mem_flatMap.1 member
  rw [List.contains_iff_mem]
  exact Service.Declaration.kind_not_mem_modelKinds emitted

/-- The files of a report that hold models are those of its models. -/
theorem Run.modelFiles_report (config : Config) (document : Value) :
    (Run.ofDocument config document).report.modelFiles =
      (Run.ofDocument config document).models.flatMap
        ItemResult.artifacts := by
  have services :=
    List.filter_eq_nil_iff.2 fun _ =>
      @Run.not_isModelKind_of_mem_services (Run.ofDocument config document) _
  rw [Report.modelFiles, Run.report_artifacts, List.filter_append, services,
    List.append_nil, List.filter_eq_self]
  exact fun _ => Run.isModelKind_of_mem_models

private theorem Model.inventory_congr
    (schemas : List (String × Value)) {config config' : Config}
    (namespaces : config'.modelsNamespace = config.modelsNamespace) :
    Model.inventory schemas config' = Model.inventory schemas config := by
  have same : Model.modelNamespace config' = Model.modelNamespace config := by
    funext category kind
    rw [Model.modelNamespace, Model.modelNamespace, namespaces]
  rw [Model.inventory, Model.inventory, same]

private theorem modelFiles_under
    (document : Value) {config config' : Config}
    (namespaces : config'.modelsNamespace = config.modelsNamespace) :
    (Run.ofDocument config' document).report.modelFiles =
      (Run.ofDocument config document).report.modelFiles := by
  have descriptors :=
    Model.inventory_congr (Specification.schemas document) namespaces
  rw [Run.modelFiles_report, Run.modelFiles_report]
  simp only [Run.ofDocument, descriptors]

/-- What does not depend on how a run is set up comes out the same, be it a
fault or a part of the report. -/
theorem map_generate_congr
    {α : Type} (document : Value) (config config' : Config)
    {read : Report → α}
    (same :
      read (Run.ofDocument config' document).report =
        read (Run.ofDocument config document).report) :
    (generate config' document).map read =
      (generate config document).map read := by
  have survey :
      (Run.ofDocument config' document).survey =
        (Run.ofDocument config document).survey :=
    rfl
  cases ended : (Run.ofDocument config document).survey.fault with
  | some fault =>
      have ended' :
          (Run.ofDocument config' document).survey.fault = some fault := by
        rw [survey, ended]
      rw [generate_of_fault ended, generate_of_fault ended']
  | none =>
      have ended' :
          (Run.ofDocument config' document).survey.fault = none := by
        rw [survey, ended]
      rw [generate_of_no_fault ended, generate_of_no_fault ended']
      exact congrArg Except.ok same

/-- Settings that drop the same parts of service names lead to the same fault or
to reports with the same remarks, paths and kinds.  Settings with the same
namespace of models lead to the same fault or to the same files of models. -/
theorem generate_confines_settings
    (document : Value) (config config' : Config) :
    (config'.cleanup = config.cleanup →
      (generate config' document).map Report.outline =
        (generate config document).map Report.outline) ∧
    (config'.modelsNamespace = config.modelsNamespace →
      (generate config' document).map Report.modelFiles =
        (generate config document).map Report.modelFiles) := by
  constructor
  · intro cleanup
    exact map_generate_congr document config config'
      (outline_under document cleanup)
  · intro namespaces
    exact map_generate_congr document config config'
      (modelFiles_under document namespaces)

/-- Settings that keep the namespace of models and change all else. -/
def purseConfig : Config :=
  { servicesNamespace := "Purse"
    cleanup := { removeResource := false, removeVersion := false }
    httpClient := "IPurse"
    httpClientNamespace := some "Purse.Http" }

theorem generate_confines_settings_of_coins :
    coinConfig.cleanup = ({} : Config).cleanup ∧
      (generate coinConfig coinDocument).map Report.outline =
        (generate {} coinDocument).map Report.outline ∧
      purseConfig.modelsNamespace = ({} : Config).modelsNamespace ∧
      (generate purseConfig coinDocument).map Report.modelFiles =
        (generate {} coinDocument).map Report.modelFiles :=
  ⟨rfl, (generate_confines_settings coinDocument {} coinConfig).1 rfl,
    rfl, (generate_confines_settings coinDocument {} purseConfig).2 rfl⟩

end OpenApiSharp
