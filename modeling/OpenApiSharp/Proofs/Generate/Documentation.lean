import OpenApiSharp.Proofs.Documentation.Model
import OpenApiSharp.Proofs.Documentation.Service

namespace OpenApiSharp

open Document

private theorem Service.declare_bare
    (name tag : String) (methods : List Service.Method)
    (endpoints : List Service.Endpoint) (config : Config)
    (index : Model.NamespaceIndex) :
    Service.declare name tag (methods.map Service.Method.bare)
        (endpoints.map Service.Endpoint.bare) config index =
      (Service.declare name tag methods endpoints config index).bare := by
  have typeTexts :
      ∀ endpoint : Service.Endpoint,
        endpoint.bare.typeTexts = endpoint.typeTexts := by
    intro endpoint
    rw [Service.Endpoint.typeTexts, Service.Endpoint.typeTexts,
      Service.Endpoint.bare, List.map_map]
    rfl
  have types :
      (endpoints.map Service.Endpoint.bare).flatMap
          Service.Endpoint.typeTexts =
        endpoints.flatMap Service.Endpoint.typeTexts := by
    rw [List.flatMap_map]
    exact List.flatMap_congr fun endpoint _ => typeTexts endpoint
  simp only [Service.declare, types, List.any_map]
  rfl

/-- Services with the same remarks and with files of the same code. -/
structure ServiceRun.SameCode (service service' : ServiceRun) : Prop where
  diagnostics : service.diagnostics = service'.diagnostics
  artifacts :
    service.declaration.artifacts.map Artifact.code =
      service'.declaration.artifacts.map Artifact.code

private theorem sameCode_ofEndpoints
    (config : Config) (index : Model.NamespaceIndex)
    (group : String × List Service.Endpoint) (name : String) :
    ServiceRun.SameCode (ServiceRun.ofEndpoints config index group name)
      (ServiceRun.ofEndpoints config index
        (group.1, group.2.map Service.Endpoint.bare) name) := by
  constructor
  · simp only [ServiceRun.diagnostics, ServiceRun.ofEndpoints,
      Service.methodResults_bare, Service.resultDiagnostics_bare]
    rfl
  · simp only [ServiceRun.ofEndpoints, Service.methodResults_bare,
      Service.builtMethods_bare, Service.declare_bare]
    symm
    apply Service.Declaration.code_artifacts
    exact fun method => Service.documented_of_mem_builtMethods

section Runs

variable (config : Config) (document : Value)

/-- The descriptors of a document, and those of the document without
documentation. -/
private theorem inventory_undocumented :
    List.Forall₂ Model.Descriptor.Undescribed
      (Model.inventory (Specification.schemas document) config)
      (Model.inventory (Specification.schemas document.undocumented)
        config) := by
  refine Model.inventory_twins ?_
    (Specification.schemas_undocumented document) config
  rintro name node _ rfl
  exact (Model.classify_undescribedDefinition node).symm

@[simp]
private theorem index_undocumented :
    Model.indexOf
        (Model.inventory (Specification.schemas document.undocumented)
          config) =
      Model.indexOf
        (Model.inventory (Specification.schemas document) config) :=
  (Model.indexOf_twins (inventory_undocumented config document)).symm

private theorem models_undocumented :
    (Run.ofDocument config document.undocumented).models.map
        ItemResult.code =
      (Run.ofDocument config document).models.map ItemResult.code := by
  simp only [Run.ofDocument, index_undocumented, List.map_map]
  symm
  refine Related.map_eq ?_ (inventory_undocumented config document)
  intro left right twin
  exact (twin.code_generate _).symm

private theorem services_undocumented :
    List.Forall₂ ServiceRun.SameCode
      (Run.ofDocument config document).services
      (Run.ofDocument config document.undocumented).services := by
  simp only [Run.ofDocument, index_undocumented,
    Service.groups_undocumented, List.map_map, Function.comp_def]
  have groups :
      List.Forall₂
        (fun group group' : String × List Service.Endpoint =>
          group' = (group.1, group.2.map Service.Endpoint.bare))
        (Service.survey (Specification.paths document)).groups
        ((Service.survey (Specification.paths document)).groups.map
          fun group => (group.1, group.2.map Service.Endpoint.bare)) := by
    rw [List.forall₂_map_right_iff, List.forall₂_same]
    exact fun _ _ => rfl
  refine Related.zipWith_same ?_ groups _
  rintro group _ name rfl
  exact sameCode_ofEndpoints config _ group name

private theorem Run.report_code_artifacts (run : Run) :
    run.report.code.artifacts =
      (run.models.flatMap ItemResult.artifacts).map Artifact.code ++
        run.services.flatMap fun service =>
          service.declaration.artifacts.map Artifact.code := by
  change run.report.artifacts.map Artifact.code = _
  rw [Run.report_artifacts, List.map_append, ← List.map_flatMap]

private theorem Run.report_code_diagnostics (run : Run) :
    run.report.code.diagnostics =
      Model.renamings run.descriptors ++
        run.models.flatMap ItemResult.diagnostics ++
        run.survey.diagnostics ++
        run.services.flatMap ServiceRun.diagnostics :=
  run.report_diagnostics

/-- The report on a document without documentation has the same code. -/
private theorem report_undocumented :
    (Run.ofDocument config document.undocumented).report.code =
      (Run.ofDocument config document).report.code := by
  have models := models_undocumented config document
  have services := services_undocumented config document
  apply Report.ext
  · have files :
        (Run.ofDocument config document.undocumented).services.flatMap
            (fun service =>
              service.declaration.artifacts.map Artifact.code) =
          (Run.ofDocument config document).services.flatMap
            fun service =>
              service.declaration.artifacts.map Artifact.code :=
      (Related.flatMap_eq (fun _ _ same => same.artifacts) services).symm
    rw [Run.report_code_artifacts, Run.report_code_artifacts,
      ItemResult.flatMap_artifacts_code models, files]
  · have renamings :
        Model.renamings
            (Run.ofDocument config document.undocumented).descriptors =
          Model.renamings (Run.ofDocument config document).descriptors :=
      (Model.renamings_twins (inventory_undocumented config document)).symm
    have survey :
        (Run.ofDocument config document.undocumented).survey.diagnostics =
          (Run.ofDocument config document).survey.diagnostics :=
      Service.survey_diagnostics_undocumented document
    have remarks :
        (Run.ofDocument config document.undocumented).services.flatMap
            ServiceRun.diagnostics =
          (Run.ofDocument config document).services.flatMap
            ServiceRun.diagnostics :=
      (Related.flatMap_eq (fun _ _ same => same.diagnostics) services).symm
    rw [Run.report_code_diagnostics, Run.report_code_diagnostics, renamings,
      survey, remarks, ItemResult.flatMap_diagnostics_code models]

private theorem generate_undocumented :
    (generate config document.undocumented).map Report.code =
      (generate config document).map Report.code := by
  have faults :
      (Run.ofDocument config document.undocumented).survey.fault =
        (Run.ofDocument config document).survey.fault := by
    change (Service.survey _).fault = (Service.survey _).fault
    rw [Service.survey_undocumented]
  simp only [generate]
  rw [faults]
  cases (Run.ofDocument config document).survey.fault with
  | some fault => rfl
  | none => exact congrArg Except.ok (report_undocumented config document)

end Runs

/-- Documents that differ only in their documentation fail alike or are
generated with the same remarks, paths, kinds and code. -/
theorem generate_ignores_documentation
    (config : Config) {document document' : Value}
    (same : document.undocumented = document'.undocumented) :
    (generate config document).map Report.code =
      (generate config document').map Report.code := by
  rw [← generate_undocumented config document, same,
    generate_undocumented config document']

/-- A document with one schema and one operation, whose documentation is a
given text wherever a text can stand. -/
def documentedWith (documentation : String) : Value :=
  .map
    [(.text "paths", .map
      [(.text "/pets", .map
        [(.text "post", .map
          [(.text "tags", .list [.text "pet"]),
           (.text "operationId", .text "addPet"),
           (.text "summary", .text documentation),
           (.text "parameters", .list
             [.map
               [(.text "name", .text "kind"), (.text "in", .text "query"),
                (.text "type", .text "string"),
                (.text "description", .text documentation)]])])])]),
     (.text "definitions", .map
      [(.text "Pet", .map
        [(.text "description", .text documentation),
         (.text "properties", .map
           [(.text "name", .map
             [(.text "type", .text "string"),
              (.text "description", .text documentation)])])])])]

theorem generate_ignores_line_breaks_in_documentation :
    (documentedWith "").undocumented =
        (documentedWith "*/ \u2028 public <b>\n").undocumented ∧
      (generate {} (documentedWith "")).map Report.code =
        (generate {} (documentedWith "*/ \u2028 public <b>\n")).map
          Report.code :=
  ⟨rfl, generate_ignores_documentation {} rfl⟩
end OpenApiSharp
