import OpenApiSharp.CommandLine.Plan
import OpenApiSharp.Proofs.Generate.Accounting
import OpenApiSharp.Proofs.Generate.DefinitionOrder
import OpenApiSharp.Proofs.Generate.Settings

/-!
# Inspection foretells generation

An inspection counts definitions and endpoints and generates nothing.  Every
definition becomes a file or an error, and every endpoint becomes a method or an
error, so its numbers are those of a generation run, and its remarks stand
between those on models and those on services.
-/

namespace OpenApiSharp

open Document Naming

/-- An outcome adds either one file or one error, and no warning. -/
private theorem Model.Descriptor.count_generate
    (descriptor : Model.Descriptor) (index : Model.NamespaceIndex) :
    (descriptor.generate index).artifacts.length +
        (descriptor.generate index).diagnostics.countP (·.level == .error) =
      1 := by
  rw [generate]
  cases descriptor.declaration index <;> rfl

/-- As many descriptors as there are files and errors of models. -/
private theorem Model.count_generated
    (descriptors : List Model.Descriptor) (index : Model.NamespaceIndex) :
    ((descriptors.map fun descriptor =>
        descriptor.generate index).flatMap ItemResult.artifacts).length +
      ((descriptors.map fun descriptor =>
        descriptor.generate index).flatMap ItemResult.diagnostics).countP
          (·.level == .error) =
      descriptors.length := by
  induction descriptors with
  | nil => rfl
  | cons descriptor rest inductionHypothesis =>
      have first := descriptor.count_generate index
      rw [List.map_cons, List.flatMap_cons, List.flatMap_cons,
        List.length_append, List.countP_append, List.length_cons]
      omega

theorem countP_error_eq_zero
    {diagnostics : List Diagnostic}
    (warnings : ∀ diagnostic ∈ diagnostics, diagnostic.level = .warning) :
    diagnostics.countP (·.level == .error) = 0 := by
  rw [List.countP_eq_length_filter, filter_error_eq_nil warnings]
  rfl

/-- Each endpoint is counted once, as a method or as an error. -/
@[simp]
private theorem count_outcomes
    (outcomes : List (Except Diagnostic Service.Method)) :
    (outcomes.filterMap Except.toOption).length +
        (outcomes.filterMap errorOf?).length =
      outcomes.length := by
  induction outcomes with
  | nil => rfl
  | cons outcome rest inductionHypothesis =>
      rw [List.length_cons, ← inductionHypothesis]
      cases outcome with
      | error diagnostic =>
          have noMethod :
              (Except.error diagnostic :
                Except Diagnostic Service.Method).toOption = none :=
            rfl
          have oneError :
              errorOf? (.error diagnostic) = some diagnostic :=
            rfl
          rw [List.filterMap_cons_none noMethod,
            List.filterMap_cons_some oneError, List.length_cons]
          omega
      | ok method =>
          have oneMethod :
              (Except.ok method :
                Except Diagnostic Service.Method).toOption = some method :=
            rfl
          have noError : errorOf? (.ok method) = none := rfl
          rw [List.filterMap_cons_some oneMethod,
            List.filterMap_cons_none noError, List.length_cons]
          omega

private theorem ServiceRun.countP_error (service : ServiceRun) :
    service.diagnostics.countP (·.level == .error) =
      ((service.results.map (outcomeOf service.tag)).filterMap
        errorOf?).length := by
  rw [List.countP_eq_length_filter]
  exact congrArg List.length service.errors_share

private theorem ServiceRun.count_ofEndpoints
    (config : Config) (index : Model.NamespaceIndex)
    (group : String × List Service.Endpoint) (name : String) :
    let service := ServiceRun.ofEndpoints config index group name
    service.declaration.methods.length +
        service.diagnostics.countP (·.level == .error) =
      group.2.length := by
  intro service
  have results : service.results.length = group.2.length :=
    (Service.methodResults_forall₂ (name ++ "Service") []
      group.2).length_eq.symm
  have methods :
      service.declaration.methods =
        (service.results.map (outcomeOf service.tag)).filterMap
          Except.toOption :=
    (filterMap_outcomeOf service.tag _).symm
  rw [methods, service.countP_error, count_outcomes, List.length_map, results]

/-- Each definition of a document is a file or an error of the first part. -/
private theorem Run.countP_modelPart (config : Config) (document : Value) :
    let run := Run.ofDocument config document
    run.modelPart.artifacts.length +
        run.modelPart.diagnostics.countP (·.level == .error) =
      run.descriptors.length := by
  intro run
  have renamings :
      (Model.renamings run.descriptors).countP (·.level == .error) = 0 :=
    countP_error_eq_zero fun _ => level_of_mem_renamings
  rw [Run.modelPart, List.countP_append, renamings, Nat.zero_add]
  exact Model.count_generated run.descriptors
    (Model.indexOf run.descriptors)

/-- A report has as many interfaces as services, and as many classes. -/
private theorem Run.countP_artifacts
    (config : Config) (document : Value) {kind : String}
    (once :
      ∀ service : Service.Declaration,
        service.artifacts.countP (·.kind == kind) = 1)
    (noModel : kind ∉ modelKinds) :
    let run := Run.ofDocument config document
    run.report.artifacts.countP (·.kind == kind) = run.services.length := by
  intro run
  have models :
      (run.models.flatMap ItemResult.artifacts).countP (·.kind == kind) =
        0 := by
    rw [List.countP_eq_zero]
    intro artifact member same
    obtain ⟨outcome, produced, emitted⟩ := List.mem_flatMap.1 member
    obtain ⟨descriptor, _, rfl⟩ := List.mem_map.1 produced
    apply noModel
    rw [← eq_of_beq same]
    exact Model.Descriptor.kind_of_mem_artifacts emitted
  have services :
      (run.services.flatMap fun service =>
        service.declaration.artifacts).countP (·.kind == kind) =
        run.services.length := by
    rw [List.countP_flatMap]
    simp [Function.comp_def, once]
  rw [Run.report_artifacts, List.countP_append, models, services,
    Nat.zero_add]

namespace CommandLine

/-- What an inspection lists: the definitions by category, and the number of
operations by tag. -/
structure Listing where
  modelCount : Nat
  categories : List (String × List String)
  serviceCount : Nat
  operations : List (String × Nat)
  deriving DecidableEq, Repr

def Listing.lines (listing : Listing) : List String :=
  ["Models (" ++ toString listing.modelCount ++ "):"] ++
    listing.categories.map (fun (category, names) =>
      "  " ++ pluralize category ++ ": " ++ ", ".intercalate names) ++
    ["Services (" ++ toString listing.serviceCount ++ "):"] ++
    listing.operations.map fun (tag, count) =>
      "  " ++ tag ++ ": " ++ toString count ++ " operations"

def Listing.ofDocument (document : Value) : Listing :=
  let categories := categorizeAll (Specification.schemas document)
  let groups := (Service.survey (Specification.paths document)).groups
  { modelCount := (categories.flatMap (·.2)).length
    categories :=
      categories.map fun (category, models) => (category, models.map (·.1))
    serviceCount := groups.length
    operations :=
      groups.map fun (tag, endpoints) => (tag, endpoints.length) }

/-- The plan of an inspection with this listing and these remarks. -/
def inspectionPlan
    (listing : Listing) (remarks : List Diagnostic) (log : String) : Plan where
  opening :=
    { output := printed listing.lines
      errors := log ++ printed (diagnosticLines remarks) }
  ending := .done

private theorem Listing.lines_ofDocument (document : Value) :
    (Listing.ofDocument document).lines =
      modelLines document ++
        serviceLines
          (Service.survey (Specification.paths document)).groups := by
  rw [lines, modelLines, serviceLines]
  simp only [ofDocument, List.map_map, List.append_assoc]
  rfl

private theorem planInspect_of_no_fault
    (verbose : Bool) {document : Value}
    (complete :
      (Service.survey (Specification.paths document)).fault = none) :
    let survey := Service.survey (Specification.paths document)
    planInspect verbose (.ok document) =
      inspectionPlan (Listing.ofDocument document) survey.diagnostics
        (logged verbose (surveyLog survey)) := by
  intro survey
  simp only [planInspect, complete]
  rw [inspectionPlan, Listing.lines_ofDocument]

/-- How the number of operations of a tag foretells a service: each of them is
one of its methods or one of its errors. -/
structure ForetellsService (entry : String × Nat) (service : ServiceRun) :
    Prop where
  tag : entry.1 = service.tag
  count :
    entry.2 =
      service.declaration.methods.length +
        service.diagnostics.countP (·.level == .error)

/-- How a listing and the remarks of an inspection foretell the report of a
run. -/
structure Foretells (listing : Listing) (remarks : List Diagnostic)
    (run : Run) (report : Report) : Prop where
  models :
    listing.modelCount =
      report.modelFiles.length +
        run.modelPart.diagnostics.countP (·.level == .error)
  names :
    listing.categories.flatMap (·.2) =
      run.descriptors.map Model.Descriptor.sourceName
  interfaces :
    listing.serviceCount =
      report.artifacts.countP (·.kind == "interface")
  implementations :
    listing.serviceCount =
      report.artifacts.countP (·.kind == "implementation")
  /-- No tag is listed twice. -/
  tags : (listing.operations.map (·.1)).Nodup
  operations :
    List.Forall₂ ForetellsService listing.operations run.services
  artifacts :
    report.artifacts =
      report.modelFiles ++
        run.services.flatMap fun service => service.declaration.artifacts
  /-- The remarks stand between those on models and those on services. -/
  diagnostics :
    report.diagnostics =
      run.modelPart.diagnostics ++ remarks ++
        run.services.flatMap ServiceRun.diagnostics

section OfDocument

variable (config : Config) (document : Value)

@[simp]
private theorem Listing.names_ofDocument :
    (Listing.ofDocument document).categories.flatMap (·.2) =
      (Run.ofDocument config document).descriptors.map
        Model.Descriptor.sourceName := by
  have described :=
    Model.inventory_describes (Specification.schemas document) config
  have names :
      (Run.ofDocument config document).descriptors.map
          Model.Descriptor.sourceName =
        (Model.categorized (Specification.schemas document)).map
          fun definition => definition.2.1 :=
    (Related.map_eq (fun _ _ describes => describes.sourceName.symm)
      described).symm
  rw [names, Model.categorized, List.map_flatMap]
  simp only [ofDocument, List.flatMap_map, List.map_map]
  rfl

@[simp]
private theorem Listing.modelCount_ofDocument :
    (Listing.ofDocument document).modelCount =
      (Run.ofDocument config document).descriptors.length := by
  have names := congrArg List.length (names_ofDocument config document)
  rw [List.length_map] at names
  rw [← names]
  simp only [ofDocument, List.flatMap_map, List.length_flatMap,
    List.length_map]

private theorem Listing.operations_ofDocument :
    List.Forall₂ ForetellsService
      (Listing.ofDocument document).operations
      (Run.ofDocument config document).services := by
  simp only [ofDocument]
  rw [List.forall₂_map_left_iff]
  apply Run.services_related
  intro group _ name _
  have count :=
    ServiceRun.count_ofEndpoints config
      (Model.indexOf (Run.ofDocument config document).descriptors)
      group name
  exact { tag := rfl, count := count.symm }

@[simp]
private theorem Listing.serviceCount_ofDocument :
    (Listing.ofDocument document).serviceCount =
      (Run.ofDocument config document).services.length := by
  rw [← (operations_ofDocument config document).length_eq]
  simp only [ofDocument, List.length_map]

private theorem foretells_ofDocument :
    let run := Run.ofDocument config document
    Foretells (Listing.ofDocument document) run.survey.diagnostics run
      run.report := by
  intro run
  have modelFiles : run.report.modelFiles = run.modelPart.artifacts :=
    Run.modelFiles_report config document
  have modelCount : (Listing.ofDocument document).modelCount = _ :=
    Listing.modelCount_ofDocument config document
  have serviceCount : (Listing.ofDocument document).serviceCount = _ :=
    Listing.serviceCount_ofDocument config document
  exact
    { models := by
        rw [modelCount, modelFiles]
        exact (Run.countP_modelPart config document).symm
      names := Listing.names_ofDocument config document
      interfaces := by
        rw [serviceCount]
        exact
          (Run.countP_artifacts config document (fun _ => rfl)
            (by decide)).symm
      implementations := by
        rw [serviceCount]
        exact
          (Run.countP_artifacts config document (fun _ => rfl)
            (by decide)).symm
      tags := by
        simp only [Listing.ofDocument, List.map_map]
        exact Keyed.nodup_keys_group _ _
      operations := Listing.operations_ofDocument config document
      artifacts := by
        rw [modelFiles]
        exact run.report_artifacts
      diagnostics := by
        rw [run.report_diagnostics, Run.modelPart] }

/-- Where a document can be generated from, its inspection ends well, and what
it prints foretells the report. -/
theorem planInspect_foretells_generate
    (verbose : Bool) {config : Config} {document : Value} {report : Report}
    (completed : generate config document = .ok report) :
    let run := Run.ofDocument config document
    planInspect verbose (.ok document) =
        inspectionPlan (Listing.ofDocument document) run.survey.diagnostics
          (logged verbose (surveyLog run.survey)) ∧
      Foretells (Listing.ofDocument document) run.survey.diagnostics run
        report := by
  intro run
  have complete : run.survey.fault = none := by
    cases ended : run.survey.fault with
    | none => rfl
    | some fault =>
        rw [generate_of_fault ended] at completed
        cases completed
  rw [report_of_generate completed]
  exact ⟨planInspect_of_no_fault verbose complete,
    foretells_ofDocument config document⟩

end OfDocument

/-- The document of deliveries has three definitions, of which one has no
declaration, and one operation. -/
theorem planInspect_foretells_deliveries :
    let run := Run.ofDocument {} deliveryDocument
    let listing : Listing :=
      { modelCount := 3
        categories :=
          [("Delivery", ["Delivery", "DeliveryDto"]), ("Day", ["Day"])]
        serviceCount := 1
        operations := [("delivery", 1)] }
    ∃ report, generate {} deliveryDocument = .ok report ∧
      planInspect true (.ok deliveryDocument) =
        inspectionPlan listing run.survey.diagnostics
          (logged true (surveyLog run.survey)) ∧
      Foretells listing run.survey.diagnostics run report := by
  intro run listing
  have complete : run.survey.fault = none := by
    decide +kernel
  have listed : Listing.ofDocument deliveryDocument = listing := by
    decide +kernel
  have completed := generate_of_no_fault complete
  have foretold := planInspect_foretells_generate true completed
  rw [listed] at foretold
  exact ⟨_, completed, foretold⟩

end CommandLine

end OpenApiSharp
