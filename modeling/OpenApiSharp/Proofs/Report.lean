import OpenApiSharp.Generate
import OpenApiSharp.Proofs.Naming.Fresh
import OpenApiSharp.Proofs.Related

namespace OpenApiSharp

open Document

namespace ItemResult

def artifacts : ItemResult → List Artifact
  | generated artifact => [artifact]
  | skipped _ _ => []
  | failed _ _ => []

def diagnostics : ItemResult → List Diagnostic
  | generated _ => []
  | skipped item reason => [⟨.warning, item, reason⟩]
  | failed item message => [⟨.error, item, message⟩]

end ItemResult

theorem filter_error_eq_nil
    {diagnostics : List Diagnostic}
    (warnings : ∀ diagnostic ∈ diagnostics, diagnostic.level = .warning) :
    diagnostics.filter (·.level == .error) = [] := by
  rw [List.filter_eq_nil_iff]
  intro diagnostic member
  rw [warnings diagnostic member]
  decide

attribute [ext] Report

namespace Report

@[simp]
theorem note_artifacts (report : Report) (diagnostics : List Diagnostic) :
    (report.note diagnostics).artifacts = report.artifacts :=
  rfl

@[simp]
theorem note_diagnostics (report : Report) (diagnostics : List Diagnostic) :
    (report.note diagnostics).diagnostics =
      report.diagnostics ++ diagnostics :=
  rfl

@[simp]
private theorem record_artifacts (report : Report) (result : ItemResult) :
    (report.record result).artifacts =
      report.artifacts ++ result.artifacts := by
  cases result with
  | generated artifact => rfl
  | skipped item reason => simp [record, warn, ItemResult.artifacts]
  | failed item message => simp [record, ItemResult.artifacts]

@[simp]
private theorem record_diagnostics (report : Report) (result : ItemResult) :
    (report.record result).diagnostics =
      report.diagnostics ++ result.diagnostics := by
  cases result with
  | generated artifact => simp [record, ItemResult.diagnostics]
  | skipped item reason => rfl
  | failed item message => rfl

/-- What is read off a report grows by what each step adds to it. -/
private theorem foldl_appends
    {α β : Type} {step : Report → α → Report} {part : Report → List β}
    {added : α → List β}
    (each : ∀ report element,
      part (step report element) = part report ++ added element)
    (elements : List α) (report : Report) :
    part (elements.foldl step report) =
      part report ++ elements.flatMap added := by
  induction elements generalizing report with
  | nil => simp
  | cons element rest inductionHypothesis =>
      rw [List.foldl_cons, inductionHypothesis, each, List.flatMap_cons,
        List.append_assoc]

@[simp]
theorem recordAll_artifacts (report : Report) (results : List ItemResult) :
    (report.recordAll results).artifacts =
      report.artifacts ++ results.flatMap ItemResult.artifacts :=
  foldl_appends record_artifacts results report

@[simp]
theorem recordAll_diagnostics (report : Report) (results : List ItemResult) :
    (report.recordAll results).diagnostics =
      report.diagnostics ++ results.flatMap ItemResult.diagnostics :=
  foldl_appends record_diagnostics results report

@[simp]
private theorem recordAll_generated_artifacts
    (report : Report) (artifacts : List Artifact) :
    (report.recordAll (artifacts.map .generated)).artifacts =
      report.artifacts ++ artifacts := by
  simp [List.flatMap_map, ItemResult.artifacts]

@[simp]
private theorem recordAll_generated_diagnostics
    (report : Report) (artifacts : List Artifact) :
    (report.recordAll (artifacts.map .generated)).diagnostics =
      report.diagnostics := by
  simp [List.flatMap_map, ItemResult.diagnostics]

end Report

def ServiceRun.addTo (report : Report) (service : ServiceRun) : Report :=
  (report.note service.diagnostics).recordAll
    (service.declaration.artifacts.map .generated)

@[simp]
private theorem foldl_addTo_artifacts
    (services : List ServiceRun) (report : Report) :
    (services.foldl ServiceRun.addTo report).artifacts =
      report.artifacts ++
        services.flatMap fun service => service.declaration.artifacts := by
  refine Report.foldl_appends (fun report service => ?_) services report
  rw [ServiceRun.addTo, Report.recordAll_generated_artifacts,
    Report.note_artifacts]

@[simp]
private theorem foldl_addTo_diagnostics
    (services : List ServiceRun) (report : Report) :
    (services.foldl ServiceRun.addTo report).diagnostics =
      report.diagnostics ++ services.flatMap ServiceRun.diagnostics := by
  refine Report.foldl_appends (fun report service => ?_) services report
  rw [ServiceRun.addTo, Report.recordAll_generated_diagnostics,
    Report.note_diagnostics]

/-- Each group of endpoints has a service, in its place. -/
theorem Run.services_related
    {config : Config} {document : Value}
    {R : String × List Service.Endpoint → ServiceRun → Prop}
    (each :
      ∀ group ∈ (Run.ofDocument config document).survey.groups,
        ∀ name ∈
            serviceNames config.cleanup
              ((Run.ofDocument config document).survey.groups.map (·.1)),
          R group
            (ServiceRun.ofEndpoints config
              (Model.indexOf (Run.ofDocument config document).descriptors)
              group name)) :
    List.Forall₂ R (Run.ofDocument config document).survey.groups
      (Run.ofDocument config document).services := by
  apply Related.zipWith_right
  · rw [serviceNames, Naming.assign_length, List.length_map]
    rfl
  · exact each

/-- The files of a run: those of its models, then those of its services. -/
theorem Run.report_artifacts (run : Run) :
    run.report.artifacts =
      run.models.flatMap ItemResult.artifacts ++
        run.services.flatMap fun service =>
          service.declaration.artifacts := by
  change (run.services.foldl ServiceRun.addTo _).artifacts = _
  rw [foldl_addTo_artifacts]
  simp

/-- The remarks of a run, in four parts: on names of models, on models that
failed, on operations, and on services. -/
theorem Run.report_diagnostics (run : Run) :
    run.report.diagnostics =
      Model.renamings run.descriptors ++
        run.models.flatMap ItemResult.diagnostics ++
        run.survey.diagnostics ++
        run.services.flatMap ServiceRun.diagnostics := by
  change (run.services.foldl ServiceRun.addTo _).diagnostics = _
  rw [foldl_addTo_diagnostics]
  simp

section Ends

variable {config : Config} {document : Value}

theorem generate_of_fault
    {fault : Service.KeyFault}
    (ended : (Run.ofDocument config document).survey.fault = some fault) :
    generate config document = .error fault := by
  simp only [generate, ended]

theorem generate_of_no_fault
    (complete : (Run.ofDocument config document).survey.fault = none) :
    generate config document =
      .ok (Run.ofDocument config document).report := by
  simp only [generate, complete]

theorem fault_eq_none_of_generate
    {report : Report} (completed : generate config document = .ok report) :
    (Run.ofDocument config document).survey.fault = none := by
  cases ended : (Run.ofDocument config document).survey.fault with
  | some fault =>
      rw [generate_of_fault ended] at completed
      cases completed
  | none => rfl

theorem report_of_generate
    {report : Report} (completed : generate config document = .ok report) :
    report = (Run.ofDocument config document).report := by
  rw [generate_of_no_fault (fault_eq_none_of_generate completed)] at completed
  exact (Except.ok.inj completed).symm

end Ends

end OpenApiSharp
