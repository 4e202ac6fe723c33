import OpenApiSharp.Proofs.Model.Inventory
import OpenApiSharp.Proofs.Report
import OpenApiSharp.Proofs.Specification

namespace OpenApiSharp

open Document

/-- An outcome of a definition: a file at the path of its descriptor, or an
error in its name. -/
inductive OwnOutcome (descriptor : Model.Descriptor) : ItemResult → Prop
  | generated (content : String) :
      OwnOutcome descriptor
        (.generated
          { path := descriptor.path
            content
            kind := descriptor.kind.text })
  | failed (message : String) :
      OwnOutcome descriptor (.failed descriptor.sourceName message)

/-- The report with what an outcome adds between two others. -/
def ItemResult.between
    (outcome : ItemResult) (before after : Report) : Report where
  artifacts := before.artifacts ++ outcome.artifacts ++ after.artifacts
  diagnostics := before.diagnostics ++ outcome.diagnostics ++ after.diagnostics

/-- Results of two runs that agree in everything but the outcome of the
definition under a key. -/
inductive AgreeOutside (config : Config) (document : Value) (key : String) :
    Except Service.KeyFault Report → Except Service.KeyFault Report → Prop
  | faults (fault : Service.KeyFault) :
      AgreeOutside config document key (.error fault) (.error fault)
  | reports (report : Report) :
      AgreeOutside config document key (.ok report) (.ok report)
  | outcomes {descriptor : Model.Descriptor}
      (member :
        descriptor ∈ Model.inventory (Specification.schemas document) config)
      (named : descriptor.sourceName = key)
      (before after : Report) {outcome outcome' : ItemResult}
      (own : OwnOutcome descriptor outcome)
      (own' : OwnOutcome descriptor outcome') :
      AgreeOutside config document key
        (.ok (outcome.between before after))
        (.ok (outcome'.between before after))

private theorem Model.Descriptor.ownOutcome
    (descriptor : Model.Descriptor) (index : Model.NamespaceIndex) :
    OwnOutcome descriptor (descriptor.generate index) := by
  cases declared : descriptor.declaration index with
  | ok declaration =>
      rw [Model.Descriptor.generate, declared]
      exact .generated declaration.source
  | error fault =>
      rw [Model.Descriptor.generate, declared]
      exact .failed ("model generation failed: " ++ fault.message)

abbrev Model.Descriptor.Redefined (key : String) :
    Model.Descriptor → Model.Descriptor → Prop :=
  Model.Descriptor.Twin (Specification.Redefined key)

private theorem Model.Descriptor.Redefined.ownOutcome
    {key : String} {left right : Model.Descriptor}
    (twin : Model.Descriptor.Redefined key left right)
    (index : Model.NamespaceIndex) :
    OwnOutcome left (right.generate index) := by
  have path : right.path = left.path := by
    rw [path, path, folder, folder, twin.name, twin.kind, twin.namespaceName]
  have own := right.ownOutcome index
  generalize right.generate index = outcome at own
  cases own with
  | generated content =>
      rw [path, ← twin.kind]
      exact .generated content
  | failed message =>
      rw [← twin.sourceName]
      exact .failed message

/-- Another definition has the same outcome as before. -/
theorem Model.Descriptor.Redefined.generate_eq
    {key : String} {left right : Model.Descriptor}
    (twin : Model.Descriptor.Redefined key left right)
    (index : Model.NamespaceIndex) :
    left.sourceName = key ∨ left.generate index = right.generate index := by
  rcases twin.node with same | ⟨named, _⟩
  · have equal : left = right := by
      obtain ⟨name, kind, category, namespaceName, sourceName, node⟩ := left
      obtain ⟨name', kind', category', namespaceName', sourceName', node'⟩ :=
        right
      obtain ⟨rfl, rfl, rfl, rfl, rfl, _⟩ := twin
      cases same
      rfl
    exact Or.inr (by rw [equal])
  · exact Or.inl named

private theorem Model.nodup_sourceNames
    (schemas : List (String × Value)) (config : Config)
    (once : (schemas.map Prod.fst).Nodup) :
    ((Model.inventory schemas config).map
      Model.Descriptor.sourceName).Nodup :=
  (Model.inventory_sourceNames_perm schemas config).nodup_iff.2 once

/-- The report of a run around the outcome of one of its models. -/
private theorem Run.report_eq_between
    (run : Run) {before after : List ItemResult} {outcome : ItemResult}
    (models : run.models = before ++ outcome :: after) :
    run.report =
      outcome.between
        { artifacts := before.flatMap ItemResult.artifacts
          diagnostics :=
            Model.renamings run.descriptors ++
              before.flatMap ItemResult.diagnostics }
        { artifacts :=
            after.flatMap ItemResult.artifacts ++
              run.services.flatMap fun service =>
                service.declaration.artifacts
          diagnostics :=
            after.flatMap ItemResult.diagnostics ++ run.survey.diagnostics ++
              run.services.flatMap ServiceRun.diagnostics } := by
  apply Report.ext
  · rw [Run.report_artifacts, models, List.flatMap_append,
      List.flatMap_cons, ItemResult.between]
    simp only [List.append_assoc]
  · rw [Run.report_diagnostics, models, List.flatMap_append,
      List.flatMap_cons, ItemResult.between]
    simp only [List.append_assoc]

section Runs

variable (config : Config) {document : Value} {key : String} {value : Value}
  (sameKind : ∀ old, (.text key, old) ∈ Specification.definitions document →
    Schema.classify old = Schema.classify value)

include sameKind

private theorem inventory_redefine :
    List.Forall₂ (Model.Descriptor.Redefined key)
      (Model.inventory (Specification.schemas document) config)
      (Model.inventory
        (Specification.schemas (document.redefine key value)) config) := by
  refine Model.inventory_twins ?_
    (Specification.schemas_redefine document key value sameKind) config
  intro name node node' redefined
  exact redefined.sameKind

private theorem index_redefine :
    Model.indexOf
        (Model.inventory
          (Specification.schemas (document.redefine key value)) config) =
      Model.indexOf
        (Model.inventory (Specification.schemas document) config) :=
  (Model.indexOf_twins (inventory_redefine config sameKind)).symm

private theorem services_redefine :
    (Run.ofDocument config (document.redefine key value)).services =
      (Run.ofDocument config document).services := by
  simp only [Run.ofDocument, index_redefine config sameKind,
    Specification.paths_redefine]

private theorem models_redefine :
    (Run.ofDocument config document).models =
        (Run.ofDocument config (document.redefine key value)).models ∨
      ∃ descriptor ∈
          Model.inventory (Specification.schemas document) config,
        descriptor.sourceName = key ∧
        ∃ before after outcome outcome',
          OwnOutcome descriptor outcome ∧ OwnOutcome descriptor outcome' ∧
          (Run.ofDocument config document).models =
            before ++ outcome :: after ∧
          (Run.ofDocument config (document.redefine key value)).models =
            before ++ outcome' :: after := by
  have once :
      ((Model.inventory (Specification.schemas document) config).map
        Model.Descriptor.sourceName).Nodup :=
    Model.nodup_sourceNames _ config (Keyed.nodup_keys_ofList _)
  simp only [Run.ofDocument, index_redefine config sameKind]
  generalize Model.indexOf
    (Model.inventory (Specification.schemas document) config) = index
  have agree :
      ∀ left right, Model.Descriptor.Redefined key left right →
        left.sourceName = key ∨
          left.generate index = right.generate index :=
    fun _ _ twin => twin.generate_eq index
  rcases Related.map_eq_or_split agree (inventory_redefine config sameKind) once with
    same | ⟨before, left, after, before', right, after', parts, parts', named,
      twin, fronts, backs⟩
  · exact Or.inl same
  · refine Or.inr ⟨left, ?_, named, before.map (·.generate index),
      after.map (·.generate index), left.generate index,
      right.generate index, left.ownOutcome index, twin.ownOutcome index,
      ?_, ?_⟩
    · rw [parts]
      exact List.mem_append_right _ List.mem_cons_self
    · rw [parts, List.map_append, List.map_cons]
    · rw [parts', List.map_append, List.map_cons, fronts, backs]

/-- The reports of two runs agree outside of the redefined definition. -/
private theorem agreeOutside_redefine :
    AgreeOutside config document key
      (.ok (Run.ofDocument config document).report)
      (.ok (Run.ofDocument config (document.redefine key value)).report) := by
  let run := Run.ofDocument config document
  let run' := Run.ofDocument config (document.redefine key value)
  have renamings :
      Model.renamings run'.descriptors = Model.renamings run.descriptors :=
    (Model.renamings_twins (inventory_redefine config sameKind)).symm
  have survey : run'.survey.diagnostics = run.survey.diagnostics := by
    change (Service.survey _).diagnostics = (Service.survey _).diagnostics
    rw [Specification.paths_redefine]
  have services : run'.services = run.services := services_redefine config sameKind
  rcases models_redefine config sameKind with
    same | ⟨descriptor, member, named, before, after, outcome, outcome', own,
      own', models, models'⟩
  · have reports : run.report = run'.report := by
      apply Report.ext
      · rw [Run.report_artifacts, Run.report_artifacts, services, same]
      · rw [Run.report_diagnostics, Run.report_diagnostics, renamings, survey,
          services, same]
    change AgreeOutside _ _ _ (.ok run.report) (.ok run'.report)
    rw [← reports]
    exact .reports run.report
  · change AgreeOutside _ _ _ (.ok run.report) (.ok run'.report)
    rw [run.report_eq_between models, run'.report_eq_between models',
      renamings, survey, services]
    exact .outcomes member named _ _ own own'

end Runs

/-- A definition that is redefined by one of the same kind changes the result
of a run in nothing but its own file or error. -/
theorem generate_isolates_definition
    (config : Config) (document : Value) (key : String) (value : Value)
    (sameKind :
      ∀ old, (.text key, old) ∈ Specification.definitions document →
        Schema.classify old = Schema.classify value) :
    AgreeOutside config document key
      (generate config document)
      (generate config (document.redefine key value)) := by
  have survey :
      (Run.ofDocument config (document.redefine key value)).survey =
        (Run.ofDocument config document).survey := by
    change Service.survey _ = Service.survey _
    rw [Specification.paths_redefine]
  simp only [generate]
  rw [survey]
  cases (Run.ofDocument config document).survey.fault with
  | some fault => exact .faults fault
  | none => exact agreeOutside_redefine config sameKind

/-- A document whose first definition has no declaration, since a date has no
JSON text. -/
def shelterDocument : Value :=
  .map
    [(.text "paths", .map []),
     (.text "definitions", .map
      [(.text "Arrival", .map
        [(.text "enum", .list [.scalar (.date ⟨2024, 5, 1⟩)])]),
       (.text "Pet", .map [(.text "type", .text "string")])])]

/-- Another definition of the same kind, which has a declaration. -/
def arrivalDefinition : Value :=
  .map [(.text "enum", .list [.text "early", .text "late"])]

theorem generate_isolates_undeclared_arrival :
    (∀ old,
        (.text "Arrival", old) ∈ Specification.definitions shelterDocument →
          Schema.classify old = Schema.classify arrivalDefinition) ∧
      AgreeOutside {} shelterDocument "Arrival"
        (generate {} shelterDocument)
        (generate {}
          (shelterDocument.redefine "Arrival" arrivalDefinition)) := by
  have sameKind :
      ∀ old,
        (.text "Arrival", old) ∈ Specification.definitions shelterDocument →
          Schema.classify old = Schema.classify arrivalDefinition := by
    intro old member
    rcases List.mem_cons.1 member with first | later
    · cases first
      rfl
    · rw [List.mem_singleton, Prod.mk.injEq, Scalar.text.injEq] at later
      exact absurd later.1 (by decide)
  exact
    ⟨sameKind,
      generate_isolates_definition {} shelterDocument "Arrival"
        arrivalDefinition sameKind⟩

end OpenApiSharp
