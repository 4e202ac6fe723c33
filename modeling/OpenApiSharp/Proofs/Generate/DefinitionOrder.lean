import OpenApiSharp.Model.Declaration
import OpenApiSharp.Proofs.CSharp.Using
import OpenApiSharp.Proofs.Model.UniqueNames
import OpenApiSharp.Proofs.Report
import OpenApiSharp.Proofs.Specification

/-!
# Reports do not depend on the order of definitions

A report has a part on models and, behind it, a part on operations and
services.  Where the names of the definitions are distinct in any case, their
order decides the order within the first part, and nothing else.
-/

namespace OpenApiSharp.Model

open Document Naming Text CSharp

/-- The names of some definitions are distinct in any case. -/
def DistinctNames (schemas : List (String × Value)) : Prop :=
  (schemas.map fun definition => lower (typeName definition.1)).Nodup

/-- The descriptor of a definition that keeps its own name. -/
def Descriptor.ofDefinition
    (config : Config) (definition : String × Value) : Descriptor where
  name := typeName definition.1
  kind := Schema.classify definition.2
  category := categorize definition.1
  namespaceName :=
    modelNamespace config (categorize definition.1)
      (Schema.classify definition.2)
  sourceName := definition.1
  node := definition.2

private theorem modelNames_of_distinct
    {sourceNames : List String}
    (distinct :
      (sourceNames.map fun sourceName => lower (typeName sourceName)).Nodup) :
    modelNames sourceNames = sourceNames.map typeName := by
  have kept :
      ∀ (sourceName : String) (used : List String),
        lower (typeName sourceName) ∉ used.map lower →
          uniqueNameIgnoringCase (typeName sourceName) (used.map lower) =
            typeName sourceName := by
    intro sourceName used free
    exact (uniqueNameIgnoringCase_eq_self_iff _ _).2 free
  exact assign_eq_map kept distinct

/-- Each definition stands under the category of its own name. -/
private theorem categorized_eq_map (schemas : List (String × Value)) :
    categorized schemas =
      ((categorized schemas).map Prod.snd).map fun definition =>
        (categorize definition.1, definition) := by
  have category :
      ∀ entry ∈ categorized schemas,
        (categorize entry.2.1, entry.2) = entry := by
    intro entry member
    rw [categorized_eq_regrouped, regrouped] at member
    obtain ⟨key, _, inside⟩ := List.mem_flatMap.1 member
    obtain ⟨definition, kept, rfl⟩ := List.mem_map.1 inside
    have same := (List.mem_filter.1 kept).2
    rw [eq_of_beq same]
  rw [List.map_map]
  exact (List.map_id _).symm.trans
    (List.map_congr_left fun entry member => (category entry member).symm)

section Distinct

variable {schemas schemas' : List (String × Value)}
  (distinct : DistinctNames schemas) (config : Config)

include distinct

private theorem inventory_eq_map_ofDefinition :
    inventory schemas config =
      ((categorized schemas).map Prod.snd).map
        (Descriptor.ofDefinition config) := by
  have regroupedDistinct :
      (((categorized schemas).map fun definition => definition.2.1).map
        fun sourceName => lower (typeName sourceName)).Nodup := by
    have perm :=
      (categorized_perm schemas).map fun definition =>
        lower (typeName definition.1)
    rw [List.map_map] at perm ⊢
    exact perm.nodup_iff.2 distinct
  have names := modelNames_of_distinct regroupedDistinct
  rw [inventory, names, List.map_map, List.zipWith_map_right,
    List.zipWith_self]
  conv_lhs => rw [categorized_eq_map]
  rw [List.map_map]
  rfl

/-- The descriptors are those of the definitions, in some order. -/
private theorem inventory_perm :
    (inventory schemas config).Perm
      (schemas.map (Descriptor.ofDefinition config)) := by
  rw [inventory_eq_map_ofDefinition distinct config]
  exact (categorized_perm schemas).map _

/-- Definitions in another order have the same descriptors in another order. -/
private theorem inventory_perm_of_perm (reordered : schemas'.Perm schemas) :
    (inventory schemas' config).Perm (inventory schemas config) := by
  have distinct' : DistinctNames schemas' :=
    (reordered.map _).nodup_iff.2 distinct
  have descriptors := reordered.map (Descriptor.ofDefinition config)
  exact (inventory_perm distinct' config).trans
    (descriptors.trans (inventory_perm distinct config).symm)

end Distinct

section Perm

variable {descriptors descriptors' : List Descriptor}
  (reordered : descriptors'.Perm descriptors)

include reordered

private theorem renamings_perm :
    (renamings descriptors').Perm (renamings descriptors) :=
  reordered.flatMap_right _

/-- Descriptors with names distinct in any case have the same index in any
order, as far as can be found out by looking up. -/
private theorem lookup?_indexOf_perm
    (distinct :
      (descriptors.map fun descriptor => lower descriptor.name).Nodup) :
    (indexOf descriptors').lookup? = (indexOf descriptors).lookup? := by
  have distinct' :
      (descriptors'.map fun descriptor => lower descriptor.name).Nodup :=
    (reordered.map _).nodup_iff.2 distinct
  funext name
  rw [NamespaceIndex.lookup?, NamespaceIndex.lookup?, entries_indexOf distinct,
    entries_indexOf distinct']
  apply Keyed.find?_perm (reordered.map _)
  rw [List.map_map]
  exact distinct'

end Perm

/-- What becomes of a descriptor depends on the index only through what it
finds. -/
private theorem Descriptor.generate_congr
    (descriptor : Descriptor) {index index' : NamespaceIndex}
    (same : index.lookup? = index'.lookup?) :
    descriptor.generate index = descriptor.generate index' := by
  have body : descriptor.body index = descriptor.body index' := by
    simp only [Descriptor.body, usings_congr same]
  rw [Descriptor.generate, Descriptor.generate, declaration, declaration,
    body]

end OpenApiSharp.Model

namespace OpenApiSharp

open Document Naming Text

/-- The report that goes on with another one. -/
def Report.append (front back : Report) : Report where
  artifacts := front.artifacts ++ back.artifacts
  diagnostics := front.diagnostics ++ back.diagnostics

namespace Run

/-- What the definitions of a document add to the report of a run. -/
def modelPart (run : Run) : Report where
  artifacts := run.models.flatMap ItemResult.artifacts
  diagnostics :=
    Model.renamings run.descriptors ++
      run.models.flatMap ItemResult.diagnostics

/-- What operations and services add to the report of a run. -/
def servicePart (run : Run) : Report where
  artifacts := run.services.flatMap fun service => service.declaration.artifacts
  diagnostics :=
    run.survey.diagnostics ++ run.services.flatMap ServiceRun.diagnostics

theorem report_eq_append (run : Run) :
    run.report = run.modelPart.append run.servicePart := by
  apply Report.ext
  · rw [report_artifacts]
    rfl
  · rw [report_diagnostics, Report.append, modelPart, servicePart]
    simp only [List.append_assoc]

end Run

/-- Results of two runs that end with the same fault, or with reports that
differ at most in the order of what the models add. -/
inductive SameUpToModelOrder (run run' : Run) :
    Except Service.KeyFault Report → Except Service.KeyFault Report → Prop
  | faults (fault : Service.KeyFault) :
      SameUpToModelOrder run run' (.error fault) (.error fault)
  | reports
      (artifacts :
        run'.modelPart.artifacts.Perm run.modelPart.artifacts)
      (diagnostics :
        run'.modelPart.diagnostics.Perm run.modelPart.diagnostics)
      (services : run'.servicePart = run.servicePart) :
      SameUpToModelOrder run run'
        (.ok (run.modelPart.append run.servicePart))
        (.ok (run'.modelPart.append run'.servicePart))

private theorem ServiceRun.ofEndpoints_congr
    (config : Config) {index index' : Model.NamespaceIndex}
    (same : index.lookup? = index'.lookup?) :
    ServiceRun.ofEndpoints config index =
      ServiceRun.ofEndpoints config index' := by
  funext group name
  simp only [ServiceRun.ofEndpoints, Service.declare,
    CSharp.usings_congr same]

section Reordered

variable (config : Config) {document : Value}
  {entries : List (Scalar × Value)}
  (reordered : entries.Perm (Specification.definitions document))
  (distinct :
    ((Specification.definitions document).map fun entry =>
      lower (typeName entry.1.label)).Nodup)

include distinct

private theorem nodup_labels :
    ((Specification.definitions document).map fun entry =>
      entry.1.label).Nodup := by
  have images := distinct
  have split :
      ((Specification.definitions document).map fun entry =>
        lower (typeName entry.1.label)) =
        ((Specification.definitions document).map fun entry =>
          entry.1.label).map fun label => lower (typeName label) := by
    rw [List.map_map]
    rfl
  rw [split] at images
  exact images.of_map _

private theorem distinctNames_schemas :
    Model.DistinctNames (Specification.schemas document) := by
  have once := nodup_labels distinct
  rw [Model.DistinctNames, Specification.schemas_eq_ofList,
    Keyed.ofList_of_nodup (by rw [List.map_map]; exact once), List.map_map]
  exact distinct

include reordered

private theorem inventory_withDefinitions_perm :
    (Model.inventory
        (Specification.schemas (document.withDefinitions entries))
        config).Perm
      (Model.inventory (Specification.schemas document) config) := by
  apply Model.inventory_perm_of_perm (distinctNames_schemas distinct)
  exact
    Specification.schemas_withDefinitions_perm reordered
      (nodup_labels distinct)

private theorem lookup?_withDefinitions :
    (Model.indexOf
        (Model.inventory
          (Specification.schemas (document.withDefinitions entries))
          config)).lookup? =
      (Model.indexOf
        (Model.inventory (Specification.schemas document)
          config)).lookup? :=
  Model.lookup?_indexOf_perm
    (inventory_withDefinitions_perm config reordered distinct)
    (Model.nodup_lower_names _ config)

private theorem models_withDefinitions_perm :
    (Run.ofDocument config (document.withDefinitions entries)).models.Perm
      (Run.ofDocument config document).models := by
  have descriptors :=
    inventory_withDefinitions_perm config reordered distinct
  have outcomes :=
    funext fun descriptor : Model.Descriptor =>
      descriptor.generate_congr
        (lookup?_withDefinitions config reordered distinct)
  simp only [Run.ofDocument]
  rw [outcomes]
  exact descriptors.map _

private theorem servicePart_withDefinitions :
    (Run.ofDocument config
        (document.withDefinitions entries)).servicePart =
      (Run.ofDocument config document).servicePart := by
  have paths :
      Specification.paths (document.withDefinitions entries) =
        Specification.paths document :=
    Specification.paths_mapSchemas _ document
  simp only [Run.servicePart, Run.ofDocument, paths,
    ServiceRun.ofEndpoints_congr config
      (lookup?_withDefinitions config reordered distinct)]

/-- Two documents that differ in the order of their definitions, whose names
are distinct in any case, have the same files and the same remarks.  Those of
models come in some order, and those of operations and services in the same. -/
theorem generate_ignores_definition_order :
    SameUpToModelOrder (Run.ofDocument config document)
      (Run.ofDocument config (document.withDefinitions entries))
      (generate config document)
      (generate config (document.withDefinitions entries)) := by
  let run := Run.ofDocument config document
  let run' := Run.ofDocument config (document.withDefinitions entries)
  have survey : run'.survey = run.survey := by
    change Service.survey _ = Service.survey _
    rw [Value.withDefinitions, Specification.paths_mapSchemas]
  have models : run'.models.Perm run.models :=
    models_withDefinitions_perm config reordered distinct
  have artifacts :
      run'.modelPart.artifacts.Perm run.modelPart.artifacts :=
    models.flatMap_right _
  have renamings :
      (Model.renamings run'.descriptors).Perm
        (Model.renamings run.descriptors) :=
    Model.renamings_perm
      (inventory_withDefinitions_perm config reordered distinct)
  have diagnostics :
      run'.modelPart.diagnostics.Perm run.modelPart.diagnostics :=
    renamings.append (models.flatMap_right _)
  have services : run'.servicePart = run.servicePart :=
    servicePart_withDefinitions config reordered distinct
  cases ended : run.survey.fault with
  | some fault =>
      have ended' : run'.survey.fault = some fault := by
        rw [survey, ended]
      rw [generate_of_fault ended, generate_of_fault ended']
      exact .faults fault
  | none =>
      have ended' : run'.survey.fault = none := by
        rw [survey, ended]
      rw [generate_of_no_fault ended, generate_of_no_fault ended',
        run.report_eq_append, run'.report_eq_append]
      exact .reports artifacts diagnostics services

end Reordered

/-- Two definitions of one category, of which the first refers to the second, a
definition that has no declaration, and an operation that returns the first. -/
def deliveryDocument : Value :=
  .map
    [(.text "paths", .map
      [(.text "/deliveries", .map
        [(.text "get", .map
          [(.text "tags", .list [.text "delivery"]),
           (.text "operationId", .text "lastDelivery"),
           (.text "responses", .map
            [(.text "200", .map
              [(.text "schema",
                .map [(.text "$ref", .text "#/definitions/Delivery")])])])])])]),
     (.text "definitions", .map
      [(.text "Delivery", .map
        [(.text "properties", .map
          [(.text "day", .map [(.text "$ref", .text "#/definitions/Day")])])]),
       (.text "DeliveryDto", .map [(.text "type", .text "object")]),
       (.text "Day", .map
        [(.text "enum", .list [.scalar (.date ⟨2024, 5, 1⟩)])])])]

theorem generate_ignores_order_of_deliveries :
    (Specification.definitions deliveryDocument).reverse.Perm
        (Specification.definitions deliveryDocument) ∧
      ((Specification.definitions deliveryDocument).map fun entry =>
        lower (typeName entry.1.label)).Nodup ∧
      SameUpToModelOrder (Run.ofDocument {} deliveryDocument)
        (Run.ofDocument {}
          (deliveryDocument.withDefinitions
            (Specification.definitions deliveryDocument).reverse))
        (generate {} deliveryDocument)
        (generate {}
          (deliveryDocument.withDefinitions
            (Specification.definitions deliveryDocument).reverse)) := by
  have reordered :=
    List.reverse_perm (Specification.definitions deliveryDocument)
  have distinct :
      ((Specification.definitions deliveryDocument).map fun entry =>
        lower (typeName entry.1.label)).Nodup := by
    decide +kernel
  exact ⟨reordered, distinct,
    generate_ignores_definition_order {} reordered distinct⟩

end OpenApiSharp
