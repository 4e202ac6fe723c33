import OpenApiSharp.Proofs.Generate.Accounting
import OpenApiSharp.Proofs.Keyed.Arrival
import OpenApiSharp.Proofs.Model.UniqueNames
import OpenApiSharp.Proofs.Specification

/-!
# Which definitions are kept

The schemas of a document are listed by the texts of the keys in its container.
Keys of different kinds may have the same text, such as the number 404 and the
text `404`.  Then the definition that comes last takes the place of the first
one, and the others go no further.
-/

namespace OpenApiSharp

open Document Specification

/-- A definition is the last one whose key has a certain text. -/
def IsLastUnder
    (entries : List (Scalar × Value)) (label : String) (schema : Value) :
    Prop :=
  ∃ front key back, entries = front ++ (key, schema) :: back ∧
    key.label = label ∧ ∀ later ∈ back, later.1.label ≠ label

/-- The entries of a container by the texts of their keys. -/
def byLabel (entries : List (Scalar × Value)) : List (String × Value) :=
  entries.map fun (key, schema) => (key.label, schema)

@[simp]
private theorem byLabel_keys (entries : List (Scalar × Value)) :
    (byLabel entries).map Prod.fst =
      entries.map fun entry => entry.1.label := by
  rw [byLabel, List.map_map]
  rfl

theorem isLastUnder_iff
    {entries : List (Scalar × Value)} {label : String} {schema : Value} :
    IsLastUnder entries label schema ↔
      ∃ front back, byLabel entries = front ++ (label, schema) :: back ∧
        label ∉ back.map Prod.fst := by
  constructor
  · rintro ⟨front, key, back, rfl, rfl, last⟩
    refine ⟨byLabel front, byLabel back, by simp [byLabel], ?_⟩
    rw [byLabel_keys]
    rintro again
    obtain ⟨later, member, same⟩ := List.mem_map.1 again
    exact last later member same
  · rintro ⟨front, back, parts, absent⟩
    obtain ⟨first, rest, rfl, rfl, restParts⟩ := List.map_eq_append_iff.1 parts
    obtain ⟨⟨key, value⟩, later, rfl, entry, rfl⟩ :=
      List.map_eq_cons_iff.1 restParts
    obtain ⟨rfl, rfl⟩ := Prod.mk.inj entry
    refine ⟨first, key, later, rfl, rfl, fun other member same => absent ?_⟩
    exact List.mem_map.2 ⟨_, List.mem_map_of_mem member, same⟩

private theorem entries_of_validate
    {document : Value} (accepted : validate document = .ok document) :
    ∃ entries, schemaContainer? document = some (.map entries) ∧
      definitions document = entries := by
  have held : (schemaContainer? document).any Value.isMap = true := by
    by_contra missing
    rw [Bool.not_eq_true] at missing
    rw [validate, missing] at accepted
    split at accepted
    · cases accepted
    · split at accepted <;> cases accepted
  cases container : schemaContainer? document with
  | none =>
      rw [container] at held
      cases held
  | some value =>
      rw [container] at held
      cases value with
      | map entries =>
          exact ⟨entries, rfl, by rw [definitions, container]; rfl⟩
      | _ => cases held

/-- A schema reaches the inventory under a name, and in every report there is
the file made from it or the error on it. -/
def Reaches
    (config : Config) (document : Value) (label : String) (schema : Value) :
    Prop :=
  let descriptors := Model.inventory (schemas document) config
  ∃ descriptor ∈ descriptors,
    descriptor.sourceName = label ∧ descriptor.node = schema ∧
      ∀ report, generate config document = .ok report →
        ∃ share, ModelShare (Model.indexOf descriptors) descriptor share ∧
          share.artifacts ⊆ report.artifacts ∧ share.errors ⊆ report.errors

private theorem Model.sources_perm
    (schemas : List (String × Value)) (config : Config) :
    ((inventory schemas config).map fun descriptor =>
      (descriptor.sourceName, descriptor.node)).Perm schemas := by
  have perm := categorized_perm schemas
  rw [categorized_eq_regrouped, ← inventory_regroups schemas config,
    List.map_map] at perm
  exact perm

private theorem share_of_mem_inventory
    {config : Config} {document : Value} {report : Report}
    {descriptor : Model.Descriptor}
    (completed : generate config document = .ok report)
    (member : descriptor ∈ Model.inventory (schemas document) config) :
    let index := Model.indexOf (Model.inventory (schemas document) config)
    (descriptor.share index).artifacts ⊆ report.artifacts ∧
      (descriptor.share index).errors ⊆ report.errors := by
  intro index
  let run := Run.ofDocument config document
  have recorded :
      descriptor.share index ∈ run.modelShares ++ run.serviceShares :=
    List.mem_append_left _ (List.mem_map_of_mem member)
  rw [report_of_generate completed, Run.ofDocument_artifacts,
    Run.ofDocument_errors]
  exact
    ⟨fun _ written => List.mem_flatMap.2 ⟨_, recorded, written⟩,
      fun _ written => List.mem_flatMap.2 ⟨_, recorded, written⟩⟩

theorem reaches_iff
    {config : Config} {document : Value} {label : String} {schema : Value} :
    Reaches config document label schema ↔
      (label, schema) ∈ schemas document := by
  rw [← (Model.sources_perm (schemas document) config).mem_iff, List.mem_map]
  constructor
  · rintro ⟨descriptor, member, rfl, rfl, _⟩
    exact ⟨descriptor, member, rfl⟩
  · rintro ⟨descriptor, member, source⟩
    obtain ⟨rfl, rfl⟩ := Prod.mk.inj source
    refine ⟨descriptor, member, rfl, rfl, fun report completed => ?_⟩
    exact
      ⟨_, descriptor.modelShare _, share_of_mem_inventory completed member⟩

/-- No entry of a container is lost: the schemas are these entries in order,
each under the text of its key, and each of them reaches the report. -/
structure KeepsDefinitions
    (config : Config) (document : Value) (entries : List (Scalar × Value)) :
    Prop where
  length : (schemas document).length = entries.length
  schemas :
    schemas document = entries.map fun (key, schema) => (key.label, schema)
  reaches :
    ∀ entry ∈ entries, Reaches config document entry.1.label entry.2

/-- What becomes of the entries of a container: the first entry with a text
gives the place, and the last one the schema. -/
structure LabelsDecide
    (config : Config) (document : Value) (entries : List (Scalar × Value)) :
    Prop where
  names :
    (schemas document).map Prod.fst =
      (entries.map fun entry => entry.1.label).eraseDups
  mem_schemas_iff :
    ∀ label schema,
      (label, schema) ∈ schemas document ↔ IsLastUnder entries label schema
  reaches_iff :
    ∀ label schema,
      Reaches config document label schema ↔ IsLastUnder entries label schema
  length_iff :
    (schemas document).length = entries.length ↔
      (entries.map fun entry => entry.1.label).Nodup
  keeps_iff :
    KeepsDefinitions config document entries ↔
      (entries.map fun entry => entry.1.label).Nodup

theorem mem_schemas_iff
    {document : Value} {label : String} {schema : Value} :
    (label, schema) ∈ schemas document ↔
      IsLastUnder (definitions document) label schema := by
  rw [isLastUnder_iff, schemas_eq_ofList]
  exact Keyed.mem_ofList_iff

theorem length_schemas_iff (document : Value) :
    (schemas document).length = (definitions document).length ↔
      ((definitions document).map fun entry => entry.1.label).Nodup := by
  have length : (byLabel (definitions document)).length =
      (definitions document).length := List.length_map _
  rw [← byLabel_keys, ← Keyed.length_ofList_eq_iff, length]
  rfl

theorem keepsDefinitions_iff (config : Config) (document : Value) :
    KeepsDefinitions config document (definitions document) ↔
      ((definitions document).map fun entry => entry.1.label).Nodup := by
  constructor
  · exact fun keeps => (length_schemas_iff document).1 keeps.length
  · intro once
    have listed : schemas document = byLabel (definitions document) := by
      rw [schemas_eq_ofList]
      exact Keyed.ofList_of_nodup (by rwa [← byLabel, byLabel_keys])
    have length := (length_schemas_iff document).2 once
    refine ⟨length, listed, fun entry member => ?_⟩
    rw [reaches_iff, listed]
    exact List.mem_map_of_mem member

/-- Of the definitions with the same text as their keys exactly the last one is
kept, so that none is lost if and only if all these texts are distinct. -/
theorem labels_decide_what_is_kept
    {document : Value} (accepted : validate document = .ok document)
    (config : Config) :
    ∃ entries, schemaContainer? document = some (.map entries) ∧
      LabelsDecide config document entries := by
  obtain ⟨entries, container, rfl⟩ := entries_of_validate accepted
  refine ⟨_, container, ?_⟩
  exact
    { names := by
        rw [schemas_eq_ofList, Keyed.keys_ofList]
        exact congrArg List.eraseDups (byLabel_keys _)
      mem_schemas_iff := fun _ _ => mem_schemas_iff
      reaches_iff := fun _ _ => reaches_iff.trans mem_schemas_iff
      length_iff := length_schemas_iff document
      keeps_iff := keepsDefinitions_iff config document }

def documentOfDefinitions (first second : Scalar × Value) : Value :=
  .map
    [(.text "paths", .map []), (.text "definitions", .map [first, second])]

def typed (name : String) : Value :=
  .map [(.text "type", .text name)]

/-- A number beside a text other than its own is kept. -/
theorem number_beside_name_is_kept :
    let document :=
      documentOfDefinitions (.int 404, typed "object")
        (.text "Order", typed "object")
    validate document = .ok document ∧
      KeepsDefinitions {} document
        [(.int 404, typed "object"), (.text "Order", typed "object")] := by
  intro document
  have accepted : validate document = .ok document := rfl
  obtain ⟨entries, container, decided⟩ :=
    labels_decide_what_is_kept accepted {}
  obtain rfl := Value.map.inj (Option.some.inj container)
  exact ⟨accepted, decided.keeps_iff.2 (by decide +kernel)⟩

/-- A number and its text make one schema, and no remark tells of the other. -/
theorem number_gives_way_to_its_text :
    let document :=
      documentOfDefinitions (.int 404, typed "string")
        (.text "404", typed "integer")
    validate document = .ok document ∧
      schemas document = [("404", typed "integer")] ∧
        ¬ Reaches {} document "404" (typed "string") ∧
          ∃ report, generate {} document = .ok report ∧
            report.artifacts.map Artifact.path =
              ["Models/Model404s/Model404.cs"] ∧
              report.diagnostics = [] := by
  intro document
  have merged : schemas document = [("404", typed "integer")] := by
    rfl
  have complete : (Run.ofDocument {} document).survey.fault = none := by
    decide +kernel
  refine
    ⟨rfl, merged, ?_, _, generate_of_no_fault complete, by decide +kernel,
      by decide +kernel⟩
  rw [reaches_iff, merged, List.mem_singleton]
  intro same
  have types := congrArg (fun schema => schema.2.getText? "type") same
  revert types
  decide +kernel

end OpenApiSharp
