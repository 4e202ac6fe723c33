import OpenApiSharp.Proofs.CSharp.Comment
import OpenApiSharp.Proofs.Report
import OpenApiSharp.Proofs.Specification
import OpenApiSharp.Schema
import OpenApiSharp.Service.Operation

/-!
# Documents without documentation

The documentation of a document is made of the descriptions of its definitions,
of their properties, of parameters and of request bodies, and of the summaries of
its operations.  Where such a place holds a text, the empty text can stand for it,
and two documents that agree then differ in nothing but these texts.
-/

namespace OpenApiSharp

def Artifact.code (artifact : Artifact) : Artifact :=
  { artifact with content := CSharp.codeText artifact.content }

def Report.code (report : Report) : Report :=
  { report with artifacts := report.artifacts.map Artifact.code }

namespace ItemResult

/-- An outcome whose file is without its lines of documentation. -/
def code : ItemResult → ItemResult
  | generated artifact => generated artifact.code
  | skipped item reason => skipped item reason
  | failed item message => failed item message

@[simp]
private theorem artifacts_code (outcome : ItemResult) :
    outcome.code.artifacts = outcome.artifacts.map Artifact.code := by
  cases outcome <;> rfl

@[simp]
private theorem diagnostics_code (outcome : ItemResult) :
    outcome.code.diagnostics = outcome.diagnostics := by
  cases outcome <;> rfl

/-- What can be told from the code of outcomes is the same for outcomes of the
same code. -/
private theorem flatMap_eq_of_code
    {α : Type} {told part : ItemResult → List α}
    (fromCode : ∀ outcome, told outcome = part outcome.code)
    {outcomes outcomes' : List ItemResult}
    (same : outcomes.map code = outcomes'.map code) :
    outcomes.flatMap told = outcomes'.flatMap told := by
  have step :
      ∀ results : List ItemResult,
        results.flatMap told = (results.map code).flatMap part := by
    intro results
    rw [List.flatMap_map]
    exact List.flatMap_congr fun outcome _ => fromCode outcome
  rw [step outcomes, step outcomes', same]

theorem flatMap_artifacts_code
    {outcomes outcomes' : List ItemResult}
    (same : outcomes.map code = outcomes'.map code) :
    (outcomes.flatMap artifacts).map Artifact.code =
      (outcomes'.flatMap artifacts).map Artifact.code := by
  rw [List.map_flatMap, List.map_flatMap]
  exact flatMap_eq_of_code (fun _ => (artifacts_code _).symm) same

theorem flatMap_diagnostics_code
    {outcomes outcomes' : List ItemResult}
    (same : outcomes.map code = outcomes'.map code) :
    outcomes.flatMap diagnostics = outcomes'.flatMap diagnostics :=
  flatMap_eq_of_code (fun _ => (diagnostics_code _).symm) same

end ItemResult

end OpenApiSharp

namespace OpenApiSharp.Schema

open Document CSharp

/-- The keys from which the type of a schema is read. -/
def typeKeys : List String :=
  ["$ref", "type", "format", "items", "additionalProperties"]

section Types

variable {key : String} (f : Value → Value)

private theorem resolveMapping_mapEntries
    (unread : "additionalProperties" ≠ key)
    (entries : List (Scalar × Value)) :
    resolveMapping
        (entries.map fun entry =>
          (entry.1, if entry.1 = .text key then f entry.2 else entry.2)) =
      resolveMapping entries := by
  induction entries with
  | nil =>
      rfl
  | cons entry rest inductionHypothesis =>
      obtain ⟨present, value⟩ := entry
      rw [List.map_cons, resolveMapping, resolveMapping, inductionHypothesis]
      by_cases additional : present = .text "additionalProperties"
      · have untouched : ¬ present = .text key := by
          rw [additional]
          exact fun same => unread (Scalar.text.inj same)
        simp only [if_neg untouched]
      · rw [if_neg additional, if_neg additional]

private theorem resolve_mapAt (unread : key ∉ typeKeys) (schema : Value) :
    resolve (schema.mapAt key f) = resolve schema := by
  simp only [typeKeys, List.mem_cons, List.not_mem_nil, or_false,
    not_or] at unread
  obtain ⟨reference, type, format, items, additional⟩ := unread
  cases schema with
  | map entries =>
      have edited :
          (Value.map entries).mapAt key f =
            .map (entries.map fun entry =>
              (entry.1,
                if entry.1 = .text key then f entry.2 else entry.2)) :=
        rfl
      rw [edited, resolve, resolve, ← edited,
        resolveMapping_mapEntries f (Ne.symm additional)]
      simp [Ne.symm reference, Ne.symm type, Ne.symm format, Ne.symm items]
  | _ => rfl

theorem typeText_mapAt (unread : key ∉ typeKeys) (schema : Value) :
    typeText (schema.mapAt key f) = typeText schema := by
  rw [typeText, typeText, resolve_mapAt f unread]

theorem parameterTypeText_mapAt
    (unread : key ∉ "schema" :: typeKeys) (parameter : Value) :
    parameterTypeText (parameter.mapAt key f) =
      parameterTypeText parameter := by
  rw [List.mem_cons, not_or] at unread
  simp only [parameterTypeText, Value.get?_mapAt_of_ne f _ (Ne.symm unread.1)]
  cases parameter.get? "schema" with
  | none => exact typeText_mapAt f unread.2 parameter
  | some schema => rfl

end Types

@[simp]
theorem classify_mapEntries
    (f : Scalar → Value → Value) (definition : Value) :
    classify (definition.mapEntries f) = classify definition := by
  simp only [classify, Value.has_mapEntries]

@[simp]
theorem description_withoutText (schema : Value) :
    description (schema.mapAt "description" Value.withoutText) = "" :=
  Value.getD_getText?_withoutText _ schema

/-- The keys from which it is read whether a property is mandatory. -/
def requiredKeys : List String :=
  ["required", "nullable", "x-nullable", "type"]

theorem isRequired_mapAt
    {key : String} (f : Value → Value) (unread : key ∉ requiredKeys)
    (property : Value) (name : String) (parent : Value) :
    isRequired (property.mapAt key f) name parent =
      isRequired property name parent := by
  simp only [requiredKeys, List.mem_cons, List.not_mem_nil, or_false,
    not_or] at unread
  obtain ⟨required, nullable, extension, type⟩ := unread
  have constrained :
      isConstrained (property.mapAt key f) = isConstrained property := by
    rw [isConstrained, isConstrained,
      funext (Value.has_mapAt f property)]
  simp [isRequired, isValueType, constrained, Ne.symm required,
    Ne.symm nullable, Ne.symm extension, Ne.symm type]

theorem isRequired_parent_mapAt
    {key : String} (f : Value → Value) (unread : "required" ≠ key)
    (property : Value) (name : String) (parent : Value) :
    isRequired property name (parent.mapAt key f) =
      isRequired property name parent := by
  simp [isRequired, listsAsRequired, unread]

theorem bodySchema?_mapAt
    {key : String} (f : Value → Value) (schema : "schema" ≠ key)
    (content : "content" ≠ key) (holder : Value) :
    bodySchema? (holder.mapAt key f) = bodySchema? holder := by
  simp [bodySchema?, schema, content]

end OpenApiSharp.Schema

namespace OpenApiSharp

open Document Text

/-- Whether a key of a path item stands for a method. -/
def Service.isMethodKey : Scalar → Bool
  | .text method => httpMethods.contains (lower method)
  | _ => false

namespace Document.Value

/-- A value whose description, if it is a text, is empty. -/
def undescribed : Value → Value :=
  mapAt "description" withoutText

/-- A definition without its description and those of its properties. -/
def undescribedDefinition (definition : Value) : Value :=
  definition.undescribed.mapAt "properties" (mapEntries fun _ => undescribed)

/-- A path item or an operation without the descriptions of its parameters. -/
def undescribedParameters : Value → Value :=
  mapAt "parameters" (mapElements undescribed)

/-- An operation without its summary and the descriptions of its parameters and
of its request body. -/
def undocumentedOperation (operation : Value) : Value :=
  (operation.mapAt "summary" withoutText).undescribedParameters.mapAt
    "requestBody" undescribed

/-- The node under a key of a path item, without documentation if it is an
operation. -/
def undocumentedNode (key : Scalar) (node : Value) : Value :=
  if Service.isMethodKey key then node.undocumentedOperation else node

/-- A path item without the documentation of its operations and without the
descriptions of its parameters. -/
def undocumentedPathItem (pathItem : Value) : Value :=
  (pathItem.mapEntries undocumentedNode).undescribedParameters

/-- The definitions of a container without their descriptions. -/
def undescribedSchemas : Value → Value :=
  mapEntries fun _ => undescribedDefinition

/-- A document without its documentation. -/
def undocumented (document : Value) : Value :=
  ((document.mapAt "paths" (mapEntries fun _ => undocumentedPathItem)).mapAt
    "definitions" undescribedSchemas).mapAt
      "components" (mapAt "schemas" undescribedSchemas)

end Document.Value

namespace Specification

variable (document : Value)

@[simp]
theorem paths_undocumented :
    (paths document.undocumented).entries =
      (paths document).entries.map fun entry =>
        (entry.1, entry.2.undocumentedPathItem) := by
  have found :
      document.undocumented.get? "paths" =
        (document.get? "paths").map
          (Value.mapEntries fun _ => Value.undocumentedPathItem) := by
    simp [Value.undocumented]
  rw [paths_entries, paths_entries, found]
  cases document.get? "paths" with
  | none => rfl
  | some value => exact Value.entries_mapEntries _ value

private theorem schemaContainer?_undocumented :
    schemaContainer? document.undocumented =
      (schemaContainer? document).map Value.undescribedSchemas := by
  have definitions :
      document.undocumented.get? "definitions" =
        (document.get? "definitions").map Value.undescribedSchemas := by
    simp [Value.undocumented]
  have components :
      document.undocumented.get? "components" =
        (document.get? "components").map
          (Value.mapAt "schemas" Value.undescribedSchemas) := by
    simp [Value.undocumented]
  rw [schemaContainer?, schemaContainer?, definitions, components]
  cases document.get? "definitions" with
  | some value => rfl
  | none =>
      cases document.get? "components" with
      | none => rfl
      | some value => exact Value.get?_mapAt_self "schemas" _ value

private theorem definitions_undocumented :
    definitions document.undocumented =
      (definitions document).map fun entry =>
        (entry.1, entry.2.undescribedDefinition) := by
  rw [definitions, definitions, schemaContainer?_undocumented]
  cases schemaContainer? document with
  | none => rfl
  | some container => exact Value.entries_mapEntries _ container

/-- A document without documentation has the same schemas, without their
descriptions. -/
theorem schemas_undocumented :
    List.Forall₂
      (Keyed.RelatedEntries fun _ definition definition' =>
        definition' = definition.undescribedDefinition)
      (schemas document) (schemas document.undocumented) :=
  schemas_related (f := fun _ => Value.undescribedDefinition)
    (definitions_undocumented document) fun _ _ _ => rfl

end Specification

end OpenApiSharp
