import OpenApiSharp.Document.Value
import OpenApiSharp.Proofs.Document.Value
import OpenApiSharp.Proofs.Keyed
import OpenApiSharp.Schema
import OpenApiSharp.Specification

/-!
# The parts of a specification

The paths and the schemas of a document are parts of it, and the schemas stand under
one key or under two nested ones.  A change made to the container of the schemas,
wherever it stands, changes neither the paths of the document nor the place of the
container.
-/

namespace OpenApiSharp.Specification

open Document

private theorem entries_of_isVoid {value : Value} (void : isVoid value = true) :
    value.entries = [] := by
  cases value with
  | map entries =>
      rw [isVoid, List.isEmpty_iff] at void
      exact void
  | _ => rfl

/-- The path items of a document are the entries under its key `paths`. -/
theorem paths_entries (document : Value) :
    (paths document).entries =
      ((document.get? "paths").map Value.entries).getD [] := by
  cases found : document.get? "paths" with
  | none =>
      rw [paths, found]
      rfl
  | some value =>
      by_cases void : isVoid value = true
      · rw [paths, found, Option.filter_some_neg (by simp [void])]
        exact (entries_of_isVoid void).symm
      · rw [paths, found, Option.filter_some_pos (by simp [void])]
        rfl

/-- The definitions of a document, by their keys. -/
def definitions (document : Value) : List (Scalar × Value) :=
  ((schemaContainer? document).map Value.entries).getD []

theorem schemas_eq_ofList (document : Value) :
    schemas document =
      Keyed.ofList (· == ·)
        ((definitions document).map fun (key, schema) =>
          (key.label, schema)) :=
  rfl

/-- Where definitions are edited in place, the schemas are related by what the
edit does under each name. -/
theorem schemas_related
    {R : String → Value → Value → Prop} {f : Scalar → Value → Value}
    {document document' : Value}
    (edited :
      definitions document' =
        (definitions document).map fun entry =>
          (entry.1, f entry.1 entry.2))
    (related :
      ∀ key value, (key, value) ∈ definitions document →
        R key.label value (f key value)) :
    List.Forall₂ (Keyed.RelatedEntries R)
      (schemas document) (schemas document') := by
  rw [schemas_eq_ofList, schemas_eq_ofList]
  apply Keyed.ofList_related
  rw [edited, List.map_map, List.forall₂_map_left_iff,
    List.forall₂_map_right_iff, List.forall₂_same]
  rintro ⟨key, value⟩ member
  exact ⟨rfl, related key value member⟩

section Json

variable {document : Value} (json : document.isJson = true)

include json

theorem isJson_of_mem_paths
    {entry : Scalar × Value} (member : entry ∈ (paths document).entries) :
    entry.1.isText = true ∧ entry.2.isJson = true := by
  rw [paths_entries] at member
  cases found : document.get? "paths" with
  | none =>
      simp [found] at member
  | some value =>
      simp only [found, Option.map_some, Option.getD_some] at member
      exact
        Value.isJson_of_mem_entries
          (Value.isJson_of_get? json found) member

private theorem isJson_schemaContainer
    {container : Value} (found : schemaContainer? document = some container) :
    container.isJson = true := by
  cases definitions : document.get? "definitions" with
  | some value =>
      simp only [schemaContainer?, definitions, Option.some.injEq] at found
      rw [← found]
      exact Value.isJson_of_get? json definitions
  | none =>
      simp only [schemaContainer?, definitions,
        Option.bind_eq_some_iff] at found
      obtain ⟨components, outer, inner⟩ := found
      exact Value.isJson_of_get? (Value.isJson_of_get? json outer) inner

private theorem isJson_of_mem_definitions
    {entry : Scalar × Value} (member : entry ∈ definitions document) :
    entry.2.isJson = true := by
  cases found : schemaContainer? document with
  | none =>
      simp [definitions, found] at member
  | some container =>
      simp only [definitions, found, Option.map_some,
        Option.getD_some] at member
      exact
        (Value.isJson_of_mem_entries
          (isJson_schemaContainer json found) member).2

theorem isJson_of_mem_schemas
    {schema : String × Value} (member : schema ∈ schemas document) :
    schema.2.isJson = true := by
  rw [schemas_eq_ofList] at member
  obtain ⟨name, written⟩ := Keyed.value_mem_of_mem_ofList member
  obtain ⟨entry, defined, equal⟩ := List.mem_map.1 written
  rw [← (Prod.mk.inj equal).2]
  exact isJson_of_mem_definitions json defined

end Json

end OpenApiSharp.Specification

namespace OpenApiSharp.Document.Value

/-! ## Edits -/

/-- Change the value of every entry of a mapping, in view of its key. -/
def mapEntries (f : Scalar → Value → Value) : Value → Value
  | map entries => map (entries.map fun entry => (entry.1, f entry.1 entry.2))
  | other => other

/-- Change the values under one key of a mapping. -/
def mapAt (key : String) (f : Value → Value) : Value → Value :=
  mapEntries fun present value => if present = .text key then f value else value

def mapElements (f : Value → Value) : Value → Value
  | list elements => list (elements.map f)
  | other => other

/-- The empty text in place of a text. -/
def withoutText : Value → Value
  | scalar (.text _) => text ""
  | other => other

section MapEntries

variable (f : Scalar → Value → Value) (value : Value)

@[simp]
theorem entries_mapEntries :
    (value.mapEntries f).entries =
      value.entries.map fun entry => (entry.1, f entry.1 entry.2) := by
  cases value <;> rfl

@[simp]
theorem get?_mapEntries (key : String) :
    (value.mapEntries f).get? key =
      (value.get? key).map (f (.text key)) := by
  rw [get?, get?, entries_mapEntries]
  exact Keyed.find?_map f _ _ fun present found => eq_of_beq found

@[simp]
theorem has_mapEntries (key : String) :
    (value.mapEntries f).has key = value.has key := by
  simp [has]

end MapEntries

section MapAt

variable (key : String) (f : Value → Value) (value : Value)

@[simp]
theorem get?_mapAt_self :
    (value.mapAt key f).get? key = (value.get? key).map f := by
  rw [mapAt, get?_mapEntries]
  simp only [if_true]

variable {key}

@[simp]
theorem get?_mapAt_of_ne {other : String} (different : other ≠ key) :
    (value.mapAt key f).get? other = value.get? other := by
  have untouched : ¬ (Scalar.text other = Scalar.text key) :=
    fun same => different (Scalar.text.inj same)
  rw [mapAt, get?_mapEntries]
  simp only [untouched, if_false, Option.map_id']

@[simp]
theorem getText?_mapAt_of_ne {other : String} (different : other ≠ key) :
    (value.mapAt key f).getText? other = value.getText? other := by
  simp [getText?, different]

@[simp]
theorem isTrue_mapAt_of_ne {other : String} (different : other ≠ key) :
    (value.mapAt key f).isTrue other = value.isTrue other := by
  simp [isTrue, different]

@[simp]
theorem has_mapAt (other : String) :
    (value.mapAt key f).has other = value.has other :=
  has_mapEntries _ value other

end MapAt

@[simp]
theorem elements_mapElements (f : Value → Value) (value : Value) :
    (value.mapElements f).elements = value.elements.map f := by
  cases value <;> rfl

/-- A text that was taken away reads as an empty text or as none. -/
private theorem getD_text?_withoutText (value : Option Value) :
    (((value.map withoutText).bind text?).getD "") = "" := by
  rcases value with _ | value
  · rfl
  · cases value with
    | scalar content => cases content <;> rfl
    | _ => rfl

@[simp]
theorem getD_getText?_withoutText (key : String) (value : Value) :
    ((value.mapAt key withoutText).getText? key).getD "" = "" := by
  simpa [getText?] using getD_text?_withoutText _

end OpenApiSharp.Document.Value

namespace OpenApiSharp

open Document

def Document.Value.mapSchemas (f : Value → Value) (document : Value) : Value :=
  if document.has "definitions" then document.mapAt "definitions" f
  else document.mapAt "components" (mapAt "schemas" f)

/-- The document with other entries in the container of its schemas. -/
def Document.Value.withDefinitions
    (document : Value) (entries : List (Scalar × Value)) : Value :=
  document.mapSchemas fun _ => .map entries

namespace Specification

section MapSchemas

variable (f : Value → Value) (document : Value)

@[simp]
theorem paths_mapSchemas : paths (document.mapSchemas f) = paths document := by
  have found :
      (document.mapSchemas f).get? "paths" = document.get? "paths" := by
    rw [Value.mapSchemas]
    split <;> simp
  rw [paths, paths, found]

@[simp]
private theorem schemaContainer?_mapSchemas :
    schemaContainer? (document.mapSchemas f) =
      (schemaContainer? document).map f := by
  cases found : document.get? "definitions" with
  | some container =>
      have present : document.has "definitions" = true := by
        rw [Value.has, found]
        rfl
      simp [Value.mapSchemas, present, schemaContainer?, found]
  | none =>
      have absent : ¬ document.has "definitions" = true := by
        rw [Value.has, found]
        decide
      rw [Value.mapSchemas, if_neg absent, schemaContainer?,
        schemaContainer?, Value.get?_mapAt_of_ne _ _ (by decide), found,
        Value.get?_mapAt_self]
      cases document.get? "components" with
      | none => rfl
      | some components => exact Value.get?_mapAt_self "schemas" f components

end MapSchemas

section Reordered

variable {document : Value} {entries : List (Scalar × Value)}
  (reordered : entries.Perm (definitions document))

include reordered

private theorem definitions_withDefinitions :
    definitions (document.withDefinitions entries) = entries := by
  rw [definitions, Value.withDefinitions, schemaContainer?_mapSchemas]
  cases found : schemaContainer? document with
  | some container =>
      rfl
  | none =>
      rw [definitions, found] at reordered
      exact reordered.eq_nil.symm

/-- Where the names of the definitions are distinct, the schemas of the two
documents are the same but for their order. -/
theorem schemas_withDefinitions_perm
    (once : ((definitions document).map fun entry => entry.1.label).Nodup) :
    (schemas (document.withDefinitions entries)).Perm (schemas document) := by
  have labelled :
      (entries.map fun entry => (entry.1.label, entry.2)).Perm
        ((definitions document).map fun entry => (entry.1.label, entry.2)) :=
    reordered.map _
  have once' :
      (((definitions document).map fun entry =>
        (entry.1.label, entry.2)).map Prod.fst).Nodup := by
    rw [List.map_map]
    exact once
  have schemas_eq :
      schemas document =
        (definitions document).map fun entry => (entry.1.label, entry.2) :=
    Keyed.ofList_of_nodup once'
  have schemas_eq' :
      schemas (document.withDefinitions entries) =
        entries.map fun entry => (entry.1.label, entry.2) := by
    rw [schemas_eq_ofList, definitions_withDefinitions reordered]
    exact
      Keyed.ofList_of_nodup ((labelled.map Prod.fst).nodup_iff.2 once')
  rw [schemas_eq, schemas_eq']
  exact labelled

end Reordered

end Specification

/-- The document with another value under a key of its schemas. -/
def Document.Value.redefine
    (document : Value) (key : String) (value : Value) : Value :=
  let redefined := mapAt key fun _ => value
  if document.has "definitions" then document.mapAt "definitions" redefined
  else document.mapAt "components" (mapAt "schemas" redefined)

namespace Specification

section Redefine

variable (document : Value) (key : String) (value : Value)

private theorem redefine_eq_mapSchemas :
    document.redefine key value =
      document.mapSchemas (Value.mapAt key fun _ => value) :=
  rfl

@[simp]
theorem paths_redefine :
    paths (document.redefine key value) = paths document := by
  simp [redefine_eq_mapSchemas]

@[simp]
private theorem schemaContainer?_redefine :
    schemaContainer? (document.redefine key value) =
      (schemaContainer? document).map (Value.mapAt key fun _ => value) := by
  simp [redefine_eq_mapSchemas]

private theorem definitions_redefine :
    definitions (document.redefine key value) =
      (definitions document).map fun entry =>
        (entry.1, if entry.1 = .text key then value else entry.2) := by
  rw [definitions, definitions, schemaContainer?_redefine]
  cases schemaContainer? document with
  | none => rfl
  | some container => exact Value.entries_mapEntries _ container

/-- Values under a name are the same, or the name is the key and the values
have the same kind. -/
def Redefined (name : String) (left right : Value) : Prop :=
  left = right ∨
    name = key ∧ Schema.classify left = Schema.classify right

theorem Redefined.sameKind
    {key name : String} {left right : Value}
    (redefined : Redefined key name left right) :
    Schema.classify left = Schema.classify right := by
  rcases redefined with equal | ⟨_, kinds⟩
  · rw [equal]
  · exact kinds

/-- The schemas before and after a definition is redefined by one of the same
kind. -/
theorem schemas_redefine
    (sameKind : ∀ old, (.text key, old) ∈ definitions document →
      Schema.classify old = Schema.classify value) :
    List.Forall₂ (Keyed.RelatedEntries (Redefined key))
      (schemas document) (schemas (document.redefine key value)) := by
  refine schemas_related
    (f := fun present old => if present = .text key then value else old)
    (definitions_redefine document key value) ?_
  intro present old member
  by_cases redefined : present = .text key
  · subst redefined
    rw [if_pos rfl]
    exact Or.inr ⟨rfl, sameKind old member⟩
  · rw [if_neg redefined]
    exact Or.inl rfl

end Redefine

end Specification

end OpenApiSharp
