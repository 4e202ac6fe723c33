import OpenApiSharp.Proofs.CSharp.Comment
import OpenApiSharp.Proofs.Documentation.Document
import OpenApiSharp.Proofs.Model.Inventory

namespace OpenApiSharp.Model

open Document CSharp

def Field.bare (field : Field) : Field :=
  { field with summary := [] }

def Body.bare : Body → Body
  | .record usings fields => .record usings (fields.map Field.bare)
  | other => other

def Declaration.bare (declaration : Declaration) : Declaration :=
  { declaration with summary := [], body := declaration.body.bare }

@[simp]
private theorem properties_undescribedDefinition (definition : Value) :
    properties definition.undescribedDefinition =
      (properties definition).map fun property =>
        (property.1, property.2.undescribed) := by
  have found :
      definition.undescribedDefinition.get? "properties" =
        (definition.get? "properties").map
          (Value.mapEntries fun _ => Value.undescribed) := by
    simp [Value.undescribedDefinition, Value.undescribed]
  rw [properties, properties, found]
  cases definition.get? "properties" with
  | none => rfl
  | some declared =>
      simp only [Option.map_some, Option.getD_some, Value.entries_mapEntries,
        List.map_map, Function.comp_def]

@[simp]
private theorem isRequired_undescribed
    (property : Value) (name : String) (definition : Value) :
    Schema.isRequired property.undescribed name
        definition.undescribedDefinition =
      Schema.isRequired property name definition := by
  rw [Value.undescribedDefinition,
    Schema.isRequired_parent_mapAt _ (by decide), Value.undescribed,
    Schema.isRequired_parent_mapAt _ (by decide),
    Schema.isRequired_mapAt _ (by decide)]

@[simp]
private theorem typeText_undescribed (schema : Value) :
    Schema.typeText schema.undescribed = Schema.typeText schema :=
  Schema.typeText_mapAt _ (by decide) schema

@[simp]
private theorem summaryBlock_undescribed (schema : Value) :
    summaryBlock (Schema.description schema.undescribed) = [] := by
  rw [Value.undescribed, Schema.description_withoutText]
  rfl

@[simp]
private theorem recordFields_undescribedDefinition
    (owner : String) (definition : Value) :
    recordFields owner definition.undescribedDefinition =
      (recordFields owner definition).map Field.bare := by
  simp only [recordFields, properties_undescribedDefinition, List.map_map,
    Function.comp_def, List.zipWith_map_left, List.map_zipWith,
    typeText_undescribed, isRequired_undescribed, summaryBlock_undescribed,
    Field.bare]

@[simp]
private theorem enumTexts_undescribedDefinition (definition : Value) :
    enumTexts definition.undescribedDefinition = enumTexts definition := by
  have found :
      definition.undescribedDefinition.get? "enum" =
        definition.get? "enum" := by
    simp [Value.undescribedDefinition, Value.undescribed]
  rw [enumTexts, enumTexts, found]

@[simp]
private theorem typeText_undescribedDefinition (definition : Value) :
    Schema.typeText definition.undescribedDefinition =
      Schema.typeText definition := by
  rw [Value.undescribedDefinition, Schema.typeText_mapAt _ (by decide),
    typeText_undescribed]

@[simp]
theorem classify_undescribedDefinition (definition : Value) :
    Schema.classify definition.undescribedDefinition =
      Schema.classify definition := by
  simp [Value.undescribedDefinition, Value.undescribed, Value.mapAt]

@[simp]
private theorem summaryBlock_undescribedDefinition (definition : Value) :
    summaryBlock (Schema.description definition.undescribedDefinition) =
      [] := by
  have text :
      Schema.description definition.undescribedDefinition =
        Schema.description definition.undescribed := by
    simp [Value.undescribedDefinition, Schema.description]
  simp [text]

/-- Descriptors of a definition and of its form without descriptions. -/
abbrev Descriptor.Undescribed : Descriptor → Descriptor → Prop :=
  Descriptor.Twin fun _ node node' => node' = node.undescribedDefinition

theorem Descriptor.Undescribed.declaration_eq
    {left right : Descriptor} (twin : Descriptor.Undescribed left right)
    (index : NamespaceIndex) :
    right.declaration index =
      (left.declaration index).map Declaration.bare := by
  have body :
      right.body index = (left.body index).map Body.bare := by
    rw [Descriptor.body, Descriptor.body, ← twin.kind, ← twin.name,
      ← twin.namespaceName, twin.node]
    cases left.kind with
    | enumeration =>
        simp only [enumTexts_undescribedDefinition]
        cases enumTexts left.node <;> rfl
    | record =>
        simp only [recordFields_undescribedDefinition, List.map_map]
        rfl
    | wrapper =>
        simp only [typeText_undescribedDefinition]
        rfl
    | fallback => rfl
  rw [Descriptor.declaration, Descriptor.declaration, body, ← twin.name,
    ← twin.namespaceName, twin.node, summaryBlock_undescribedDefinition]
  cases left.body index <;> rfl

/-- Every comment of a declaration is documentation. -/
structure Declaration.Documented (declaration : Declaration) : Prop where
  summary : ∀ line ∈ declaration.summary, CommentLine line
  fields :
    ∀ usings fields, declaration.body = .record usings fields →
      ∀ field ∈ fields, ∀ line ∈ field.summary, CommentLine line

theorem commentLine_of_mem_recordFields
    {owner : String} {definition : Value} {field : Field}
    (member : field ∈ recordFields owner definition) :
    ∀ line ∈ field.summary, CommentLine line := by
  rw [recordFields, ← List.map_uncurry_zip_eq_zipWith] at member
  obtain ⟨⟨⟨rawName, property⟩, name⟩, _, rfl⟩ := List.mem_map.1 member
  intro line written
  exact commentLine_of_mem_summaryBlock written

theorem Descriptor.documented
    {descriptor : Descriptor} {index : NamespaceIndex}
    {declaration : Declaration}
    (declared : descriptor.declaration index = .ok declaration) :
    declaration.Documented := by
  obtain ⟨body, builds, rfl⟩ := Descriptor.declaration_eq_ok_iff.1 declared
  refine
    { summary := fun line => commentLine_of_mem_summaryBlock
      fields := ?_ }
  rintro usings fields rfl field member
  cases builds
  exact commentLine_of_mem_recordFields member

private theorem Field.codeLines_bare
    {field : Field} (documented : ∀ line ∈ field.summary, CommentLine line) :
    codeLines field.bare.lines = codeLines field.lines := by
  rw [Field.lines, Field.lines, codeLines_append_of_comments
    (CommentLine.map_indented documented)]
  rfl

private theorem codeLines_fields
    {fields : List Field}
    (documented : ∀ field ∈ fields, ∀ line ∈ field.summary,
      CommentLine line) :
    codeLines (separated ((fields.map Field.bare).map Field.lines)) =
      codeLines (separated (fields.map Field.lines)) := by
  have lines :
      ((fields.map Field.bare).map Field.lines).map codeLines =
        (fields.map Field.lines).map codeLines := by
    rw [List.map_map, List.map_map, List.map_map]
    apply List.map_congr_left
    intro field member
    simp only [Function.comp_apply]
    exact Field.codeLines_bare (documented field member)
  rw [codeLines_separated, codeLines_separated, lines]

theorem commentLine_of_mem_fallbackSummary
    {line : String} (member : line ∈ fallbackSummary) : CommentLine line := by
  have each : ∀ line ∈ fallbackSummary, CommentLine line := by
    decide
  exact each line member

/-- The comments of a declaration are no part of its code. -/
private theorem Declaration.codeLines_bare
    {declaration : Declaration} (documented : declaration.Documented) :
    codeLines declaration.bare.lines = codeLines declaration.lines := by
  have summary : codeLines declaration.summary = [] :=
    codeLines_eq_nil documented.summary
  cases body : declaration.body with
  | enumeration members =>
      simp only [lines, bare, Body.bare, body, codeLines_append, summary,
        List.append_nil]
  | record usings fields =>
      have members := codeLines_fields (documented.fields usings fields body)
      simp only [lines, bare, Body.bare, body, codeLines_append, summary,
        List.append_nil, members]
  | wrapper usings valueType valueName =>
      simp only [lines, bare, Body.bare, body, codeLines_append, summary,
        List.append_nil]
  | fallback usings =>
      have fallback : codeLines fallbackSummary = [] :=
        codeLines_eq_nil fun _ => commentLine_of_mem_fallbackSummary
      have either :
          codeLines (if declaration.summary.isEmpty then fallbackSummary
            else declaration.summary) = [] := by
        split
        · exact fallback
        · exact summary
      simp only [lines, bare, Body.bare, body, codeLines_append, either,
        List.isEmpty_nil, if_true, fallback]

/-- The outcome for a definition has the same code without descriptions. -/
theorem Descriptor.Undescribed.code_generate
    {left right : Descriptor} (twin : Descriptor.Undescribed left right)
    (index : NamespaceIndex) :
    (right.generate index).code = (left.generate index).code := by
  have path : right.path = left.path := by
    rw [Descriptor.path, Descriptor.path, Descriptor.folder,
      Descriptor.folder, twin.name, twin.kind, twin.namespaceName]
  rw [Descriptor.generate, Descriptor.generate, twin.declaration_eq]
  cases declared : left.declaration index with
  | error fault =>
      simp only [Except.map, twin.sourceName]
  | ok declaration =>
      have lines :=
        Declaration.codeLines_bare (Descriptor.documented declared)
      simp only [Except.map, ItemResult.code, Artifact.code, path, twin.kind,
        Declaration.source]
      rw [codeText_textOfLines declaration.bare.lines, lines,
        ← codeText_textOfLines]

end OpenApiSharp.Model
