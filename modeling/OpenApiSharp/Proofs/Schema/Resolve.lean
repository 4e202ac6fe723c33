import Mathlib.Logic.ExistsUnique
import OpenApiSharp.Proofs.CSharp.TypeTree
import OpenApiSharp.Proofs.Document.Value
import OpenApiSharp.Schema

namespace OpenApiSharp.Schema

open CSharp Document Naming

private theorem isLeafName_objectName : IsLeafName objectName :=
  .builtIn (by decide)

private theorem isLeafName_referenceName (pointer : String) :
    IsLeafName (referenceName pointer) := by
  rw [referenceName]
  split
  · exact isLeafName_objectName
  · exact .model _

theorem primitiveName_mem_schemaTypeNames
    {schemaType format : Option String} {name : String}
    (primitive : primitiveName? schemaType format = some name) :
    name ∈ schemaTypeNames := by
  unfold primitiveName? at primitive
  split at primitive
  · cases primitive
    split <;> decide
  · cases primitive
    split <;> decide
  · cases primitive
    split <;> decide
  · cases primitive
    decide
  · cases primitive

private theorem isLeafName_primitiveName
    {schemaType format : Option String} {name : String}
    (primitive : primitiveName? schemaType format = some name) :
    IsLeafName name :=
  .builtIn (primitiveName_mem_schemaTypeNames primitive)

private theorem isLeafName_itemName (items : Option Value) :
    IsLeafName (itemName items) := by
  cases items with
  | none => exact isLeafName_objectName
  | some schema =>
      rw [itemName]
      split
      · exact isLeafName_referenceName _
      · cases primitive :
            primitiveName? (schema.getText? "type")
              (schema.getText? "format") with
        | none => exact isLeafName_objectName
        | some name => exact isLeafName_primitiveName primitive

/-- A schema of a list or of an open mapping, which refers to nothing else. -/
structure DescribesContainer (schema : Value) : Prop where
  own : schema.getText? "$ref" = none
  kind :
    schema.getText? "type" = some "array" ∨
      schema.getText? "type" = some "object" ∧
        ∃ additional,
          schema.get? "additionalProperties" = some additional ∧
            additional ≠ .scalar (.bool false)

private theorem not_describesContainer_of_untyped
    {schema : Value} (untyped : schema.getText? "type" = none) :
    ¬ DescribesContainer schema := by
  rintro ⟨_, listed | ⟨mapped, _⟩⟩
  · rw [untyped] at listed
    cases listed
  · rw [untyped] at mapped
    cases mapped

/-- The type of a schema, by what the schema says. -/
inductive Resolves (schema : Value) : TypeTree → Prop
  | reference {pointer : String}
      (refers : schema.getText? "$ref" = some pointer) :
      Resolves schema (.leaf (referenceName pointer))
  | primitive {name : String} (own : schema.getText? "$ref" = none)
      (named :
        primitiveName? (schema.getText? "type") (schema.getText? "format") =
          some name) :
      Resolves schema (.leaf name)
  | array (own : schema.getText? "$ref" = none)
      (listed : schema.getText? "type" = some "array") :
      Resolves schema (.list (itemName (schema.get? "items")))
  | mapping {additional : Value} (own : schema.getText? "$ref" = none)
      (mapped : schema.getText? "type" = some "object")
      (present : schema.get? "additionalProperties" = some additional)
      (opened : additional ≠ .scalar (.bool false)) :
      Resolves schema (.dictionary (resolve additional))
  | anything (own : schema.getText? "$ref" = none)
      (unnamed :
        primitiveName? (schema.getText? "type") (schema.getText? "format") =
          none)
      (plain : ¬ DescribesContainer schema) :
      Resolves schema (.leaf objectName)

/-- A mapping is open if the first entry on additional properties does not
forbid them. -/
theorem resolveMapping_eq (entries : List (Scalar × Value)) :
    resolveMapping entries =
      match (Value.map entries).get? "additionalProperties" with
      | some additional =>
          if additional.isBool false then .leaf objectName
          else .dictionary (resolve additional)
      | none => .leaf objectName := by
  induction entries with
  | nil =>
      rw [resolveMapping]
      rfl
  | cons entry rest inductionHypothesis =>
      obtain ⟨key, value⟩ := entry
      rw [resolveMapping, inductionHypothesis]
      simp only [Value.get?, Value.entries, Keyed.find?, beq_iff_eq]
      by_cases additional : key = .text "additionalProperties"
      · rw [if_pos additional, if_pos additional]
      · rw [if_neg additional, if_neg additional]

private theorem resolves_resolveMapping
    {entries : List (Scalar × Value)}
    (own : (Value.map entries).getText? "$ref" = none)
    (mapped : (Value.map entries).getText? "type" = some "object") :
    Resolves (.map entries) (resolveMapping entries) := by
  have unnamed :
      primitiveName? ((Value.map entries).getText? "type")
        ((Value.map entries).getText? "format") = none := by
    rw [mapped]
    rfl
  rw [resolveMapping_eq]
  cases present : (Value.map entries).get? "additionalProperties" with
  | none =>
      refine .anything own unnamed ?_
      rintro ⟨_, listed | ⟨_, _, found, _⟩⟩
      · simp [mapped] at listed
      · rw [present] at found
        cases found
  | some additional =>
      by_cases closed : additional.isBool false = true
      · simp only [if_pos closed]
        refine .anything own unnamed ?_
        rintro ⟨_, listed | ⟨_, _, found, opened⟩⟩
        · simp [mapped] at listed
        · rw [present] at found
          cases found
          exact opened (Value.isBool_iff.1 closed)
      · simp only [if_neg closed]
        exact .mapping own mapped present
          fun forbidden => closed (Value.isBool_iff.2 forbidden)

theorem resolves_resolve (schema : Value) :
    Resolves schema (resolve schema) := by
  cases schema with
  | map entries =>
      rw [resolve]
      cases reference : (Value.map entries).getText? "$ref" with
      | some pointer => exact .reference reference
      | none =>
          cases named :
              primitiveName? ((Value.map entries).getText? "type")
                ((Value.map entries).getText? "format") with
          | some name => exact .primitive reference named
          | none =>
              simp only
              split
              · exact .array reference ‹_›
              · split
                · exact resolves_resolveMapping reference ‹_›
                · refine .anything reference named ?_
                  rintro ⟨_, listed | ⟨mapped, _⟩⟩
                  · contradiction
                  · contradiction
  | list elements =>
      exact .anything rfl rfl (not_describesContainer_of_untyped rfl)
  | pair first second =>
      exact .anything rfl rfl (not_describesContainer_of_untyped rfl)
  | scalar value =>
      exact .anything rfl rfl (not_describesContainer_of_untyped rfl)
  | set members =>
      exact .anything rfl rfl (not_describesContainer_of_untyped rfl)

/-- The type of a schema is a container exactly if the schema describes one. -/
theorem Resolves.isGeneric_iff
    {schema : Value} {tree : TypeTree} (resolves : Resolves schema tree) :
    tree.isGeneric = true ↔ DescribesContainer schema := by
  cases resolves with
  | reference refers =>
      refine iff_of_false Bool.false_ne_true ?_
      rintro ⟨own, _⟩
      rw [refers] at own
      cases own
  | primitive own named =>
      refine iff_of_false Bool.false_ne_true ?_
      rintro ⟨_, listed | ⟨mapped, _⟩⟩
      · rw [listed] at named
        cases named
      · rw [mapped] at named
        cases named
  | array own listed => exact iff_of_true rfl ⟨own, Or.inl listed⟩
  | mapping own mapped present opened =>
      exact iff_of_true rfl ⟨own, Or.inr ⟨mapped, _, present, opened⟩⟩
  | anything own unnamed plain =>
      exact iff_of_false Bool.false_ne_true plain

/-- As the element of a list a schema has its own type, unless that is a
container. -/
theorem Resolves.itemName_eq
    {schema : Value} {tree : TypeTree} (resolves : Resolves schema tree) :
    itemName (some schema) =
      if tree.isGeneric then objectName else tree.text := by
  cases resolves with
  | reference refers =>
      rw [itemName]
      simp only [refers]
      rfl
  | primitive own named =>
      rw [itemName]
      simp only [own, named]
      rfl
  | array own listed =>
      rw [itemName]
      simp only [own, listed]
      rfl
  | mapping own mapped present opened =>
      rw [itemName]
      simp only [own, mapped]
      rfl
  | anything own unnamed plain =>
      rw [itemName]
      simp only [own, unnamed]
      rfl

private theorem isWellFormed_leaf {name : String} (leaf : IsLeafName name) :
    (TypeTree.leaf name).IsWellFormed := by
  intro other member
  rw [List.mem_singleton.1 member]
  exact leaf

mutual

theorem isWellFormed_resolve :
    ∀ schema : Value, (resolve schema).IsWellFormed
  | .map entries => by
      rw [resolve]
      split
      · exact isWellFormed_leaf (isLeafName_referenceName _)
      · split
        · exact isWellFormed_leaf (isLeafName_primitiveName ‹_›)
        · split
          · exact isWellFormed_leaf (isLeafName_itemName _)
          · split
            · exact isWellFormed_resolveMapping entries
            · exact isWellFormed_leaf isLeafName_objectName
  | .list _ => isWellFormed_leaf isLeafName_objectName
  | .pair _ _ => isWellFormed_leaf isLeafName_objectName
  | .scalar _ => isWellFormed_leaf isLeafName_objectName
  | .set _ => isWellFormed_leaf isLeafName_objectName

private theorem isWellFormed_resolveMapping :
    ∀ entries : List (Scalar × Value), (resolveMapping entries).IsWellFormed
  | [] => isWellFormed_leaf isLeafName_objectName
  | (key, value) :: rest => by
      rw [resolveMapping]
      split
      · split
        · exact isWellFormed_leaf isLeafName_objectName
        · exact isWellFormed_resolve value
      · exact isWellFormed_resolveMapping rest

end

structure HasTypeText (schema : Value) (content : String) : Prop where
  /-- It is the text of one well-formed type and of no other. -/
  grammatical :
    ∃! tree : TypeTree, tree.IsWellFormed ∧ tree.text = content
  container : isContainer content = true ↔ DescribesContainer schema
  item :
    itemName (some schema) =
      if isContainer content then objectName else content
  /-- No list has a container as its element. -/
  flat : ∀ items, isContainer (itemName items) = false

@[simp]
private theorem isContainer_itemName (items : Option Value) :
    isContainer (itemName items) = false := by
  rw [← TypeTree.text_leaf (itemName items),
    TypeTree.isContainer_text (isWellFormed_leaf (isLeafName_itemName items))]
  rfl

theorem hasTypeText_typeText (schema : Value) :
    HasTypeText schema (typeText schema) := by
  have formed := isWellFormed_resolve schema
  have resolves := resolves_resolve schema
  have same : isContainer (typeText schema) = (resolve schema).isGeneric :=
    TypeTree.isContainer_text formed
  refine ⟨⟨resolve schema, ⟨formed, rfl⟩, ?_⟩, ?_, ?_, isContainer_itemName⟩
  · rintro other ⟨otherFormed, text⟩
    exact TypeTree.eq_of_text_eq otherFormed formed text
  · rw [same]
    exact resolves.isGeneric_iff
  · rw [same]
    exact resolves.itemName_eq

end OpenApiSharp.Schema
