import OpenApiSharp.Model.Declaration
import OpenApiSharp.Proofs.CSharp.TypeTree
import OpenApiSharp.Proofs.CSharp.Using
import OpenApiSharp.Proofs.Model.UniqueNames
import OpenApiSharp.Service.Declaration

namespace OpenApiSharp.Model

open CSharp Document Service Text

/-- Every file that mentions a model in one of its types imports the namespace of
the model, unless that is its own. -/
structure ImportedWhereMentioned
    (config : Config) (descriptors : List Descriptor) (imported : Descriptor) :
    Prop where
  records :
    ∀ descriptor ∈ descriptors, descriptor.kind = .record →
      imported.namespaceName ≠ descriptor.namespaceName →
        ∃ declaration usings fields,
          descriptor.declaration (indexOf descriptors) = .ok declaration ∧
            declaration.body = .record usings fields ∧
              ∀ field ∈ fields,
                Mentions field.declaredType imported.name →
                  imported.namespaceName ∈ usings
  wrappers :
    ∀ descriptor ∈ descriptors, descriptor.kind = .wrapper →
      imported.namespaceName ≠ descriptor.namespaceName →
        ∃ declaration usings valueType valueName,
          descriptor.declaration (indexOf descriptors) = .ok declaration ∧
            declaration.body = .wrapper usings valueType valueName ∧
              descriptor.wrappedType? = some valueType ∧
                (Mentions valueType imported.name →
                  imported.namespaceName ∈ usings)
  interfaces :
    ∀ serviceName tag methods endpoints,
      imported.namespaceName ≠ config.interfacesNamespace →
        ∀ endpoint ∈ endpoints,
          ∀ typeText ∈ endpoint.returnType ::
              endpoint.parameters.map Parameter.typeText,
            Mentions typeText imported.name →
              imported.namespaceName ∈
                (declare serviceName tag methods endpoints config
                  (indexOf descriptors)).interfaceUsings
  implementations :
    ∀ serviceName tag methods endpoints,
      imported.namespaceName ≠ config.implementationsNamespace →
        ∀ endpoint ∈ endpoints,
          ∀ typeText ∈ endpoint.returnType ::
              endpoint.parameters.map Parameter.typeText,
            Mentions typeText imported.name →
              imported.namespaceName ∈
                (declare serviceName tag methods endpoints config
                  (indexOf descriptors)).implementationUsings

/-- No model is found in the result of a method that returns nothing, so every
type in which one is found counts. -/
theorem mem_typeTexts_of_mentions
    {endpoint : Endpoint} {typeText name : String}
    (occurs : typeText ∈ endpoint.returnType ::
      endpoint.parameters.map Parameter.typeText)
    (mentioned : Mentions typeText name) (own : name ∉ builtinNames) :
    typeText ∈ endpoint.typeTexts := by
  rw [Endpoint.typeTexts, List.mem_append]
  rcases List.mem_cons.1 occurs with rfl | parameter
  · have returns : endpoint.returnType ≠ voidName := by
      intro nothing
      rw [nothing] at mentioned
      have word : ∀ c ∈ voidName.toList, isWordChar c = true :=
        List.all_iff_forall_prop.1 (by decide)
      rw [mentioned.eq_of_word word] at own
      exact own (by decide)
    right
    simp [returns]
  · exact Or.inl parameter

section Plain

variable {schemas : List (String × Value)} {config : Config}
  {imported : Descriptor}
  (member : imported ∈ inventory schemas config)
  (plain : ∀ c ∈ imported.name.toList, isIdentifierPart c = true)

include member plain

/-- The name is found in the type of a field whether or not the field is
nullable. -/
private theorem mentions_typeText_of_declaredType
    {field : Field} (mentioned : Mentions field.declaredType imported.name) :
    Mentions field.typeText imported.name := by
  obtain ⟨c, rest, spelling, _⟩ := (isTypeName_name member).first
  have filled : imported.name.toList ≠ [] := by
    rw [spelling]
    exact List.cons_ne_nil c rest
  rw [Field.declaredType] at mentioned
  by_cases required : field.required = true
  · rwa [if_pos required] at mentioned
  · rw [if_neg required] at mentioned
    exact mentioned.of_nullable
      (fun d inside => isWordChar_of_isIdentifierPart (plain d inside)) filled

variable (own : imported.name ∉ builtinNames)

include own

private theorem name_mem_referencedNames
    {typeText : String} (mentioned : Mentions typeText imported.name) :
    imported.name ∈ referencedNames typeText := by
  obtain ⟨c, rest, spelling, letter⟩ := (isTypeName_name member).first
  rw [spelling] at plain
  exact mem_referencedNames_of_mentions mentioned spelling
    (isIdentifierStart_of_isLetter letter (plain c List.mem_cons_self))
    (fun d inside => plain d (List.mem_cons_of_mem c inside)) own

variable {always : List String} {ownNamespace typeText : String}

/-- Any file with a type that mentions the model imports its namespace. -/
private theorem namespaceName_mem_usings
    {types : List String} (occurs : typeText ∈ types)
    (mentioned : Mentions typeText imported.name)
    (foreign : imported.namespaceName ≠ ownNamespace) :
    imported.namespaceName ∈
      usings types ownNamespace (indexOf (inventory schemas config)) always :=
  mem_usings_of_lookup occurs
    (name_mem_referencedNames member plain own mentioned)
    (lookup?_indexOf_inventory member) (namespaceName_ne_empty member) foreign

private theorem namespaceName_mem_usings_of_endpoint
    {endpoints : List Endpoint} {endpoint : Endpoint}
    (inside : endpoint ∈ endpoints)
    (occurs : typeText ∈ endpoint.returnType ::
      endpoint.parameters.map Parameter.typeText)
    (mentioned : Mentions typeText imported.name)
    (foreign : imported.namespaceName ≠ ownNamespace) :
    imported.namespaceName ∈
      usings (endpoints.flatMap Endpoint.typeTexts) ownNamespace
        (indexOf (inventory schemas config)) always := by
  have counted := mem_typeTexts_of_mentions occurs mentioned own
  exact namespaceName_mem_usings member plain own
    (List.mem_flatMap.2 ⟨endpoint, inside, counted⟩) mentioned foreign

/-- A model with a plain name is imported wherever it is mentioned. -/
theorem imports_complete :
    ImportedWhereMentioned config (inventory schemas config) imported where
  records := by
    intro descriptor _ kind foreign
    refine
      ⟨_, _, _, Descriptor.declaration_eq_ok_iff.2 ⟨_, .record kind, rfl⟩, rfl,
        ?_⟩
    intro field inside mentioned
    exact namespaceName_mem_usings member plain own
      (List.mem_map.2 ⟨field, inside, rfl⟩)
      (mentions_typeText_of_declaredType member plain mentioned) foreign
  wrappers := by
    intro descriptor _ kind foreign
    refine
      ⟨_, _, _, _, Descriptor.declaration_eq_ok_iff.2 ⟨_, .wrapper kind, rfl⟩,
        rfl, by simp only [Descriptor.wrappedType?, kind, if_true], ?_⟩
    intro mentioned
    exact namespaceName_mem_usings member plain own
      (List.mem_singleton.2 rfl) mentioned foreign
  interfaces := by
    intro _ _ _ _ foreign _ inside _ occurs mentioned
    exact namespaceName_mem_usings_of_endpoint member plain own inside occurs
      mentioned foreign
  implementations := by
    intro _ _ _ _ foreign _ inside _ occurs mentioned
    exact namespaceName_mem_usings_of_endpoint member plain own inside occurs
      mentioned foreign

end Plain

/-- A definition of some name and a record with a field that refers to it. -/
def cartSchemas (name : String) : List (String × Value) :=
  [(name, .map [(.text "type", .text "string")]),
   ("Cart", .map [(.text "properties",
      .map [(.text "item", Schema.referenceTo name)])])]

theorem imports_complete_order :
    ∃ imported ∈ inventory (cartSchemas "Order") {},
      (∀ c ∈ imported.name.toList, isIdentifierPart c = true) ∧
        imported.name ∉ builtinNames ∧
          ImportedWhereMentioned {} (inventory (cartSchemas "Order") {})
            imported := by
  obtain ⟨imported, member, name⟩ :
      ∃ imported ∈ inventory (cartSchemas "Order") {},
        imported.name = "Order" := by
    decide +kernel
  have plain : ∀ c ∈ imported.name.toList, isIdentifierPart c = true := by
    rw [name]
    exact List.all_iff_forall_prop.1 (by decide +kernel)
  have own : imported.name ∉ builtinNames := by
    rw [name]
    decide
  exact ⟨imported, member, plain, own, imports_complete member plain own⟩

/-- The record as it is declared if its field imports nothing. -/
def cartDeclaration (fieldType : String) : Declaration where
  name := "Cart"
  namespaceName := "GeneratedCode.Models.Carts"
  summary := []
  body := .record [jsonNamespace]
    [{ name := "Item"
       jsonName := "item"
       typeText := fieldType
       required := false
       summary := [] }]

private theorem not_importedWhereMentioned
    {config : Config} {descriptors : List Descriptor}
    {imported cart : Descriptor} (member : cart ∈ descriptors)
    (kind : cart.kind = .record)
    (declared :
      cart.declaration (indexOf descriptors) =
        .ok (cartDeclaration imported.name))
    (foreign :
      imported.namespaceName ∉ [cart.namespaceName, jsonNamespace]) :
    ¬ ImportedWhereMentioned config descriptors imported := by
  intro complete
  simp only [List.mem_cons, List.not_mem_nil, or_false, not_or] at foreign
  obtain ⟨declaration, usings, fields, result, body, imports⟩ :=
    complete.records cart member kind foreign.1
  rw [declared, Except.ok.injEq] at result
  rw [← result, cartDeclaration, Body.record.injEq] at body
  obtain ⟨rfl, rfl⟩ := body
  have mark : ∀ c, ['?'].head? = some c → isWordChar c = false := by
    rintro c ⟨rfl⟩
    decide +kernel
  have mentioned : Mentions (imported.name ++ "?") imported.name :=
    ⟨[], ['?'], String.toList_append, by simp, mark⟩
  have namespaceImported := imports _ (List.mem_singleton.2 rfl) mentioned
  exact foreign.2 (List.mem_singleton.1 namespaceImported)

private theorem exists_not_imported
    {name : String}
    (evaluated :
      ∃ imported ∈ inventory (cartSchemas name) {}, imported.name = name ∧
        ∃ cart ∈ inventory (cartSchemas name) {}, cart.kind = .record ∧
          cart.declaration (indexOf (inventory (cartSchemas name) {})) =
              .ok (cartDeclaration imported.name) ∧
            imported.namespaceName ∉ [cart.namespaceName, jsonNamespace]) :
    ∃ imported ∈ inventory (cartSchemas name) {}, imported.name = name ∧
      ¬ ImportedWhereMentioned {} (inventory (cartSchemas name) {})
        imported := by
  obtain ⟨imported, member, named, cart, cartMember, kind, declared, foreign⟩ :=
    evaluated
  exact ⟨imported, member, named,
    not_importedWhereMentioned cartMember kind declared foreign⟩

/-- A model with the name of a built-in type is not imported where a field is of
that type, nor is one whose name goes beyond ASCII. -/
theorem imports_incomplete :
    (∃ imported ∈ inventory (cartSchemas "Task") {},
      imported.name = "Task" ∧
        ¬ ImportedWhereMentioned {} (inventory (cartSchemas "Task") {})
          imported) ∧
      ∃ imported ∈ inventory (cartSchemas "Größe") {},
        imported.name = "Größe" ∧
          ¬ ImportedWhereMentioned {} (inventory (cartSchemas "Größe") {})
            imported :=
  ⟨exists_not_imported (by decide +kernel),
    exists_not_imported (by decide +kernel)⟩

end OpenApiSharp.Model
