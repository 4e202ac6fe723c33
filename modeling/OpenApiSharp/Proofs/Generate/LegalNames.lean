import OpenApiSharp.Proofs.Model.UniqueNames
import OpenApiSharp.Proofs.Naming.Fresh
import OpenApiSharp.Proofs.Naming.Legal
import OpenApiSharp.Proofs.Report
import OpenApiSharp.Proofs.Service.Survey

namespace OpenApiSharp

open Document Naming Text

/-- A name that is legal unless the text it is made from begins with a numeral
that is no digit. -/
def LegalFrom (raw name : String) : Prop :=
  IsLegal name ↔ ¬ NumeralFirst raw

/-- The names in the body of a declaration, given the definition that it
declares. -/
inductive Model.Body.NamedFrom (definition : Value) : Body → Prop
  | enumeration {texts members : List String}
      (entries : enumTexts definition = .ok texts)
      (named :
        List.Forall₂
          (fun text member => LegalFrom (enumMemberName text) member)
          texts members) :
      NamedFrom definition (.enumeration members)
  | record {usings : List String} {fields : List Field}
      (named :
        List.Forall₂
          (fun property field => LegalFrom property.1 field.name)
          (properties definition) fields) :
      NamedFrom definition (.record usings fields)
  | wrapper {usings : List String} {valueType valueName : String}
      (legal : IsLegal valueName) :
      NamedFrom definition (.wrapper usings valueType valueName)
  | fallback {usings : List String} : NamedFrom definition (.fallback usings)

/-- The names of a method and its arguments, given the endpoint that it
serves. -/
structure Service.Method.NamedFrom (endpoint : Service.Endpoint)
    (method : Service.Method) : Prop where
  name : LegalFrom (cleanOperationId endpoint.operationId) method.name
  arguments :
    List.Forall₂
      (fun parameter argument => LegalFrom parameter.name argument.name)
      endpoint.parameters method.arguments

/-- The names that a run declares. -/
structure Run.Named (run : Run) : Prop where
  types :
    ∀ descriptor ∈ run.descriptors,
      ¬ IsLegal descriptor.name ↔
        descriptor.name = typeName descriptor.sourceName ∧
          typeName descriptor.sourceName ∈ keywords
  bodies :
    ∀ descriptor ∈ run.descriptors, ∀ declaration,
      descriptor.declaration (Model.indexOf run.descriptors) =
          .ok declaration →
        declaration.body.NamedFrom descriptor.node
  methods :
    ∀ service ∈ run.services, ∀ method ∈ service.declaration.methods,
      ∃ group ∈ run.survey.groups, group.1 = service.tag ∧
        ∃ endpoint ∈ group.2, method.NamedFrom endpoint

namespace Model

variable {schemas : List (String × Value)} {config : Config}

theorem isLegal_name_iff
    {descriptor : Descriptor} (member : descriptor ∈ inventory schemas config) :
    ¬ IsLegal descriptor.name ↔
      descriptor.name = typeName descriptor.sourceName ∧
        typeName descriptor.sourceName ∈ keywords := by
  obtain ⟨c, rest, chars, letter⟩ := (isTypeName_name member).first
  rw [isLegal_iff_not_mem_keywords chars letter, not_not]
  constructor
  · intro keyword
    rcases name_eq_typeName_or_numbered member with same | numbered
    · exact ⟨same, same ▸ keyword⟩
    · obtain ⟨counter, _, equal⟩ := numbered
      rw [equal] at keyword
      exact absurd keyword (append_counter_not_mem_keywords _ counter)
  · rintro ⟨same, keyword⟩
    rw [same]
    exact keyword

private theorem legalFrom_memberIdentifier
    (raw owner : String) (used : List String) :
    LegalFrom raw (memberIdentifier raw owner used) := by
  rw [memberIdentifier_eq_uniqueName]
  exact (casedFrom_memberNameWithin raw owner).isLegal_uniqueName used

private theorem isLegal_valueName (owner : String) :
    IsLegal (memberIdentifier "Value" owner []) := by
  apply (legalFrom_memberIdentifier "Value" owner []).2
  rintro ⟨c, rest, words, unable⟩
  have value : wordChars "Value" = ['V', 'a', 'l', 'u', 'e'] := by
    decide
  have able : canBegin 'V' = true := by decide
  rw [value] at words
  rw [← (List.cons.inj words).1, able] at unable
  cases unable

private theorem recordFields_named (owner : String) (definition : Value) :
    List.Forall₂ (fun property field => LegalFrom property.1 field.name)
      (properties definition) (recordFields owner definition) := by
  have named :
      List.Forall₂ LegalFrom ((properties definition).map Prod.fst)
        (assign (fun raw used => memberIdentifier raw owner used) []
          ((properties definition).map Prod.fst)) :=
    assign_forall₂ (fun raw used => legalFrom_memberIdentifier raw owner used)
      [] _
  rw [List.forall₂_map_left_iff] at named
  refine Related.zipWith_of_related ?_ named
  intro property name legal
  exact legal

private theorem Descriptor.declaration_namedFrom
    {descriptor : Descriptor} {index : NamespaceIndex}
    {declaration : Declaration}
    (declared : descriptor.declaration index = .ok declaration) :
    declaration.body.NamedFrom descriptor.node := by
  obtain ⟨body, builds, rfl⟩ := Descriptor.declaration_eq_ok_iff.1 declared
  cases builds with
  | enumeration kind written =>
      refine .enumeration written (assign_forall₂ ?_ [] _)
      intro text used
      exact legalFrom_memberIdentifier _ _ used
  | record kind => exact .record (recordFields_named _ _)
  | wrapper kind => exact .wrapper (isLegal_valueName _)
  | fallback kind => exact .fallback

end Model

namespace Service

private theorem identifiers_named (parameters : List Parameter) :
    List.Forall₂ (fun parameter => LegalFrom parameter.name)
      parameters (identifiers parameters) :=
  assign_forall₂
    (fun parameter used =>
      (casedFrom_parameterName parameter.name).isLegal_uniqueName used)
    [] parameters

private theorem Endpoint.arguments_named (endpoint : Endpoint) :
    List.Forall₂
      (fun parameter argument => LegalFrom parameter.name argument.name)
      endpoint.parameters endpoint.arguments := by
  have named := identifiers_named endpoint.parameters
  rw [Endpoint.arguments, Endpoint.bound, List.forall₂_map_right_iff, List.zip]
  refine Related.zipWith_of_related ?_ named
  intro parameter name legal
  exact legal

private theorem legalFrom_baseName_async
    (raw owner : String) (used : List String) :
    LegalFrom raw (memberIdentifier raw owner used ++ "Async") := by
  rw [memberIdentifier_eq_uniqueName]
  exact (casedFrom_memberNameWithin raw owner).isLegal_uniqueName_async used

private theorem Endpoint.method_namedFrom
    {endpoint : Endpoint} {owner : String} {used : List String}
    {method : Method} (built : endpoint.method owner used = .ok method) :
    method.NamedFrom endpoint := by
  obtain ⟨url, _, rfl⟩ := Endpoint.method_eq_ok_iff.1 built
  exact
    { name := legalFrom_baseName_async _ owner used
      arguments := endpoint.arguments_named }

end Service

/-- Every name that a run declares is legal, except for types that are named as
a keyword, and members and parameters whose texts begin with a numeral that is
no digit. -/
theorem Run.named_ofDocument (config : Config) (document : Value) :
    (Run.ofDocument config document).Named where
  types := fun _ member => Model.isLegal_name_iff member
  bodies := fun _ _ _ declared => Model.Descriptor.declaration_namedFrom declared
  methods := by
    intro service member method built
    have services :
        List.Forall₂
          (fun group service =>
            group.1 = service.tag ∧
              ∀ method ∈ service.declaration.methods,
                ∃ endpoint ∈ group.2, method.NamedFrom endpoint)
          (Run.ofDocument config document).survey.groups
          (Run.ofDocument config document).services := by
      apply Related.zipWith_right
      · rw [serviceNames, assign_length, List.length_map]
        rfl
      · intro group _ name _
        refine ⟨rfl, fun method built => ?_⟩
        obtain ⟨endpoint, present, used, serves⟩ :=
          Service.exists_endpoint_of_mem_builtMethods built
        exact ⟨endpoint, present, Service.Endpoint.method_namedFrom serves⟩
    obtain ⟨group, present, tag, named⟩ :=
      Related.exists_left_of_mem services member
    exact ⟨group, present, tag, named method built⟩

/-- A definition with the name of a keyword, and one with a property whose name
begins with a numeral that is no digit. -/
def halfDocument : Value :=
  .map
    [(.text "paths", .map []),
     (.text "definitions", .map
      [(.text "class", .map [(.text "type", .text "string")]),
       (.text "Half", .map
        [(.text "properties", .map [(.text "½x", .map [])])])])]

theorem halfDocument_declares_illegal_names :
    (∃ report, generate {} halfDocument = .ok report) ∧
      (∃ descriptor ∈ (Run.ofDocument {} halfDocument).descriptors,
        descriptor.name = "class" ∧ ¬ IsLegal descriptor.name) ∧
      ∃ descriptor ∈ (Run.ofDocument {} halfDocument).descriptors,
        descriptor.kind = .record ∧
          ∃ field ∈ Model.recordFields descriptor.name descriptor.node,
            field.name = "½x" ∧ ¬ IsLegal field.name := by
  have complete : (Run.ofDocument {} halfDocument).survey.fault = none := by
    decide +kernel
  have illegalType : ¬ IsLegal "class" := by
    have letter : isLetter 'c' = true := by decide +kernel
    have chars : "class".toList = 'c' :: "lass".toList := by decide +kernel
    rw [isLegal_iff_not_mem_keywords chars letter, not_not]
    decide +kernel
  have illegalField : ¬ IsLegal "½x" := by
    have chars : "½x".toList = ['½', 'x'] := by decide +kernel
    have noStart : isStart '½' = false := by decide +kernel
    intro legal
    cases legal with
    | verbatim marked start =>
        rw [chars] at marked
        cases marked
    | plain spelling start _ =>
        rw [chars] at spelling
        cases spelling
        rw [noStart] at start
        cases start
  have names :
      ∃ descriptor ∈ (Run.ofDocument {} halfDocument).descriptors,
        descriptor.name = "class" := by
    decide +kernel
  have fields :
      ∃ descriptor ∈ (Run.ofDocument {} halfDocument).descriptors,
        descriptor.kind = .record ∧
          ∃ field ∈ Model.recordFields descriptor.name descriptor.node,
            field.name = "½x" := by
    decide +kernel
  obtain ⟨named, namedMember, type⟩ := names
  obtain ⟨owner, ownerMember, kind, field, fieldMember, spelling⟩ := fields
  exact ⟨⟨_, generate_of_no_fault complete⟩,
    ⟨named, namedMember, type, type ▸ illegalType⟩,
    owner, ownerMember, kind, field, fieldMember, spelling,
    spelling ▸ illegalField⟩

end OpenApiSharp
