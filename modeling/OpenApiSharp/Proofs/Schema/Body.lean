import OpenApiSharp.Proofs.Schema.QuotedKeys
import OpenApiSharp.Proofs.Schema.Resolve

namespace OpenApiSharp.Schema

open CSharp Document Naming

/-- A content type under which a schema stands. -/
def Offers (content : Value) (contentType : String) (schema : Value) : Prop :=
  ∃ media, content.get? contentType = some media ∧
    media.get? "schema" = some schema

/-- The content types that stand for JSON, the best one first. -/
def preference : List String :=
  ["application/json", "text/json", "*/*"]

/-- The schema that a body selects: its own, or that of the best content type
for JSON, or that of the first content type of all which has one. -/
inductive Selects (holder : Value) : Value → Prop
  | direct {schema : Value} (own : holder.get? "schema" = some schema) :
      Selects holder schema
  | preferred {content schema : Value} {contentType : String}
      {better worse : List String} (noOwn : holder.get? "schema" = none)
      (present : holder.get? "content" = some content)
      (order : preference = better ++ contentType :: worse)
      (refused : ∀ other ∈ better, ∀ schema, ¬ Offers content other schema)
      (offered : Offers content contentType schema) :
      Selects holder schema
  | first {content schema media : Value} {key : Scalar}
      {before after : List (Scalar × Value)}
      (noOwn : holder.get? "schema" = none)
      (present : holder.get? "content" = some content)
      (refused :
        ∀ other ∈ preference, ∀ schema, ¬ Offers content other schema)
      (order : content.entries = before ++ (key, media) :: after)
      (earlier : ∀ entry ∈ before, entry.2.get? "schema" = none)
      (offered : media.get? "schema" = some schema) :
      Selects holder schema

def offered? (content : Value) (contentType : String) : Option Value :=
  (content.get? contentType).bind fun media => media.get? "schema"

theorem offers_iff {content schema : Value} {contentType : String} :
    Offers content contentType schema ↔
      offered? content contentType = some schema :=
  Option.bind_eq_some_iff.symm

theorem offered?_eq_none_iff {content : Value} {contentType : String} :
    offered? content contentType = none ↔
      ∀ schema, ¬ Offers content contentType schema := by
  simp only [offers_iff, Option.eq_none_iff_forall_ne_some, ne_eq]

private theorem findSome?_filterMap
    {α β γ : Type} (f : α → Option β) (g : β → Option γ) (elements : List α) :
    (elements.filterMap f).findSome? g =
      elements.findSome? fun element => (f element).bind g := by
  induction elements with
  | nil => rfl
  | cons element rest inductionHypothesis =>
      rw [List.findSome?_cons, ← inductionHypothesis]
      cases found : f element with
      | none =>
          rw [List.filterMap_cons_none found, Option.bind_none]
      | some image =>
          rw [List.filterMap_cons_some found, List.findSome?_cons,
            Option.bind_some]

private theorem findSome?_medias (content : Value) :
    ((medias content).findSome? fun media => media.get? "schema") =
      (preference.findSome? (offered? content)).or
        (content.entries.findSome? fun entry => entry.2.get? "schema") := by
  rw [medias, List.findSome?_append, findSome?_filterMap, List.findSome?_map]
  rfl

theorem findSome?_preference_eq_none_iff {content : Value} :
    preference.findSome? (offered? content) = none ↔
      ∀ other ∈ preference, ∀ schema, ¬ Offers content other schema := by
  rw [List.findSome?_eq_none_iff]
  simp only [offered?_eq_none_iff]

private theorem selects_of_bodySchema?
    {holder schema : Value} (found : bodySchema? holder = some schema) :
    Selects holder schema := by
  rw [bodySchema?_eq, Option.or_eq_some_iff] at found
  rcases found with own | ⟨noOwn, behind⟩
  · exact .direct own
  · obtain ⟨content, present, inside⟩ := Option.bind_eq_some_iff.1 behind
    rw [findSome?_medias, Option.or_eq_some_iff] at inside
    rcases inside with best | ⟨none, other⟩
    · obtain ⟨better, contentType, worse, order, offered, refused⟩ :=
        List.findSome?_eq_some_iff.1 best
      refine .preferred noOwn present order ?_ (offers_iff.2 offered)
      intro other member
      exact offered?_eq_none_iff.1 (refused other member)
    · obtain ⟨before, ⟨key, media⟩, after, order, offered, earlier⟩ :=
        List.findSome?_eq_some_iff.1 other
      exact
        .first noOwn present (findSome?_preference_eq_none_iff.1 none) order
          earlier offered

private theorem Selects.bodySchema?_eq_some
    {holder schema : Value} (selects : Selects holder schema) :
    bodySchema? holder = some schema := by
  rw [bodySchema?_eq]
  cases selects with
  | direct own =>
      rw [own, Option.some_or]
  | preferred noOwn present order refused offered =>
      rw [noOwn, Option.none_or, present, Option.bind_some, findSome?_medias,
        Option.or_eq_some_iff]
      refine Or.inl (List.findSome?_eq_some_iff.2 ?_)
      refine ⟨_, _, _, order, offers_iff.1 offered, ?_⟩
      intro other member
      exact offered?_eq_none_iff.2 (refused other member)
  | first noOwn present refused order earlier offered =>
      rw [noOwn, Option.none_or, present, Option.bind_some, findSome?_medias,
        findSome?_preference_eq_none_iff.2 refused, Option.none_or]
      exact
        List.findSome?_eq_some_iff.2 ⟨_, _, _, order, offered, earlier⟩

theorem selects_iff {holder schema : Value} :
    Selects holder schema ↔ bodySchema? holder = some schema :=
  ⟨Selects.bodySchema?_eq_some, selects_of_bodySchema?⟩

theorem bodySchema?_eq_none_iff {holder : Value} :
    bodySchema? holder = none ↔ ∀ schema, ¬ Selects holder schema := by
  simp only [selects_iff, Option.eq_none_iff_forall_ne_some, ne_eq]

/-- The response under the status 200 of an operation, or under 201 if there is
none. -/
def SucceedsWith (operation response : Value) : Prop :=
  ∃ responses, operation.get? "responses" = some responses ∧
    (responses.get? "200" = some response ∨
      responses.get? "200" = none ∧ responses.get? "201" = some response)

theorem succeedsWith_iff {operation response : Value} :
    SucceedsWith operation response ↔
      successResponse? operation = some response := by
  have statuses :
      ∀ responses : Value,
        successStatuses.findSome? responses.get? =
          (responses.get? "200").or (responses.get? "201") := by
    intro responses
    rw [successStatuses, List.findSome?_cons, List.findSome?_cons,
      List.findSome?_nil]
    cases responses.get? "200" <;> cases responses.get? "201" <;> rfl
  simp only [successResponse?, Option.bind_eq_some_iff, statuses,
    Option.or_eq_some_iff]
  rfl

theorem referenceName_eq_void_iff (pointer : String) :
    referenceName pointer = voidName ↔
      typeName (lastSegment pointer) = voidName := by
  by_cases empty : pointer.isEmpty = true
  · have nothing : pointer = "" := String.isEmpty_iff.1 empty
    rw [nothing]
    decide
  · rw [referenceName, if_neg empty]

/-- Only a reference has the type void, to a definition that is named so. -/
theorem Resolves.text_eq_void_iff
    {schema : Value} {tree : TypeTree} (resolves : Resolves schema tree) :
    tree.text = voidName ↔
      ∃ pointer, schema.getText? "$ref" = some pointer ∧
        typeName (lastSegment pointer) = voidName := by
  have noReference
      (own : schema.getText? "$ref" = none) (named : tree.text ≠ voidName) :
      tree.text = voidName ↔
        ∃ pointer, schema.getText? "$ref" = some pointer ∧
          typeName (lastSegment pointer) = voidName := by
    refine iff_of_false named ?_
    intro ⟨pointer, refers, _⟩
    rw [own] at refers
    cases refers
  cases resolves with
  | reference refers =>
      rw [TypeTree.text_leaf, referenceName_eq_void_iff]
      simp only [refers, Option.some.injEq, exists_eq_left']
  | primitive own named =>
      apply noReference own
      have names : ∀ name ∈ schemaTypeNames, name ≠ voidName := by
        decide
      exact names _ (primitiveName_mem_schemaTypeNames named)
  | array own listed =>
      apply noReference own
      intro same
      have heads := congrArg (fun text => text.toList.head?) same
      simp [voidName] at heads
  | mapping own mapped present opened =>
      apply noReference own
      intro same
      have heads := congrArg (fun text => text.toList.head?) same
      simp [voidName] at heads
  | anything own unnamed plain =>
      apply noReference own
      decide

/-- What an operation returns and what it is sent, by the schemas that the bodies
of its response and of its request select. -/
structure ChoosesBodies (operation : Value) : Prop where
  returned :
    ∀ response schema, SucceedsWith operation response →
      Selects response schema → returnTypeText operation = typeText schema
  void_iff :
    returnTypeText operation = "void" ↔
      (∀ response, ¬ SucceedsWith operation response) ∨
      (∃ response, SucceedsWith operation response ∧
        ∀ schema, ¬ Selects response schema) ∨
      ∃ response schema pointer, SucceedsWith operation response ∧
        Selects response schema ∧ schema.getText? "$ref" = some pointer ∧
        typeName (lastSegment pointer) = "void"
  unsent_iff :
    requestBody? operation = none ↔
      operation.get? "requestBody" = none ∨
      ∃ body, operation.get? "requestBody" = some body ∧
        ∀ schema, ¬ Selects body schema
  sent :
    ∀ body schema, operation.get? "requestBody" = some body →
      Selects body schema →
      ∃ required, requestBody? operation = some (schema, required) ∧
        (required = true ↔
          body.get? "required" = some (.scalar (.bool true)))

private theorem returnTypeText_of_selects
    {operation response schema : Value}
    (succeeds : SucceedsWith operation response)
    (selects : Selects response schema) :
    returnTypeText operation = typeText schema := by
  rw [returnTypeText, succeedsWith_iff.1 succeeds, Option.bind_some,
    selects_iff.1 selects]

theorem returnTypeText_eq_void_iff (operation : Value) :
    returnTypeText operation = voidName ↔
      (∀ response, ¬ SucceedsWith operation response) ∨
      (∃ response, SucceedsWith operation response ∧
        ∀ schema, ¬ Selects response schema) ∨
      ∃ response schema pointer, SucceedsWith operation response ∧
        Selects response schema ∧ schema.getText? "$ref" = some pointer ∧
        typeName (lastSegment pointer) = voidName := by
  simp only [succeedsWith_iff, selects_iff, returnTypeText]
  cases answered : successResponse? operation with
  | none =>
      simp
  | some response =>
      rw [Option.bind_some]
      cases found : bodySchema? response with
      | none =>
          simp [found]
      | some schema =>
          have void := (resolves_resolve schema).text_eq_void_iff
          simp [found, typeText, void]

theorem requestBody?_eq_none_iff (operation : Value) :
    requestBody? operation = none ↔
      operation.get? "requestBody" = none ∨
      ∃ body, operation.get? "requestBody" = some body ∧
        ∀ schema, ¬ Selects body schema := by
  rw [requestBody?]
  cases operation.get? "requestBody" with
  | none =>
      simp
  | some body =>
      simp [bodySchema?_eq_none_iff]

private theorem requestBody?_of_selects
    {operation body schema : Value}
    (present : operation.get? "requestBody" = some body)
    (selects : Selects body schema) :
    requestBody? operation = some (schema, body.isTrue "required") := by
  rw [requestBody?, present, Option.bind_some, selects_iff.1 selects,
    Option.map_some]

/-- Every operation chooses its bodies so, whatever stands under its keys. -/
theorem choosesBodies (operation : Value) : ChoosesBodies operation where
  returned := fun _ _ => returnTypeText_of_selects
  void_iff := returnTypeText_eq_void_iff operation
  unsent_iff := requestBody?_eq_none_iff operation
  sent := by
    intro body schema present selects
    exact
      ⟨_, requestBody?_of_selects present selects, Value.isTrue_iff⟩

end OpenApiSharp.Schema
