import OpenApiSharp.Proofs.Document.Value
import OpenApiSharp.Proofs.Keyed
import OpenApiSharp.Proofs.Service.Survey

namespace OpenApiSharp.Service

open Document Text

/-- Whether an element among tags can be the tag of an operation: a text that is
not blank. -/
def IsTag (element : Value) : Prop :=
  ∃ tag, element = .text tag ∧ ∃ c ∈ tag.toList, isBlank c = false

/-- The tag of an operation: the first that can be one, or the general tag if
there is none. -/
inductive FirstTag (tags : Value) : String → Prop
  | listed {front back : List Value} {tag : String}
      (elements : tags.elements = front ++ .text tag :: back)
      (isTag : IsTag (.text tag)) (first : ∀ earlier ∈ front, ¬ IsTag earlier) :
      FirstTag tags tag
  | general (none : ∀ element ∈ tags.elements, ¬ IsTag element) :
      FirstTag tags "General"

@[simp]
theorem isTag_text_iff {tag : String} :
    IsTag (.text tag) ↔ allBlank tag = false := by
  rw [allBlank, List.all_eq_false]
  constructor
  · rintro ⟨other, equal, c, member, visible⟩
    cases equal
    exact ⟨c, member, by simp [visible]⟩
  · rintro ⟨c, member, visible⟩
    exact ⟨tag, rfl, c, member, eq_false_of_ne_true visible⟩

private theorem exists_text_of_text?
    {element : Value} {tag : String} (textual : element.text? = some tag) :
    element = .text tag := by
  cases element with
  | scalar value =>
      cases value with
      | text content =>
          rw [Value.text?, Option.some.injEq] at textual
          rw [textual, Value.text]
      | _ => cases textual
  | _ => cases textual

/-- The search for a tag, over all elements that it passes. -/
private theorem find?_tag_cases (elements : List Value) :
    (∃ front tag back,
      elements = front ++ Value.text tag :: back ∧ IsTag (.text tag) ∧
        (∀ earlier ∈ front, ¬ IsTag earlier) ∧
        (elements.filterMap Value.text?).find? (fun tag => !allBlank tag) =
          some tag) ∨
      (∀ element ∈ elements, ¬ IsTag element) ∧
        (elements.filterMap Value.text?).find? (fun tag => !allBlank tag) =
          none := by
  induction elements with
  | nil =>
      exact Or.inr ⟨by simp, rfl⟩
  | cons element rest inductionHypothesis =>
      by_cases isTag : IsTag element
      · obtain ⟨tag, rfl, _⟩ := id isTag
        refine Or.inl ⟨[], tag, rest, rfl, isTag, by simp, ?_⟩
        simp [Value.text, Value.text?, isTag_text_iff.1 isTag]
      · have passed :
            ((element :: rest).filterMap Value.text?).find?
                (fun tag => !allBlank tag) =
              (rest.filterMap Value.text?).find? fun tag => !allBlank tag := by
          cases textual : element.text? with
          | none => rw [List.filterMap_cons_none textual]
          | some tag =>
              rw [exists_text_of_text? textual, isTag_text_iff,
                Bool.not_eq_false] at isTag
              rw [List.filterMap_cons_some textual,
                List.find?_cons_of_neg (by simp [isTag])]
        rw [passed]
        rcases inductionHypothesis with listed | ⟨noTag, notFound⟩
        · obtain ⟨front, tag, back, rfl, found, first, search⟩ := listed
          refine Or.inl
            ⟨element :: front, tag, back, rfl, found, ?_, search⟩
          exact List.forall_mem_cons.2 ⟨isTag, first⟩
        · exact Or.inr ⟨List.forall_mem_cons.2 ⟨isTag, noTag⟩, notFound⟩

private theorem firstTag_spec
    (tags : Value) : FirstTag tags (firstTag tags) := by
  rw [firstTag]
  rcases find?_tag_cases tags.elements with listed | ⟨noTag, notFound⟩
  · obtain ⟨front, tag, back, elements, isTag, first, search⟩ := listed
    rw [search]
    exact .listed elements isTag first
  · rw [notFound]
    exact .general noTag

/-- Whether an operation is skipped: it has no tags, no identifier, or one that
is no text or empty. -/
def Operation.Skippable (operation : Operation) : Prop :=
  operation.node.has "tags" = false ∨
    operation.node.has "operationId" = false ∨
      ∃ identifier, operation.node.get? "operationId" = some identifier ∧
        ∀ text, identifier = .text text → text = ""

def Operation.skipWarning (operation : Operation) : Diagnostic where
  level := .warning
  item := operation.item
  message :=
    if operation.node.has "tags" && operation.node.has "operationId" then
      "empty 'operationId'"
    else
      "missing 'tags' or 'operationId'"

/-- The endpoint that stands for an operation. -/
structure Operation.Describes (operation : Operation) (endpoint : Endpoint) :
    Prop where
  url : endpoint.url = operation.url
  httpMethod : endpoint.httpMethod = capitals operation.method
  operationId :
    operation.node.get? "operationId" = some (.text endpoint.operationId)
  summary :
    endpoint.summary = (operation.node.getText? "summary").getD ""
  parameters :
    endpoint.parameters = parametersOf operation.pathItem operation.node
  returnType : endpoint.returnType = Schema.returnTypeText operation.node
  tag :
    ∃ tags, operation.node.get? "tags" = some tags ∧
      FirstTag tags endpoint.tag

/-- What an operation contributes: an endpoint, with remarks on parameters that
are ignored, or only the remark that it is skipped. -/
inductive Operation.Yields (operation : Operation) :
    Option Endpoint → List Diagnostic → Prop
  | skipped (skippable : operation.Skippable) :
      Yields operation none [operation.skipWarning]
  | found {endpoint : Endpoint} (accepted : ¬ operation.Skippable)
      (describes : operation.Describes endpoint) :
      Yields operation (some endpoint)
        (namelessWarnings operation.item
          (namelessCount operation.pathItem operation.node))

private theorem Operation.outcome_of_skippable
    {operation : Operation} (skippable : operation.Skippable) :
    operation.outcome.endpoint? = none ∧
      operation.outcome.diagnostics = [operation.skipWarning] := by
  cases tags : operation.node.get? "tags" with
  | none =>
      simp [outcome, tags, Outcome.endpoint?, Outcome.diagnostics,
        skipWarning, Skip.message, Value.has]
  | some declared =>
      cases identifier : operation.node.get? "operationId" with
      | none =>
          simp [outcome, tags, identifier, Outcome.endpoint?,
            Outcome.diagnostics, skipWarning, Skip.message, Value.has]
      | some value =>
          have empty : ∀ text, value = .text text → text = "" := by
            simpa [Skippable, Value.has, tags, identifier] using skippable
          cases textual : value.text? with
          | none =>
              simp [outcome, tags, identifier, textual, Outcome.endpoint?,
                Outcome.diagnostics, skipWarning, Skip.message, Value.has]
          | some text =>
              have noText := empty text (exists_text_of_text? textual)
              simp [outcome, tags, identifier, textual, noText,
                Outcome.endpoint?, Outcome.diagnostics, skipWarning,
                Skip.message, Value.has]

private theorem Operation.outcome_of_not_skippable
    {operation : Operation} (accepted : ¬ operation.Skippable) :
    ∃ endpoint, operation.Describes endpoint ∧
      operation.outcome =
        .found operation.item endpoint
          (namelessCount operation.pathItem operation.node) := by
  simp only [Skippable, not_or, Value.has, Bool.not_eq_false,
    Option.isSome_iff_exists] at accepted
  obtain ⟨⟨tags, declared⟩, ⟨identifier, found⟩, filled⟩ := accepted
  have named : ∃ text, identifier = .text text ∧ text ≠ "" := by
    by_contra unnamed
    refine filled ⟨identifier, found, fun text equal => ?_⟩
    by_contra notEmpty
    exact unnamed ⟨text, equal, notEmpty⟩
  obtain ⟨operationId, rfl, notEmpty⟩ := named
  refine
    ⟨_, ?_, by
      simp only [outcome, declared, found, Value.text, Value.text?]; rfl⟩
  exact
    { url := rfl
      httpMethod := rfl
      operationId := found
      summary := rfl
      parameters := rfl
      returnType := rfl
      tag := ⟨tags, declared, firstTag_spec tags⟩ }

private theorem Operation.describes_of_outcome
    {operation : Operation} {endpoint : Endpoint}
    (found : operation.outcome.endpoint? = some endpoint) :
    operation.Describes endpoint := by
  by_cases skippable : operation.Skippable
  · rw [(outcome_of_skippable skippable).1] at found
    cases found
  · obtain ⟨other, describes, outcome⟩ := outcome_of_not_skippable skippable
    rw [outcome] at found
    cases found
    exact describes

/-- The step for one operation. -/
private theorem Operation.yields_outcome (operation : Operation) :
    operation.Yields operation.outcome.endpoint?
      operation.outcome.diagnostics := by
  by_cases skippable : operation.Skippable
  · obtain ⟨noEndpoint, remark⟩ := outcome_of_skippable skippable
    rw [noEndpoint, remark]
    exact .skipped skippable
  · obtain ⟨endpoint, describes, outcome⟩ :=
      outcome_of_not_skippable skippable
    rw [outcome]
    exact .found skippable describes

/-- In a complete survey every endpoint stands for an operation of the
document. -/
theorem exists_operation_of_mem_groups
    {paths : Value} (complete : (survey paths).fault = none)
    {group : String × List Endpoint} (grouped : group ∈ (survey paths).groups)
    {endpoint : Endpoint} (member : endpoint ∈ group.2) :
    ∃ operation ∈ operations paths, operation.Describes endpoint := by
  have read := Keyed.mem_of_mem_group grouped member
  rw [survey_outcomes_of_fault_eq_none complete, List.filterMap_map] at read
  obtain ⟨operation, present, found⟩ := List.mem_filterMap.1 read
  exact ⟨operation, present, Operation.describes_of_outcome found⟩

/-- What the grouping of the operations of a document comes to: the share of each
operation, in document order, and from the shares the groups and the
remarks. -/
structure GroupedByTag
    (paths : Value) (shares : List (Option Endpoint × List Diagnostic))
    (groups : List (String × List Endpoint)) (diagnostics : List Diagnostic) :
    Prop where
  accounted :
    List.Forall₂ (fun operation share => operation.Yields share.1 share.2)
      (operations paths) shares
  remarks : diagnostics = shares.flatMap Prod.snd
  /-- Every endpoint is in one group, once. -/
  once : (groups.flatMap Prod.snd).Perm (shares.filterMap Prod.fst)
  members :
    ∀ group ∈ groups,
      group.2 =
        (shares.filterMap Prod.fst).filter fun endpoint =>
          endpoint.tag == group.1
  filled : ∀ group ∈ groups, group.2 ≠ []
  distinct : (groups.map Prod.fst).Nodup
  /-- The first endpoint of a group comes before those of later groups. -/
  order :
    groups.Pairwise fun earlier later =>
      ((shares.filterMap Prod.fst).findIdx fun endpoint =>
          endpoint.tag == earlier.1) <
        (shares.filterMap Prod.fst).findIdx fun endpoint =>
          endpoint.tag == later.1
  methods :
    ∀ group ∈ groups, ∀ endpoint ∈ group.2, ∃ pathItem method node,
      (endpoint.url, pathItem) ∈ paths.entries ∧
        (.text method, node) ∈ pathItem.entries ∧
          endpoint.httpMethod = capitals method ∧
            lower method ∈ httpMethods

private theorem survey_fault_eq_none_of_isText
    {paths : Value}
    (textual :
      ∀ path ∈ paths.entries, ∀ field ∈ path.2.entries,
        field.1.isText = true) :
    (survey paths).fault = none := by
  rw [survey_fault_eq_none_iff]
  rintro ⟨url, pathItem, entry, key, node, field, unspelled⟩
  obtain ⟨content, rfl⟩ :=
    Scalar.exists_text_of_isText (textual _ entry _ field)
  cases unspelled

/-- If every key of a path item is a text, then all operations are read, and each
of them is accounted for once. -/
theorem operations_grouped_by_tag
    {paths : Value}
    (textual :
      ∀ path ∈ paths.entries, ∀ field ∈ path.2.entries,
        field.1.isText = true) :
    ∃ result shares, (survey paths).complete = .ok result ∧
      GroupedByTag paths shares result.groups result.diagnostics := by
  have complete := survey_fault_eq_none_of_isText textual
  have outcomes := survey_outcomes_of_fault_eq_none complete
  let shares :=
    (operations paths).map fun operation =>
      (operation.outcome.endpoint?, operation.outcome.diagnostics)
  have endpoints :
      (survey paths).outcomes.filterMap Outcome.endpoint? =
        shares.filterMap Prod.fst := by
    rw [outcomes, List.filterMap_map, List.filterMap_map]
    rfl
  have accounted :
      List.Forall₂ (fun operation share => operation.Yields share.1 share.2)
        (operations paths) shares := by
    rw [List.forall₂_map_right_iff, List.forall₂_same]
    exact fun operation _ => operation.yields_outcome
  have once := Keyed.group_perm Endpoint.tag (shares.filterMap Prod.fst)
  refine ⟨survey paths, shares, by rw [Survey.complete, complete], ?_⟩
  rw [Survey.groups, endpoints]
  exact
    { accounted
      remarks := by
        rw [Survey.diagnostics, outcomes, List.flatMap_map, List.flatMap_map]
      once
      members := fun group grouped => (Keyed.mem_group_iff.1 grouped).2
      filled := fun group grouped => Keyed.ne_nil_of_mem_group grouped
      distinct := Keyed.nodup_keys_group _ _
      order := Keyed.group_order _ _
      methods := by
        intro group grouped endpoint member
        have shared : endpoint ∈ shares.filterMap Prod.fst :=
          Keyed.mem_of_mem_group grouped member
        obtain ⟨⟨given, remarks⟩, shareMember, rfl⟩ :=
          List.mem_filterMap.1 shared
        obtain ⟨operation, operationMember, yields⟩ :=
          Related.exists_left_of_mem accounted shareMember
        cases yields with
        | found _ describes =>
            obtain ⟨entry, field, known⟩ :=
              mem_operations_iff.1 operationMember
            rw [describes.url, describes.httpMethod]
            exact ⟨_, _, _, entry, field, rfl, known⟩ }

def taggedOperation (tag operationId : String) : Value :=
  .map [(.text "tags", .list [Value.text tag]),
    (.text "operationId", Value.text operationId)]

/-- Two tags, an operation without an identifier, and a key that is no method. -/
def shopPaths : Value :=
  .map [
    (.text "/orders", .map [
      (.text "summary", Value.text "Orders"),
      (.text "get", taggedOperation "Orders" "listOrders"),
      (.text "POST", taggedOperation "Admin" "createOrder")]),
    (.text "/orders/{id}", .map [
      (.text "get", taggedOperation "Orders" "getOrder"),
      (.text "delete", taggedOperation "Orders" "")])]

theorem shopPaths_grouped :
    (∀ path ∈ shopPaths.entries, ∀ field ∈ path.2.entries,
      field.1.isText = true) ∧
      ∃ result shares, (survey shopPaths).complete = .ok result ∧
        GroupedByTag shopPaths shares result.groups result.diagnostics :=
  ⟨by decide, operations_grouped_by_tag (by decide)⟩

end OpenApiSharp.Service
