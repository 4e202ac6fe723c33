import OpenApiSharp.Proofs.Documentation.Document
import OpenApiSharp.Proofs.Service.Parameters
import OpenApiSharp.Proofs.Service.Survey

namespace OpenApiSharp.Service

open Document Text

def Parameter.bare (parameter : Parameter) : Parameter :=
  { parameter with description := "" }

/-- An endpoint without its summary and the descriptions of its parameters. -/
def Endpoint.bare (endpoint : Endpoint) : Endpoint :=
  { endpoint with
    summary := ""
    parameters := endpoint.parameters.map Parameter.bare }

def Outcome.bare : Outcome → Outcome
  | skipped item reason => skipped item reason
  | found item endpoint nameless => found item endpoint.bare nameless

/-- An operation whose nodes are without documentation. -/
def Operation.undocumented (operation : Operation) : Operation :=
  { operation with
    node := operation.node.undocumentedOperation
    pathItem := operation.pathItem.undocumentedPathItem }

section Parameters

private theorem get?_undocumentedOperation
    {key : String} (operation : Value) (summary : key ≠ "summary")
    (parameters : key ≠ "parameters") (body : key ≠ "requestBody") :
    operation.undocumentedOperation.get? key = operation.get? key := by
  simp [Value.undocumentedOperation, Value.undescribedParameters, summary,
    parameters, body]

@[simp]
private theorem parameters_undocumentedOperation (operation : Value) :
    operation.undocumentedOperation.get? "parameters" =
      (operation.get? "parameters").map
        (Value.mapElements Value.undescribed) := by
  simp [Value.undocumentedOperation, Value.undescribedParameters]

@[simp]
private theorem parameters_undocumentedPathItem (pathItem : Value) :
    pathItem.undocumentedPathItem.get? "parameters" =
      (pathItem.get? "parameters").map
        (Value.mapElements Value.undescribed) := by
  have noMethod : isMethodKey (.text "parameters") = false := by
    decide
  have same : Value.undocumentedNode (.text "parameters") = id := by
    funext node
    rw [Value.undocumentedNode, noMethod]
    rfl
  simp [Value.undocumentedPathItem, Value.undescribedParameters, same]

@[simp]
private theorem requestBody_undocumentedOperation (operation : Value) :
    operation.undocumentedOperation.get? "requestBody" =
      (operation.get? "requestBody").map Value.undescribed := by
  simp [Value.undocumentedOperation, Value.undescribedParameters]

private theorem declaredParameters_eq_map
    {holder holder' : Value}
    (found :
      holder'.get? "parameters" =
        (holder.get? "parameters").map
          (Value.mapElements Value.undescribed)) :
    declaredParameters holder' =
      (declaredParameters holder).map Value.undescribed := by
  rw [declaredParameters, declaredParameters, found]
  cases holder.get? "parameters" with
  | none => rfl
  | some value => exact Value.elements_mapElements _ value

@[simp]
private theorem getText?_undescribed
    {key : String} (other : key ≠ "description") (node : Value) :
    node.undescribed.getText? key = node.getText? key :=
  Value.getText?_mapAt_of_ne _ node other

@[simp]
private theorem nodeLabel_undescribed (node : Value) :
    nodeLabel node.undescribed = nodeLabel node := by
  simp [nodeLabel]

@[simp]
private theorem allParameters_undocumented (pathItem operation : Value) :
    allParameters pathItem.undocumentedPathItem
        operation.undocumentedOperation =
      (allParameters pathItem operation).map Value.undescribed := by
  rw [allParameters, allParameters, List.map_append,
    declaredParameters_eq_map (parameters_undocumentedPathItem pathItem),
    declaredParameters_eq_map (parameters_undocumentedOperation operation)]

@[simp]
private theorem parameterNodes_undocumented (pathItem operation : Value) :
    parameterNodes pathItem.undocumentedPathItem
        operation.undocumentedOperation =
      (parameterNodes pathItem operation).map Value.undescribed := by
  have keyed :
      ∀ nodes : List Value,
        (nodes.map Value.undescribed).map (fun node =>
            (nodeLabel node, node)) =
          (nodes.map fun node => (nodeLabel node, node)).map
              fun entry => (entry.1, entry.2.undescribed) := by
    intro nodes
    simp [Function.comp_def]
  rw [parameterNodes_eq, parameterNodes_eq, labelledNodes, labelledNodes,
    allParameters_undocumented, keyed, Keyed.ofList_map, List.map_map,
    List.map_map]
  rfl

@[simp]
private theorem parameterOf?_undescribed (node : Value) :
    parameterOf? node.undescribed =
      (parameterOf? node).map Parameter.bare := by
  have typeText :
      Schema.parameterTypeText node.undescribed =
        Schema.parameterTypeText node :=
    Schema.parameterTypeText_mapAt _ (by decide) node
  have required :
      node.undescribed.isTrue "required" = node.isTrue "required" :=
    Value.isTrue_mapAt_of_ne _ node (by decide)
  have description : Schema.description node.undescribed = "" :=
    Schema.description_withoutText node
  simp only [parameterOf?, typeText, required, description,
    getText?_undescribed, ne_eq, String.reduceEq, not_false_eq_true]
  cases node.getText? "name" with
  | none => rfl
  | some name =>
      cases node.getText? "in" with
      | none => rfl
      | some location =>
          by_cases empty : (name.isEmpty || location.isEmpty) = true
          · simp only [empty, if_true, Option.map_none]
          · simp only [empty]
            rfl

@[simp]
private theorem bodyParameter?_undocumented (operation : Value) :
    bodyParameter? operation.undocumentedOperation =
      (bodyParameter? operation).map Parameter.bare := by
  cases found : operation.get? "requestBody" with
  | none =>
      simp [bodyParameter?, Schema.requestBody?,
        requestBody_undocumentedOperation, found]
  | some body =>
      have schema :
          Schema.bodySchema? body.undescribed = Schema.bodySchema? body :=
        Schema.bodySchema?_mapAt _ (by decide) (by decide) body
      have required :
          body.undescribed.isTrue "required" = body.isTrue "required" :=
        Value.isTrue_mapAt_of_ne _ body (by decide)
      have description : Schema.description body.undescribed = "" :=
        Schema.description_withoutText body
      rw [bodyParameter?, bodyParameter?, Schema.requestBody?,
        Schema.requestBody?, requestBody_undocumentedOperation, found,
        Option.map_some, Option.bind_some, Option.bind_some, schema, required]
      cases Schema.bodySchema? body with
      | none => rfl
      | some content =>
          simp only [Option.map_some, Option.getD_some, description]
          rfl

@[simp]
private theorem parametersOf_undocumented (pathItem operation : Value) :
    parametersOf pathItem.undocumentedPathItem
        operation.undocumentedOperation =
      (parametersOf pathItem operation).map Parameter.bare := by
  have named :
      (parameterNodes pathItem.undocumentedPathItem
          operation.undocumentedOperation).filterMap parameterOf? =
        ((parameterNodes pathItem operation).filterMap parameterOf?).map
          Parameter.bare := by
    rw [parameterNodes_undocumented, List.filterMap_map, List.map_filterMap]
    exact List.filterMap_congr fun node _ => parameterOf?_undescribed node
  have bodies :
      (fun parameter : Parameter => parameter.location == "body") ∘
          Parameter.bare =
        fun parameter => parameter.location == "body" :=
    rfl
  simp only [parametersOf, named, bodyParameter?_undocumented, List.any_map,
    bodies]
  by_cases body :
      ((parameterNodes pathItem operation).filterMap parameterOf?).any
        (·.location == "body") = true
  · rw [if_pos body, if_pos body]
  · rw [if_neg body, if_neg body, List.map_append, Option.toList_map]

@[simp]
private theorem namelessCount_undocumented (pathItem operation : Value) :
    namelessCount pathItem.undocumentedPathItem
        operation.undocumentedOperation =
      namelessCount pathItem operation := by
  rw [namelessCount, namelessCount, parameterNodes_undocumented,
    List.countP_map]
  congr 1
  funext node
  simp only [Function.comp_apply, parameterOf?_undescribed,
    Option.isNone_map]

end Parameters

private theorem Operation.outcome_undocumented (operation : Operation) :
    operation.undocumented.outcome = operation.outcome.bare := by
  have summary :
      (operation.node.undocumentedOperation.getText? "summary").getD "" =
        "" := by
    simp [Value.undocumentedOperation, Value.undescribedParameters]
  have returnType :
      Schema.returnTypeText operation.node.undocumentedOperation =
        Schema.returnTypeText operation.node := by
    rw [Schema.returnTypeText, Schema.returnTypeText,
      Schema.successResponse?, Schema.successResponse?,
      get?_undocumentedOperation _ (by decide) (by decide) (by decide)]
  simp only [Operation.outcome, Operation.undocumented, Operation.item,
    get?_undocumentedOperation operation.node
      (show "tags" ≠ "summary" by decide) (by decide) (by decide),
    get?_undocumentedOperation operation.node
      (show "operationId" ≠ "summary" by decide) (by decide) (by decide),
    summary, returnType, parametersOf_undocumented,
    namelessCount_undocumented]
  cases operation.node.get? "tags" with
  | none => rfl
  | some tags =>
      cases operation.node.get? "operationId" with
      | none => rfl
      | some identifier =>
          cases content : identifier.text? with
          | none => simp only [content]; rfl
          | some operationId =>
              by_cases empty : operationId = ""
              · simp only [content, empty]; rfl
              · simp [content, Outcome.bare, Endpoint.bare]

/-- Without documentation, a path item holds the same operations under the same
keys. -/
private theorem operationAt_undocumented
    (url : Scalar) (pathItem : Value) (key : Scalar) (node : Value) :
    operationAt url pathItem.undocumentedPathItem key
        (Value.undocumentedNode key node) =
      (operationAt url pathItem key node).map
        (Option.map Operation.undocumented) := by
  cases key with
  | text method =>
      by_cases known : httpMethods.contains (lower method) = true
      · simp only [operationAt, known, if_true, Value.undocumentedNode,
          isMethodKey]
        rfl
      · simp only [operationAt, known]
        rfl
  | bytes content => rfl
  | _ => rfl

private theorem operationAt_parameters
    (url : Scalar) (pathItem node : Value) :
    operationAt url pathItem (.text "parameters") node = .ok none := by
  have unknown : httpMethods.contains (lower "parameters") = false := by
    decide
  simp only [operationAt, unknown, Bool.false_eq_true, if_false]

private theorem pathItemKeys_undocumented (url : Scalar) (pathItem : Value) :
    (pathItem.undocumentedPathItem.entries.map fun (key, node) =>
        operationAt url pathItem.undocumentedPathItem key node) =
      (pathItem.entries.map fun (key, node) =>
        operationAt url pathItem key node).map
          (Except.map (Option.map Operation.undocumented)) := by
  have entries :
      pathItem.undocumentedPathItem.entries =
        pathItem.entries.map fun entry =>
          (entry.1,
            if entry.1 = .text "parameters" then
              (Value.undocumentedNode entry.1 entry.2).mapElements
                Value.undescribed
            else Value.undocumentedNode entry.1 entry.2) := by
    rw [Value.undocumentedPathItem, Value.undescribedParameters, Value.mapAt,
      Value.entries_mapEntries, Value.entries_mapEntries, List.map_map]
    rfl
  rw [entries, List.map_map, List.map_map]
  apply List.map_congr_left
  rintro ⟨key, node⟩ _
  simp only [Function.comp_apply]
  by_cases listed : key = .text "parameters"
  · subst listed
    rw [if_pos rfl, operationAt_parameters, operationAt_parameters]
    rfl
  · rw [if_neg listed]
    exact operationAt_undocumented url pathItem key node

@[simp]
private theorem pathKeys_undocumented (document : Value) :
    pathKeys (Specification.paths document.undocumented) =
      (pathKeys (Specification.paths document)).map
        (Except.map (Option.map Operation.undocumented)) := by
  rw [pathKeys, pathKeys, Specification.paths_undocumented, List.flatMap_map,
    List.map_flatMap]
  apply List.flatMap_congr
  rintro ⟨url, pathItem⟩ _
  exact pathItemKeys_undocumented url pathItem

@[simp]
private theorem untilFault_map
    {ε α β : Type} (f : α → β) (results : List (Except ε α)) :
    untilFault (results.map (Except.map f)) =
      ((untilFault results).1.map f, (untilFault results).2) := by
  induction results with
  | nil =>
      rfl
  | cons result rest inductionHypothesis =>
      cases result with
      | error fault => rfl
      | ok value =>
          rw [List.map_cons, Except.map, untilFault, inductionHypothesis]
          rfl

/-- Without documentation, the reading of a document ends at the same place and
finds the same operations. -/
theorem survey_undocumented (document : Value) :
    survey (Specification.paths document.undocumented) =
      { outcomes :=
          (survey (Specification.paths document)).outcomes.map Outcome.bare
        fault := (survey (Specification.paths document)).fault } := by
  have outcomes :
      ∀ keys : List (Option Operation),
        ((keys.map (Option.map Operation.undocumented)).filterMap id).map
            Operation.outcome =
          ((keys.filterMap id).map Operation.outcome).map Outcome.bare := by
    intro keys
    rw [List.filterMap_map, List.map_map, List.map_filterMap,
      List.map_filterMap]
    apply List.filterMap_congr
    rintro (_ | operation) _
    · rfl
    · exact congrArg some operation.outcome_undocumented
  rw [survey, pathKeys_undocumented, untilFault_map, survey]
  simp only [outcomes]

@[simp]
private theorem Outcome.endpoint?_bare (outcome : Outcome) :
    outcome.bare.endpoint? = outcome.endpoint?.map Endpoint.bare := by
  cases outcome <;> rfl

@[simp]
private theorem Outcome.diagnostics_bare (outcome : Outcome) :
    outcome.bare.diagnostics = outcome.diagnostics := by
  cases outcome <;> rfl

@[simp]
theorem survey_diagnostics_undocumented (document : Value) :
    (survey (Specification.paths document.undocumented)).diagnostics =
      (survey (Specification.paths document)).diagnostics := by
  rw [survey_undocumented, Survey.diagnostics, Survey.diagnostics,
    List.flatMap_map]
  simp

theorem groups_undocumented (document : Value) :
    (survey (Specification.paths document.undocumented)).groups =
      (survey (Specification.paths document)).groups.map fun group =>
        (group.1, group.2.map Endpoint.bare) := by
  rw [survey_undocumented, Survey.groups, Survey.groups, List.filterMap_map]
  simp only [Function.comp_def, Outcome.endpoint?_bare]
  rw [← List.map_filterMap, Keyed.group_map]
  rfl

end OpenApiSharp.Service
