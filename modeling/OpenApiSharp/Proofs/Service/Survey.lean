import Mathlib.Data.List.Forall2
import OpenApiSharp.Service.Method
import OpenApiSharp.Service.Operation

namespace OpenApiSharp.Service

open Document Text Naming CSharp

section UntilFault

variable {ε α : Type}

theorem untilFault_snd_eq_none_iff (results : List (Except ε α)) :
    (untilFault results).2 = none ↔
      ∀ fault, Except.error fault ∉ results := by
  induction results with
  | nil =>
      simp [untilFault]
  | cons result rest inductionHypothesis =>
      cases result with
      | error fault =>
          simp only [untilFault, reduceCtorEq, false_iff]
          exact fun faultless => faultless fault List.mem_cons_self
      | ok value => simpa [untilFault] using inductionHypothesis

private theorem untilFault_fst_of_forall_ok
    {results : List (Except ε α)}
    (faultless : ∀ fault, Except.error fault ∉ results) :
    (untilFault results).1 = results.filterMap Except.toOption := by
  induction results with
  | nil =>
      rfl
  | cons result rest inductionHypothesis =>
      cases result with
      | error fault =>
          exact absurd List.mem_cons_self (faultless fault)
      | ok value =>
          have restFaultless : ∀ fault, Except.error fault ∉ rest :=
            fun fault member =>
              faultless fault (List.mem_cons_of_mem _ member)
          simp [untilFault, Except.toOption,
            inductionHypothesis restFaultless]

end UntilFault

/-- Whether a key can be compared with the names of methods: texts and bytes
have a lower-case form, all other keys have none. -/
def isSpelled : Scalar → Bool
  | .text _ => true
  | .bytes _ => true
  | _ => false

theorem operationAt_eq_error_iff
    (url : Scalar) (pathItem : Value) (key : Scalar) (node : Value) :
    (∃ fault, operationAt url pathItem key node = .error fault) ↔
      isSpelled key = false := by
  cases key <;> simp [operationAt, isSpelled]

/-- Some path item that is a mapping has a key without a spelling. -/
def HasUnspelledKey (paths : Value) : Prop :=
  ∃ url pathItem, (url, pathItem) ∈ paths.entries ∧
    ∃ key node, (key, node) ∈ pathItem.entries ∧ isSpelled key = false

theorem exists_error_mem_pathKeys_iff (paths : Value) :
    (∃ fault, Except.error fault ∈ pathKeys paths) ↔
      HasUnspelledKey paths := by
  constructor
  · rintro ⟨fault, member⟩
    simp only [pathKeys, List.mem_flatMap, List.mem_map] at member
    obtain ⟨⟨url, pathItem⟩, entry, ⟨key, node⟩, field, failed⟩ := member
    exact ⟨url, pathItem, entry, key, node, field,
      (operationAt_eq_error_iff url pathItem key node).1 ⟨fault, failed⟩⟩
  · rintro ⟨url, pathItem, entry, key, node, field, unspelled⟩
    obtain ⟨fault, failed⟩ :=
      (operationAt_eq_error_iff url pathItem key node).2 unspelled
    refine ⟨fault, ?_⟩
    simp only [pathKeys, List.mem_flatMap, List.mem_map]
    exact ⟨(url, pathItem), entry, (key, node), field, failed⟩

/-- A survey is complete exactly when every key of a path item has a
spelling. -/
theorem survey_fault_eq_none_iff (paths : Value) :
    (survey paths).fault = none ↔ ¬ HasUnspelledKey paths := by
  rw [← exists_error_mem_pathKeys_iff, not_exists]
  exact untilFault_snd_eq_none_iff (pathKeys paths)

/-- The operation under a key that is the name of a method in any case. -/
def operation? (url : Scalar) (pathItem : Value) (key : Scalar) (node : Value) :
    Option Operation :=
  match key with
  | .text method =>
      if lower method ∈ httpMethods then some { url, method, node, pathItem }
      else none
  | _ => none

/-- The operations of the paths of a document, in document order. -/
def operations (paths : Value) : List Operation :=
  paths.entries.flatMap fun (url, pathItem) =>
    pathItem.entries.filterMap fun (key, node) =>
      operation? url pathItem key node

theorem mem_operations_iff
    {paths : Value} {operation : Operation} :
    operation ∈ operations paths ↔
      (operation.url, operation.pathItem) ∈ paths.entries ∧
        (.text operation.method, operation.node) ∈
            operation.pathItem.entries ∧
          lower operation.method ∈ httpMethods := by
  constructor
  · intro member
    obtain ⟨⟨url, pathItem⟩, entry, field⟩ := List.mem_flatMap.1 member
    obtain ⟨⟨key, node⟩, keyMember, found⟩ := List.mem_filterMap.1 field
    cases key with
    | text method =>
        by_cases known : lower method ∈ httpMethods
        · simp only [operation?, known, if_true, Option.some.injEq] at found
          subst found
          exact ⟨entry, keyMember, known⟩
        · simp [operation?, known] at found
    | _ => cases found
  · rintro ⟨entry, keyMember, known⟩
    refine List.mem_flatMap.2 ⟨_, entry, List.mem_filterMap.2 ⟨_, keyMember, ?_⟩⟩
    simp only [operation?, known, if_true]

theorem url_mem_of_mem_operations
    {paths : Value} {operation : Operation}
    (member : operation ∈ operations paths) :
    ∃ pathItem, (operation.url, pathItem) ∈ paths.entries :=
  ⟨operation.pathItem, (mem_operations_iff.1 member).1⟩

private theorem operationAt_toOption
    (url : Scalar) (pathItem : Value) (key : Scalar) (node : Value) :
    (operationAt url pathItem key node).toOption.bind id =
      operation? url pathItem key node := by
  cases key with
  | text method =>
      by_cases known : lower method ∈ httpMethods <;>
        simp [operationAt, operation?, Except.toOption, known]
  | _ => rfl

/-- A complete survey reads every operation of the document once, in document
order. -/
theorem survey_outcomes_of_fault_eq_none
    {paths : Value} (complete : (survey paths).fault = none) :
    (survey paths).outcomes =
      (operations paths).map Operation.outcome := by
  have faultless : ∀ fault, Except.error fault ∉ pathKeys paths :=
    (untilFault_snd_eq_none_iff (pathKeys paths)).1 complete
  change ((untilFault (pathKeys paths)).1.filterMap id).map _ = _
  rw [untilFault_fst_of_forall_ok faultless, List.filterMap_filterMap,
    pathKeys, operations, List.filterMap_flatMap]
  simp only [List.filterMap_map, Function.comp_def, operationAt_toOption]

/-- The error that reports an endpoint without a method. -/
def failureOf (tag : String) (endpoint : Endpoint) (fault : UrlFault) :
    Diagnostic where
  level := .error
  item := tag ++ ": " ++ endpoint.httpMethod ++ " " ++ endpoint.url.label
  message :=
    "method generation failed for " ++ endpoint.operationId ++ ": " ++
      fault.message

/-- The method of an endpoint whose URL is a certain text. -/
def Endpoint.methodAt
    (endpoint : Endpoint) (owner : String) (used : List String)
    (url : String) : Method where
  baseName :=
    memberIdentifier (cleanOperationId endpoint.operationId) owner used
  httpMethod := endpoint.httpMethod
  urlLiteral := literal url
  docs :=
    methodComment endpoint.summary
      (endpoint.arguments.map fun argument =>
        (argument.name, argument.description))
  arguments := endpoint.arguments
  returnType := endpoint.returnType
  clientCall := clientCall? endpoint (urlExpression url endpoint.bound)

/-- An endpoint has a method exactly if its URL is a text. -/
theorem Endpoint.method_eq_ok_iff
    {endpoint : Endpoint} {owner : String} {used : List String}
    {method : Method} :
    endpoint.method owner used = .ok method ↔
      ∃ url, endpoint.url = .text url ∧
        method = endpoint.methodAt owner used url := by
  cases address : endpoint.url with
  | text url =>
      have built :
          endpoint.method owner used =
            .ok (endpoint.methodAt owner used url) := by
        simp only [Endpoint.method, Endpoint.urlText, address]
        rfl
      rw [built, Except.ok.injEq]
      constructor
      · rintro rfl
        exact ⟨url, rfl, rfl⟩
      · rintro ⟨other, same, rfl⟩
        rw [Scalar.text.inj same]
  | _ =>
      simp only [Endpoint.method, Endpoint.urlText, address]
      constructor
      · intro built
        cases built
      · rintro ⟨url, text, _⟩
        cases text

/-- A method of an endpoint keeps its HTTP method, its return type and its
URL, which is a text. -/
structure Method.Serves (method : Method) (endpoint : Endpoint) : Prop where
  httpMethod : method.httpMethod = endpoint.httpMethod
  returnType : method.returnType = endpoint.returnType
  url : ∃ url, endpoint.url = .text url ∧ method.urlLiteral = literal url

theorem Endpoint.method_serves
    {endpoint : Endpoint} {owner : String} {used : List String}
    {method : Method} (built : endpoint.method owner used = .ok method) :
    method.Serves endpoint := by
  obtain ⟨url, address, rfl⟩ := Endpoint.method_eq_ok_iff.1 built
  exact ⟨rfl, rfl, url, address, rfl⟩

theorem Endpoint.method_fault
    {endpoint : Endpoint} {owner : String} {used : List String}
    {fault : UrlFault} (failed : endpoint.method owner used = .error fault) :
    fault.url = endpoint.url ∧ ∀ url, endpoint.url ≠ .text url := by
  cases address : endpoint.url with
  | text url =>
      simp only [Endpoint.method, Endpoint.urlText, address] at failed
      cases failed
  | _ =>
      simp only [Endpoint.method, Endpoint.urlText, address] at failed
      cases failed
      exact ⟨rfl, fun url same => Scalar.noConfusion same⟩

/-- How an endpoint relates to its result: a method that serves it, or a fault
because its URL is no text. -/
inductive EndpointResult (endpoint : Endpoint) : Except UrlFault Method → Prop
  | built {method : Method} (serves : method.Serves endpoint) :
      EndpointResult endpoint (.ok method)
  | failed {fault : UrlFault} (same : fault.url = endpoint.url)
      (noText : ∀ url, endpoint.url ≠ .text url) :
      EndpointResult endpoint (.error fault)

private theorem Endpoint.method_result
    (endpoint : Endpoint) (owner : String) (used : List String) :
    EndpointResult endpoint (endpoint.method owner used) := by
  cases result : endpoint.method owner used with
  | ok method =>
      exact .built (Endpoint.method_serves result)
  | error fault =>
      have cause := Endpoint.method_fault result
      exact .failed cause.1 cause.2

/-- Each endpoint has one result of its own, in its place. -/
theorem methodResults_forall₂
    (owner : String) (used : List String) (endpoints : List Endpoint) :
    List.Forall₂
      (fun endpoint entry =>
        entry.1 = endpoint ∧ EndpointResult endpoint entry.2)
      endpoints (methodResults owner used endpoints) := by
  induction endpoints generalizing used with
  | nil =>
      exact List.Forall₂.nil
  | cons endpoint rest inductionHypothesis =>
      have head := endpoint.method_result owner used
      cases result : endpoint.method owner used with
      | ok method =>
          rw [result] at head
          simp only [methodResults, result]
          exact .cons ⟨rfl, head⟩ (inductionHypothesis _)
      | error fault =>
          rw [result] at head
          simp only [methodResults, result]
          exact .cons ⟨rfl, head⟩ (inductionHypothesis _)

/-- Every method of a service was built for one of its endpoints. -/
theorem exists_endpoint_of_mem_builtMethods
    {owner : String} {used : List String} {endpoints : List Endpoint}
    {method : Method}
    (member : method ∈ builtMethods (methodResults owner used endpoints)) :
    ∃ endpoint ∈ endpoints, ∃ inUse,
      endpoint.method owner inUse = .ok method := by
  induction endpoints generalizing used with
  | nil =>
      cases member
  | cons endpoint rest inductionHypothesis =>
      have later
          {inUse : List String}
          (behind : method ∈ builtMethods (methodResults owner inUse rest)) :
          ∃ other ∈ endpoint :: rest, ∃ inUse,
            other.method owner inUse = .ok method := by
        obtain ⟨other, present, built⟩ := inductionHypothesis behind
        exact ⟨other, List.mem_cons_of_mem _ present, built⟩
      rw [methodResults] at member
      cases result : endpoint.method owner used with
      | error fault =>
          rw [result] at member
          exact later member
      | ok first =>
          rw [result] at member
          rcases List.mem_cons.1 member with equal | behind
          · refine ⟨endpoint, List.mem_cons_self, used, ?_⟩
            rw [equal, result]
          · exact later behind

/-- Whether a parameter has no name or no location. -/
def isNameless (node : Value) : Bool :=
  ((node.getText? "name").getD "").isEmpty ||
    ((node.getText? "in").getD "").isEmpty

/-- The warnings on an operation: one if it is skipped, else one for each of its
parameters without a name or a location. -/
def Operation.warnings (operation : Operation) : List Diagnostic :=
  if !operation.node.has "tags" || !operation.node.has "operationId" then
    [⟨.warning, operation.item, "missing 'tags' or 'operationId'"⟩]
  else if ((operation.node.getText? "operationId").getD "").isEmpty then
    [⟨.warning, operation.item, "empty 'operationId'"⟩]
  else
    ((parameterNodes operation.pathItem operation.node).filter
      isNameless).map fun _ =>
        ⟨.warning, operation.item, "parameter without 'name' or 'in' ignored"⟩

theorem Operation.level_of_mem_warnings
    {operation : Operation} {diagnostic : Diagnostic}
    (member : diagnostic ∈ operation.warnings) :
    diagnostic.level = .warning := by
  rw [warnings] at member
  split at member
  · rw [List.mem_singleton.1 member]
  · split at member
    · rw [List.mem_singleton.1 member]
    · obtain ⟨_, _, rfl⟩ := List.mem_map.1 member
      rfl

@[simp]
theorem parameterOf?_isNone (node : Value) :
    (parameterOf? node).isNone = isNameless node := by
  cases name : node.getText? "name" with
  | none =>
      simp [parameterOf?, isNameless, name]
  | some named =>
      cases location : node.getText? "in" with
      | none =>
          simp [parameterOf?, isNameless, name, location]
      | some located =>
          by_cases empty : (named.isEmpty || located.isEmpty) = true
          · simp [parameterOf?, isNameless, name, location, empty]
          · simp [parameterOf?, isNameless, name, location, empty]

private theorem namelessWarnings_namelessCount
    (item : String) (pathItem operation : Value) :
    namelessWarnings item (namelessCount pathItem operation) =
      ((parameterNodes pathItem operation).filter isNameless).map fun _ =>
        ⟨.warning, item, "parameter without 'name' or 'in' ignored"⟩ := by
  have counted :
      namelessCount pathItem operation =
        ((parameterNodes pathItem operation).filter isNameless).length := by
    simp [namelessCount, List.countP_eq_length_filter]
  rw [namelessWarnings, counted, List.map_const']

@[simp]
theorem Operation.outcome_diagnostics (operation : Operation) :
    operation.outcome.diagnostics = operation.warnings := by
  cases tags : operation.node.get? "tags" with
  | none =>
      simp [outcome, warnings, tags, Value.has, Outcome.diagnostics,
        Skip.message]
  | some declared =>
      cases identifier : operation.node.get? "operationId" with
      | none =>
          simp [outcome, warnings, tags, identifier, Value.has,
            Outcome.diagnostics, Skip.message]
      | some value =>
          cases content : value.text? with
          | none =>
              simp [outcome, warnings, tags, identifier, content, Value.has,
                Value.getText?, Outcome.diagnostics, Skip.message]
          | some operationId =>
              by_cases empty : operationId = ""
              · simp [outcome, warnings, tags, identifier, content, empty,
                  Value.has, Value.getText?, Outcome.diagnostics,
                  Skip.message]
              · simp [outcome, warnings, tags, identifier, content, empty,
                  Value.has, Value.getText?, Outcome.diagnostics,
                  namelessWarnings_namelessCount]

/-- The HTTP methods that the client of the services can call. -/
def clientMethods : List String :=
  ["GET", "POST", "PUT", "DELETE"]

@[simp]
theorem clientCall?_isNone (endpoint : Endpoint) (url : String) :
    (clientCall? endpoint url).isNone =
      !clientMethods.contains endpoint.httpMethod := by
  simp only [clientCall?]
  split
  · next get => simp [clientMethods, get]
  · next post => simp [clientMethods, post]
  · next put => simp [clientMethods, put]
  · next delete => simp [clientMethods, delete]
  · next get post put delete =>
      simpa [clientMethods] using ⟨get, post, put, delete⟩

/-- The warnings on the methods of a service: one for each endpoint whose HTTP
method the client cannot call. -/
def methodWarnings (tag : String) (endpoints : List Endpoint) :
    List Diagnostic :=
  (endpoints.filter fun endpoint =>
    !clientMethods.contains endpoint.httpMethod).map fun endpoint =>
      { level := .warning
        item := tag ++ ": " ++ endpoint.httpMethod ++ " " ++ endpoint.url.label
        message :=
          "HTTP method " ++ endpoint.httpMethod ++
            " has no client call; method throws" }

theorem level_of_mem_methodWarnings
    {tag : String} {endpoints : List Endpoint} {diagnostic : Diagnostic}
    (member : diagnostic ∈ methodWarnings tag endpoints) :
    diagnostic.level = .warning := by
  obtain ⟨_, _, rfl⟩ := List.mem_map.1 member
  rfl

private theorem Endpoint.method_isOk
    {endpoint : Endpoint} {url : String} (text : endpoint.url = .text url)
    (owner : String) (used : List String) :
    ∃ method, endpoint.method owner used = .ok method ∧
      method.clientCall.isNone =
        !clientMethods.contains endpoint.httpMethod := by
  simp only [Endpoint.method, Endpoint.urlText, text]
  exact ⟨_, rfl, clientCall?_isNone endpoint _⟩

theorem methodResults_cons_of_ok
    {endpoint : Endpoint} {owner : String} {used : List String}
    {method : Method} (built : endpoint.method owner used = .ok method)
    (rest : List Endpoint) :
    methodResults owner used (endpoint :: rest) =
      (endpoint, .ok method) ::
        methodResults owner (method.baseName :: used) rest := by
  rw [methodResults, built]

@[simp]
theorem resultDiagnostics_cons
    (tag : String) (endpoint : Endpoint) (result : Except UrlFault Method)
    (rest : List (Endpoint × Except UrlFault Method)) :
    resultDiagnostics tag ((endpoint, result) :: rest) =
      methodDiagnostics tag endpoint result ++ resultDiagnostics tag rest :=
  rfl

/-- Where every URL is a text, no endpoint fails. -/
theorem resultDiagnostics_methodResults
    (tag owner : String) (used : List String) {endpoints : List Endpoint}
    (texts : ∀ endpoint ∈ endpoints, ∃ url, endpoint.url = .text url) :
    resultDiagnostics tag (methodResults owner used endpoints) =
      methodWarnings tag endpoints := by
  induction endpoints generalizing used with
  | nil =>
      rfl
  | cons endpoint rest inductionHypothesis =>
      obtain ⟨url, text⟩ := texts endpoint List.mem_cons_self
      obtain ⟨method, built, calls⟩ :=
        Endpoint.method_isOk text owner used
      have restTexts :
          ∀ later ∈ rest, ∃ url, later.url = .text url :=
        fun later member => texts later (List.mem_cons_of_mem _ member)
      rw [methodResults_cons_of_ok built, resultDiagnostics_cons,
        inductionHypothesis _ restTexts, methodWarnings, methodWarnings,
        methodDiagnostics]
      by_cases known : clientMethods.contains endpoint.httpMethod = true
      · rw [List.filter_cons_of_neg (by rw [known]; decide)]
        simp only [calls, known, Bool.not_true, Bool.false_eq_true, if_false,
          List.nil_append]
      · rw [Bool.not_eq_true] at known
        rw [List.filter_cons_of_pos (by rw [known]; decide)]
        simp only [calls, known, Bool.not_false, if_true, List.map_cons,
          List.singleton_append]

end OpenApiSharp.Service
