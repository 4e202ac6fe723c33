import OpenApiSharp.Proofs.CSharp.Comment
import OpenApiSharp.Proofs.Documentation.Document
import OpenApiSharp.Proofs.Documentation.Endpoint
import OpenApiSharp.Proofs.Naming.ParameterName
import OpenApiSharp.Proofs.Service.RequestedUrl
import OpenApiSharp.Proofs.Service.Survey
import OpenApiSharp.Service.Declaration

namespace OpenApiSharp.Service.Declaration

open CSharp

def interfaceHead (service : Declaration) : List String :=
  header service.interfaceUsings service.interfacesNamespace ++
    service.summary "interface" ++
    ["public interface " ++ service.interfaceName, "\x7b"]

def classHead (service : Declaration) : List String :=
  header service.implementationUsings service.implementationsNamespace ++
    service.summary "implementation" ++
    ["public class " ++ service.className ++ " : " ++ service.interfaceName,
     "\x7b",
     indented ("private readonly " ++ service.httpClient ++ " _httpClient;"),
     "",
     indented ("public " ++ service.className ++ "(" ++ service.httpClient ++
       " httpClient)"),
     indented "\x7b",
     indented (indented "_httpClient = httpClient;"),
     indented "\x7d"]

theorem interfaceLines_eq (service : Declaration) :
    service.interfaceLines =
      service.interfaceHead ++
        separated (service.methods.map Method.interfaceLines) ++ ["\x7d"] := by
  simp only [interfaceLines, interfaceHead, List.append_assoc]

theorem implementationLines_eq (service : Declaration) :
    service.implementationLines =
      service.classHead ++
        service.methods.flatMap (fun method =>
          method.implementationLines service.httpClient) ++ ["\x7d"] := by
  simp only [implementationLines, classHead, List.append_assoc]

def interfaceArtifact (service : Declaration) : Artifact where
  path := "Services/Interfaces/" ++ service.interfaceName ++ ".cs"
  content := textOfLines service.interfaceLines
  kind := "interface"

def classArtifact (service : Declaration) : Artifact where
  path := "Services/Implementations/" ++ service.className ++ ".cs"
  content := textOfLines service.implementationLines
  kind := "implementation"

theorem interfaceArtifact_path (service : Declaration) :
    service.interfaceArtifact.path =
      "Services/Interfaces/I" ++ service.serviceName ++ "Service.cs" := by
  have front : "Services/Interfaces/I" = "Services/Interfaces/" ++ "I" := by
    decide
  have back : "Service.cs" = "Service" ++ ".cs" := by decide
  change "Services/Interfaces/" ++ ("I" ++ (_ ++ "Service")) ++ ".cs" = _
  rw [front, back]
  simp only [String.append_assoc]

theorem classArtifact_path (service : Declaration) :
    service.classArtifact.path =
      "Services/Implementations/" ++ service.serviceName ++
        "Service.cs" := by
  have back : "Service.cs" = "Service" ++ ".cs" := by decide
  change "Services/Implementations/" ++ (_ ++ "Service") ++ ".cs" = _
  rw [back]
  simp only [String.append_assoc]

/-- The files of a service: the interface, then the class. -/
theorem artifacts_eq (service : Declaration) :
    service.artifacts =
      [{ path := "Services/Interfaces/" ++ service.interfaceName ++ ".cs"
         content :=
           textOfLines (service.interfaceHead ++
             separated (service.methods.map Method.interfaceLines) ++
             ["\x7d"])
         kind := "interface" },
       { path := "Services/Implementations/" ++ service.className ++ ".cs"
         content :=
           textOfLines (service.classHead ++
             service.methods.flatMap (fun method =>
               method.implementationLines service.httpClient) ++ ["\x7d"])
         kind := "implementation" }] := by
  rw [artifacts, interfaceLines_eq, implementationLines_eq]

end OpenApiSharp.Service.Declaration

namespace OpenApiSharp.Service

open Document Naming CSharp Text

def Argument.bare (argument : Argument) : Argument :=
  { argument with description := "" }

def Method.bare (method : Method) : Method :=
  { method with
    docs := []
    arguments := method.arguments.map Argument.bare }

section Bound

@[simp]
private theorem identifiers_bare (parameters : List Parameter) :
    identifiers (parameters.map Parameter.bare) = identifiers parameters := by
  rw [identifiers, assign_map]
  rfl

def bareBound (entry : Bound) : Bound :=
  (entry.1.bare, entry.2)

@[simp]
private theorem Endpoint.bound_bare (endpoint : Endpoint) :
    endpoint.bare.bound = endpoint.bound.map bareBound := by
  rw [Endpoint.bound, Endpoint.bare]
  simp only [identifiers_bare]
  rw [List.zip_map_left]
  rfl

variable (bound : List Bound)

@[simp]
private theorem bodyOf?_bare :
    bodyOf? (bound.map bareBound) = (bodyOf? bound).map bareBound := by
  rw [bodyOf?, bodyOf?, List.find?_map]
  rfl

@[simp]
private theorem pathIdentifier?_bare :
    pathIdentifier? (bound.map bareBound) = pathIdentifier? bound := by
  funext name
  rw [pathIdentifier?, pathIdentifier?, List.filter_map, List.getLast?_map,
    Option.map_map]
  rfl

@[simp]
private theorem queryTexts_bare :
    queryTexts (bound.map bareBound) = queryTexts bound := by
  rw [queryTexts, queryTexts, List.filter_map, List.map_map]
  rfl

@[simp]
private theorem urlExpression_bare (url : String) :
    urlExpression url (bound.map bareBound) = urlExpression url bound := by
  have texts :
      UrlPart.text (bound.map bareBound) = UrlPart.text bound := by
    funext part
    cases part with
    | character c => rfl
    | placeholder name =>
        rw [UrlPart.text, UrlPart.text, pathIdentifier?_bare]
  have interpolated :
      UrlPart.isInterpolated (bound.map bareBound) =
        UrlPart.isInterpolated bound := by
    funext part
    cases part with
    | character c => rfl
    | placeholder name =>
        simp [UrlPart.isInterpolated]
  rw [urlExpression, urlExpression, texts, interpolated, queryTexts_bare]

end Bound

section Methods

variable (endpoint : Endpoint)

@[simp]
private theorem clientCall?_bare (url : String) :
    clientCall? endpoint.bare url = clientCall? endpoint url := by
  rw [clientCall?, clientCall?, endpoint.bound_bare, bodyOf?_bare]
  cases bodyOf? endpoint.bound <;> rfl

@[simp]
private theorem Endpoint.arguments_bare :
    endpoint.bare.arguments = endpoint.arguments.map Argument.bare := by
  have empty : xmlText (singleLine "") = "" := by
    decide
  rw [Endpoint.arguments, Endpoint.arguments, endpoint.bound_bare,
    List.map_map, List.map_map]
  apply List.map_congr_left
  rintro ⟨parameter, identifier⟩ _
  simp only [Function.comp_apply, bareBound, Parameter.bare, empty]
  rfl

@[simp]
private theorem methodComment_bare (arguments : List Argument) :
    methodComment ""
        ((arguments.map Argument.bare).map fun argument =>
          (argument.name, argument.description)) = [] := by
  have blank : summaryBlock "" = [] := rfl
  rw [methodComment, blank, List.map_map, List.filter_map, List.map_map,
    List.nil_append, List.map_eq_nil_iff, List.filter_eq_nil_iff]
  intro argument _
  change ¬ (!"".isEmpty) = true
  decide

@[simp]
private theorem Endpoint.method_bare (owner : String) (used : List String) :
    endpoint.bare.method owner used =
      (endpoint.method owner used).map Method.bare := by
  have url : endpoint.bare.urlText = endpoint.urlText := rfl
  rw [Endpoint.method, Endpoint.method, url]
  cases endpoint.urlText with
  | error fault => rfl
  | ok address =>
      have docs :
          methodComment endpoint.bare.summary
              ((endpoint.arguments.map Argument.bare).map fun argument =>
                (argument.name, argument.description)) = [] :=
        methodComment_bare endpoint.arguments
      simp only [Bind.bind, Except.bind, docs, clientCall?_bare,
        endpoint.arguments_bare, endpoint.bound_bare, urlExpression_bare]
      rfl

end Methods

/-- The results of endpoints without documentation are the results themselves,
without comments. -/
@[simp]
theorem methodResults_bare
    (owner : String) (used : List String) (endpoints : List Endpoint) :
    methodResults owner used (endpoints.map Endpoint.bare) =
      (methodResults owner used endpoints).map fun entry =>
        (entry.1.bare, entry.2.map Method.bare) := by
  induction endpoints generalizing used with
  | nil =>
      rfl
  | cons endpoint rest inductionHypothesis =>
      rw [List.map_cons, methodResults, methodResults, endpoint.method_bare]
      cases endpoint.method owner used with
      | error fault =>
          simp only [Except.map, List.map_cons, inductionHypothesis]
      | ok method =>
          simp only [Except.map, List.map_cons, inductionHypothesis]
          rfl

section Results

variable (results : List (Endpoint × Except UrlFault Method))

@[simp]
theorem builtMethods_bare :
    builtMethods (results.map fun entry =>
        (entry.1.bare, entry.2.map Method.bare)) =
      (builtMethods results).map Method.bare := by
  rw [builtMethods, builtMethods, List.filterMap_map, List.map_filterMap]
  apply List.filterMap_congr
  rintro ⟨endpoint, result⟩ _
  cases result <;> rfl

@[simp]
theorem resultDiagnostics_bare (tag : String) :
    resultDiagnostics tag (results.map fun entry =>
        (entry.1.bare, entry.2.map Method.bare)) =
      resultDiagnostics tag results := by
  rw [resultDiagnostics, resultDiagnostics, List.flatMap_map]
  apply List.flatMap_congr
  rintro ⟨endpoint, result⟩ _
  cases result <;> rfl

end Results

private theorem unbroken_of_mem_identifiers
    {parameters : List Parameter} {identifier : String}
    (member : identifier ∈ identifiers parameters) :
    Unbroken identifier.toList := by
  obtain ⟨parameter, _, used, rfl⟩ := exists_choice_of_mem_assign member
  exact unbroken_choice parameter.name used

private theorem unbroken_of_mem_arguments
    {endpoint : Endpoint} {argument : Argument}
    (member : argument ∈ endpoint.arguments) :
    Unbroken argument.name.toList ∧ Unbroken argument.description.toList := by
  obtain ⟨⟨parameter, identifier⟩, bound, rfl⟩ := List.mem_map.1 member
  exact
    ⟨unbroken_of_mem_identifiers (List.of_mem_zip bound).2,
      unbroken_xmlText (unbroken_singleLine parameter.description)⟩

def Method.Documented (method : Method) : Prop :=
  ∀ line ∈ method.docs, CommentLine line

theorem Endpoint.documented
    {endpoint : Endpoint} {owner : String} {used : List String}
    {method : Method} (built : endpoint.method owner used = .ok method) :
    method.Documented := by
  obtain ⟨url, _, rfl⟩ := Endpoint.method_eq_ok_iff.1 built
  intro line written
  refine commentLine_of_mem_methodComment ?_ written
  intro parameter listed
  obtain ⟨argument, member, rfl⟩ := List.mem_map.1 listed
  exact unbroken_of_mem_arguments member

theorem documented_of_mem_builtMethods
    {owner : String} {used : List String} {endpoints : List Endpoint}
    {method : Method}
    (member : method ∈ builtMethods (methodResults owner used endpoints)) :
    method.Documented := by
  obtain ⟨endpoint, _, inUse, built⟩ :=
    exists_endpoint_of_mem_builtMethods member
  exact Endpoint.documented built

section Code

@[simp]
private theorem Method.signature_bare (method : Method) :
    method.bare.signature = method.signature := by
  have parameters : method.bare.parameterList = method.parameterList := by
    rw [Method.parameterList, Method.parameterList, Method.bare, List.map_map]
    rfl
  rw [Method.signature, Method.signature, parameters]
  rfl

variable {method : Method} (documented : method.Documented)

include documented

private theorem Method.codeLines_interfaceLines :
    codeLines method.bare.interfaceLines =
      codeLines method.interfaceLines := by
  rw [Method.interfaceLines, Method.interfaceLines, method.signature_bare,
    codeLines_append_of_comments (CommentLine.map_indented documented)]
  rfl

private theorem Method.codeLines_implementationLines (httpClient : String) :
    codeLines (method.bare.implementationLines httpClient) =
      codeLines (method.implementationLines httpClient) := by
  have docs : codeLines (method.docs.map indented) = [] :=
    codeLines_eq_nil (CommentLine.map_indented documented)
  have statements :
      method.bare.statements httpClient = method.statements httpClient :=
    rfl
  rw [Method.implementationLines, Method.implementationLines,
    method.signature_bare, statements]
  simp only [codeLines_append, codeLines_cons_empty, docs]
  rfl

end Code

def Declaration.bare (service : Declaration) : Declaration :=
  { service with methods := service.methods.map Method.bare }

section Files

variable {service : Declaration}
  (documented : ∀ method ∈ service.methods, method.Documented)

include documented

private theorem Declaration.codeLines_interfaceLines :
    codeLines service.bare.interfaceLines =
      codeLines service.interfaceLines := by
  have head : service.bare.interfaceHead = service.interfaceHead := rfl
  have methods :
      (service.bare.methods.map Method.interfaceLines).map codeLines =
        (service.methods.map Method.interfaceLines).map codeLines := by
    rw [Declaration.bare, List.map_map, List.map_map, List.map_map]
    apply List.map_congr_left
    intro method member
    simp only [Function.comp_apply]
    exact Method.codeLines_interfaceLines (documented method member)
  simp [interfaceLines_eq, head, methods]

private theorem Declaration.codeLines_implementationLines :
    codeLines service.bare.implementationLines =
      codeLines service.implementationLines := by
  have head : service.bare.classHead = service.classHead := rfl
  have methods :
      codeLines (service.bare.methods.flatMap fun method =>
          method.implementationLines service.bare.httpClient) =
        codeLines (service.methods.flatMap fun method =>
          method.implementationLines service.httpClient) := by
    rw [codeLines, codeLines, List.filter_flatMap, List.filter_flatMap,
      Declaration.bare, List.flatMap_map]
    apply List.flatMap_congr
    intro method member
    exact Method.codeLines_implementationLines (documented method member) _
  simp [implementationLines_eq, head, methods]

/-- The files of a service have the same code without comments. -/
theorem Declaration.code_artifacts :
    service.bare.artifacts.map Artifact.code =
      service.artifacts.map Artifact.code := by
  have interface :
      codeText (textOfLines service.bare.interfaceLines) =
        codeText (textOfLines service.interfaceLines) := by
    rw [codeText_textOfLines service.bare.interfaceLines,
      Declaration.codeLines_interfaceLines documented,
      ← codeText_textOfLines]
  have implementation :
      codeText (textOfLines service.bare.implementationLines) =
        codeText (textOfLines service.implementationLines) := by
    rw [codeText_textOfLines service.bare.implementationLines,
      Declaration.codeLines_implementationLines documented,
      ← codeText_textOfLines]
  simp only [Declaration.artifacts, List.map_cons, List.map_nil,
    Artifact.code, interface, implementation]
  rfl

end Files

def Parameter.isDescribed (parameter : Parameter) : Bool :=
  !allBlank parameter.description

/-- A comment that documents an endpoint. -/
structure Documents (docs : List String) (endpoint : Endpoint) : Prop where
  slashes : ∀ line ∈ docs, beginsWith "///" line = true
  unbroken : ∀ line ∈ docs, Unbroken line.toList
  summary :
    docs = summaryBlock endpoint.summary ++ docs.filter isParameterLine
  /-- There is one line for each parameter with a description. -/
  parameters :
    List.Forall₂
      (fun parameter line => ∃ identifier,
        (parameter, identifier) ∈ endpoint.bound ∧
          line =
            parameterLine identifier
              (xmlText (singleLine parameter.description)))
      (endpoint.parameters.filter Parameter.isDescribed)
      (docs.filter isParameterLine)

/-- The comment of the method for an endpoint. -/
def Endpoint.comment (endpoint : Endpoint) : List String :=
  methodComment endpoint.summary
    (endpoint.arguments.map fun argument =>
      (argument.name, argument.description))

section Comment

variable (endpoint : Endpoint)

/-- An argument has a description to be written if its parameter has one. -/
private theorem Endpoint.filter_comment :
    endpoint.comment.filter isParameterLine =
      (endpoint.bound.filter fun entry => entry.1.isDescribed).map
        fun entry =>
          parameterLine entry.2 (xmlText (singleLine entry.1.description)) := by
  have described (entry : Bound) :
      (!(xmlText (singleLine entry.1.description)).isEmpty) =
        entry.1.isDescribed := by
    rw [Parameter.isDescribed, Bool.not_inj_iff, Bool.eq_iff_iff,
      String.isEmpty_iff, xmlText_eq_empty_iff, singleLine_eq_empty_iff]
  rw [comment, filter_methodComment, arguments, List.map_map, List.filter_map,
    List.map_map]
  simp only [Function.comp_def, described]

private theorem Endpoint.filter_parameters :
    endpoint.parameters.filter Parameter.isDescribed =
      (endpoint.bound.filter fun entry => entry.1.isDescribed).map
        Prod.fst := by
  rw [← endpoint.map_fst_bound, List.filter_map]
  rfl

private theorem Endpoint.documents_comment :
    Documents endpoint.comment endpoint where
  slashes := fun _ => beginsWith_of_mem_methodComment
  unbroken := by
    intro line member
    refine (commentLine_of_mem_methodComment ?_ member).1
    intro parameter listed
    obtain ⟨argument, present, rfl⟩ := List.mem_map.1 listed
    exact unbroken_of_mem_arguments present
  summary := methodComment_eq _ _
  parameters := by
    rw [endpoint.filter_comment, endpoint.filter_parameters,
      List.forall₂_map_left_iff, List.forall₂_map_right_iff, List.forall₂_same]
    intro entry member
    exact ⟨entry.2, (List.mem_filter.1 member).1, rfl⟩

end Comment

/-- Every text is held by its summary comment, and an endpoint with a URL has a
method whose comment documents it. -/
theorem comments_hold_texts
    (description : String) {endpoint : Endpoint} {url : String}
    (address : endpoint.url = .text url) (owner : String)
    (used : List String) :
    HoldsText (summaryBlock description) description ∧
      ∃ method, endpoint.method owner used = .ok method ∧
        Documents method.docs endpoint :=
  ⟨summaryBlock_holdsText description, endpoint.methodAt owner used url,
    Endpoint.method_eq_ok_iff.2 ⟨url, address, rfl⟩,
    endpoint.documents_comment⟩

/-- An endpoint one of whose parameters has a description with breaks and angle
brackets, and another a blank one. -/
def findOrder : Endpoint where
  url := .text "/orders/{id}"
  httpMethod := "GET"
  operationId := "findOrder"
  summary := "Find <one>\r\n\u2028& only one "
  parameters :=
    [{ name := "class", location := "query", typeText := "string"
       description := " \n" },
     { name := "id", location := "path", typeText := "int"
       description := "Order id.\n  Must be <positive>.\n" }]
  returnType := "Order"
  tag := "Orders"

theorem findOrder_comments_hold_texts :
    findOrder.url = .text "/orders/{id}" ∧
      HoldsText (summaryBlock "a\x0b\x0b&lt;") "a\x0b\x0b&lt;" ∧
      ∃ method, findOrder.method "OrdersService" [] = .ok method ∧
        Documents method.docs findOrder :=
  ⟨rfl, comments_hold_texts _ rfl "OrdersService" []⟩

end OpenApiSharp.Service
