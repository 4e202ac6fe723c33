import OpenApiSharp.Proofs.Documentation.Service
import OpenApiSharp.Proofs.Naming.Fresh
import OpenApiSharp.Proofs.Service.Survey

namespace OpenApiSharp.Service

open CSharp Naming Text

/-- The warning on a method for which the client has no call. -/
def throwingOf (tag : String) (endpoint : Endpoint) : Diagnostic where
  level := .warning
  item := tag ++ ": " ++ endpoint.httpMethod ++ " " ++ endpoint.url.label
  message :=
    "HTTP method " ++ endpoint.httpMethod ++
      " has no client call; method throws"

/-- What an endpoint contributes to a service in which some base names are
taken: an error if its method cannot be built, else the method, with a warning
if it makes no call. -/
inductive Endpoint.Contributes
    (endpoint : Endpoint) (tag owner : String) (taken : List String) :
    Option Method → List Diagnostic → Prop
  | failed {fault : UrlFault}
      (raised : endpoint.method owner taken = .error fault) :
      Contributes endpoint tag owner taken none [failureOf tag endpoint fault]
  | calling {method : Method}
      (built : endpoint.method owner taken = .ok method)
      (calls : method.clientCall ≠ none) :
      Contributes endpoint tag owner taken (some method) []
  | throwing {method : Method}
      (built : endpoint.method owner taken = .ok method)
      (noCall : method.clientCall = none) :
      Contributes endpoint tag owner taken (some method)
        [throwingOf tag endpoint]

/-- What a list of endpoints contributes, one share for each.  The base name of
a method is taken for the endpoints behind it. -/
inductive Contributions (tag owner : String) :
    List String → List Endpoint → List (Option Method × List Diagnostic) → Prop
  | nil {taken : List String} : Contributions tag owner taken [] []
  | cons {taken : List String} {endpoint : Endpoint} {rest : List Endpoint}
      {share : Option Method × List Diagnostic}
      {shares : List (Option Method × List Diagnostic)}
      (head : endpoint.Contributes tag owner taken share.1 share.2)
      (tail :
        Contributions tag owner
          ((share.1.map Method.baseName).toList ++ taken) rest shares) :
      Contributions tag owner taken (endpoint :: rest) (share :: shares)

/-- The share of an endpoint in the methods and the remarks of a service. -/
def resultShare (tag : String) (entry : Endpoint × Except UrlFault Method) :
    Option Method × List Diagnostic :=
  (entry.2.toOption, methodDiagnostics tag entry.1 entry.2)

private theorem Endpoint.contributes_method
    (endpoint : Endpoint) (tag owner : String) (taken : List String) :
    endpoint.Contributes tag owner taken
      (endpoint.method owner taken).toOption
      (methodDiagnostics tag endpoint (endpoint.method owner taken)) := by
  cases result : endpoint.method owner taken with
  | error fault =>
      exact .failed result
  | ok method =>
      cases call : method.clientCall with
      | none =>
          simp only [methodDiagnostics, call, Option.isNone_none, if_true]
          exact .throwing result call
      | some expression =>
          simp only [methodDiagnostics, call, Option.isNone_some,
            Bool.false_eq_true, if_false]
          exact .calling result (by rw [call]; exact Option.some_ne_none _)

theorem methodResults_cons_of_error
    {endpoint : Endpoint} {owner : String} {used : List String}
    {fault : UrlFault} (failed : endpoint.method owner used = .error fault)
    (rest : List Endpoint) :
    methodResults owner used (endpoint :: rest) =
      (endpoint, .error fault) :: methodResults owner used rest := by
  rw [methodResults, failed]

private theorem contributions_methodResults
    (tag owner : String) (taken : List String) (endpoints : List Endpoint) :
    Contributions tag owner taken endpoints
      ((methodResults owner taken endpoints).map (resultShare tag)) := by
  induction endpoints generalizing taken with
  | nil =>
      exact .nil
  | cons endpoint rest inductionHypothesis =>
      have head := endpoint.contributes_method tag owner taken
      cases result : endpoint.method owner taken with
      | error fault =>
          rw [result] at head
          rw [methodResults_cons_of_error result, List.map_cons]
          exact .cons head (inductionHypothesis taken)
      | ok method =>
          rw [result] at head
          rw [methodResults_cons_of_ok result, List.map_cons]
          exact .cons head (inductionHypothesis (method.baseName :: taken))

/-- The endpoints that have a method. -/
def servedEndpoints (results : List (Endpoint × Except UrlFault Method)) :
    List Endpoint :=
  (results.filter fun entry => entry.2.isOk).map Prod.fst

private theorem Endpoint.method_baseName
    {endpoint : Endpoint} {owner : String} {used : List String}
    {method : Method} (built : endpoint.method owner used = .ok method) :
    method.baseName =
      memberIdentifier (cleanOperationId endpoint.operationId) owner used := by
  obtain ⟨url, _, rfl⟩ := Endpoint.method_eq_ok_iff.1 built
  rfl

section Names

variable (owner : String) (used : List String) (endpoints : List Endpoint)

/-- The base names are chosen in turn for the endpoints that have a method; the
others reserve none. -/
@[simp]
theorem map_baseName_builtMethods :
    (builtMethods (methodResults owner used endpoints)).map Method.baseName =
      assign
        (fun endpoint taken =>
          memberIdentifier (cleanOperationId endpoint.operationId) owner taken)
        used (servedEndpoints (methodResults owner used endpoints)) := by
  induction endpoints generalizing used with
  | nil => rfl
  | cons endpoint rest inductionHypothesis =>
      cases result : endpoint.method owner used with
      | error fault =>
          rw [methodResults_cons_of_error result]
          exact inductionHypothesis used
      | ok method =>
          rw [methodResults_cons_of_ok result]
          have name := Endpoint.method_baseName result
          have later := inductionHypothesis (method.baseName :: used)
          change method.baseName :: _ = assign _ used (endpoint :: _)
          rw [assign, ← name]
          exact congrArg (method.baseName :: ·) later

private theorem nodup_baseNames :
    ((builtMethods (methodResults owner used endpoints)).map
      Method.baseName).Nodup := by
  rw [map_baseName_builtMethods]
  exact nodup_assign (fun _ taken => memberIdentifier_not_mem _ _ taken) used _

private theorem nodup_names :
    ((builtMethods (methodResults owner used endpoints)).map
      Method.name).Nodup := by
  have suffixed :
      (builtMethods (methodResults owner used endpoints)).map Method.name =
        ((builtMethods (methodResults owner used endpoints)).map
          Method.baseName).map (· ++ "Async") := by
    rw [List.map_map]
    rfl
  have injective : Function.Injective fun name : String => name ++ "Async" := by
    intro left right same
    have lists := congrArg String.toList same
    simp only [String.toList_append] at lists
    exact String.toList_inj.1 (List.append_cancel_right lists)
  rw [suffixed]
  exact (nodup_baseNames owner used endpoints).map injective

/-- Without the endpoints that fail, the methods are the same. -/
private theorem builtMethods_servedEndpoints :
    builtMethods
        (methodResults owner used
          (servedEndpoints (methodResults owner used endpoints))) =
      builtMethods (methodResults owner used endpoints) := by
  induction endpoints generalizing used with
  | nil => rfl
  | cons endpoint rest inductionHypothesis =>
      cases result : endpoint.method owner used with
      | error fault =>
          rw [methodResults_cons_of_error result]
          exact inductionHypothesis used
      | ok method =>
          rw [methodResults_cons_of_ok result]
          have later := inductionHypothesis (method.baseName :: used)
          change
            builtMethods (methodResults owner used (endpoint :: _)) =
              method :: _
          rw [methodResults_cons_of_ok result]
          exact congrArg (method :: ·) later

end Names

/-- What a method is declared with. -/
structure Signature where
  returnType : String
  name : String
  parameterList : String
  deriving DecidableEq, Repr

namespace Signature

def text (signature : Signature) : String :=
  signature.returnType ++ " " ++ signature.name ++ "(" ++
    signature.parameterList ++ ")"

def interfaceLine (signature : Signature) : String :=
  indented (signature.text ++ ";")

def classLine (signature : Signature) : String :=
  indented ("public async " ++ signature.text)

end Signature

def Method.declared (method : Method) : Signature where
  returnType := method.taskType
  name := method.name
  parameterList := method.parameterList

theorem Method.signature_eq (method : Method) :
    method.signature = method.declared.text :=
  rfl

/-- The lines of the body of an interface that are neither empty nor comments:
all of them declare something. -/
def interfaceDeclarations (body : List String) : List String :=
  (codeLines body).filter (· ≠ "")

/-- The lines of the body of a class that declare a method. -/
def classDeclarations (body : List String) : List String :=
  body.filter (beginsWith (indented "public async "))

theorem beginsWith_iff {opening line : String} :
    beginsWith opening line = true ↔ ∃ rest, line = opening ++ rest := by
  rw [beginsWith, List.isPrefixOf_iff_prefix]
  constructor
  · rintro ⟨rest, spelling⟩
    refine ⟨String.ofList rest, String.toList_inj.1 ?_⟩
    rw [String.toList_append, String.toList_ofList, spelling]
  · rintro ⟨rest, rfl⟩
    rw [String.toList_append]
    exact List.prefix_append _ _

@[simp]
private theorem beginsWith_indented (opening line : String) :
    beginsWith (indented opening) (indented line) =
      beginsWith opening line := by
  rw [Bool.eq_iff_iff, beginsWith, beginsWith, List.isPrefixOf_iff_prefix,
    List.isPrefixOf_iff_prefix, indented, indented, String.toList_append,
    String.toList_append, List.prefix_append_right_inj]

/-- An indented line is no comment if its first character is visible and no
slash. -/
private theorem not_commentLine_indented
    {line : String} {c : Char} {rest : List Char}
    (spelling : line.toList = c :: rest) (visible : isBlank c = false)
    (noSlash : c ≠ '/') : ¬ CommentLine (indented line) := by
  have blanks : "    ".toList.all isBlank = true := by decide
  rintro ⟨_, comment⟩
  rw [isDocumentation, indented, String.toList_append, spelling,
    List.dropWhile_append_of_pos (List.all_eq_true.1 blanks),
    List.dropWhile_cons_of_neg (by simp [visible]),
    List.isPrefixOf_iff_prefix] at comment
  exact noSlash (List.cons_prefix_cons.1 comment).1.symm

private theorem Method.exists_taskType (method : Method) :
    ∃ rest, method.taskType = "T" ++ rest := by
  rw [taskType]
  split
  · exact ⟨"ask", by decide⟩
  · exact
      ⟨"ask<" ++ method.returnType ++ ">", by
        rw [← String.append_assoc, ← String.append_assoc]
        rfl⟩

private theorem not_commentLine_interfaceLine (method : Method) :
    ¬ CommentLine method.declared.interfaceLine := by
  obtain ⟨rest, taskType⟩ := method.exists_taskType
  have spelling :
      (method.declared.text ++ ";").toList =
        'T' :: (rest ++ " " ++ method.name ++ "(" ++ method.parameterList ++
          ")" ++ ";").toList := by
    simp [Signature.text, Method.declared, taskType]
  exact not_commentLine_indented spelling (by decide) (by decide)

private theorem not_beginsWith_of_commentLine
    {line : String} (comment : CommentLine line) :
    beginsWith (indented "public async ") line = false := by
  rw [Bool.eq_false_iff]
  intro begins
  obtain ⟨rest, rfl⟩ := beginsWith_iff.1 begins
  have spelling :
      ("public async " ++ rest).toList =
        'p' :: "ublic async ".toList ++ rest.toList := by
    simp
  rw [indented, String.append_assoc] at comment
  exact not_commentLine_indented spelling (by decide) (by decide) comment

private theorem codeLines_interfaceLines
    {method : Method} (documented : method.Documented) :
    codeLines method.interfaceLines = [method.declared.interfaceLine] := by
  rw [Method.interfaceLines, method.signature_eq,
    codeLines_append_of_comments (CommentLine.map_indented documented)]
  exact
    codeLines_cons_of_not_commentLine (not_commentLine_interfaceLine method) []

/-- The declarations in the body of an interface are those of its methods. -/
private theorem interfaceDeclarations_separated
    {methods : List Method}
    (documented : ∀ method ∈ methods, method.Documented) :
    interfaceDeclarations (separated (methods.map Method.interfaceLines)) =
      (methods.map Method.declared).map Signature.interfaceLine := by
  have code :
      (methods.map Method.interfaceLines).map codeLines =
        ((methods.map Method.declared).map Signature.interfaceLine).map
          fun line => [line] := by
    rw [List.map_map, List.map_map, List.map_map]
    apply List.map_congr_left
    intro method member
    exact codeLines_interfaceLines (documented method member)
  rw [interfaceDeclarations, codeLines_separated, code,
    filter_separated (by decide), ← List.flatMap_def,
    List.flatMap_singleton', List.filter_eq_self]
  intro line member
  rw [decide_eq_true_iff]
  rintro rfl
  obtain ⟨signature, _, empty⟩ := List.mem_map.1 member
  simp [Signature.interfaceLine, indented] at empty

private theorem classDeclarations_implementationLines
    {method : Method} (documented : method.Documented) (httpClient : String) :
    classDeclarations (method.implementationLines httpClient) =
      [method.declared.classLine] := by
  have docs :
      (method.docs.map indented).filter
        (beginsWith (indented "public async ")) = [] := by
    rw [List.filter_eq_nil_iff]
    intro line member
    rw [not_beginsWith_of_commentLine
      (CommentLine.map_indented documented line member)]
    exact Bool.false_ne_true
  have statements :
      ((method.statements httpClient).map fun statement =>
          indented (indented statement)).filter
        (beginsWith (indented "public async ")) = [] := by
    rw [List.filter_eq_nil_iff]
    intro line member
    obtain ⟨statement, _, rfl⟩ := List.mem_map.1 member
    rw [beginsWith_indented, beginsWith, indented, String.toList_append]
    simp
  have signature :
      beginsWith (indented "public async ")
        (indented ("public async " ++ method.declared.text)) = true := by
    rw [beginsWith_indented, beginsWith_iff]
    exact ⟨_, rfl⟩
  rw [classDeclarations, Method.implementationLines, method.signature_eq,
    List.filter_append, List.filter_append, List.filter_append, statements,
    List.filter_cons_of_neg (by decide), docs,
    List.filter_cons_of_pos signature, List.filter_cons_of_neg (by decide),
    List.filter_cons_of_neg (by decide), List.filter_nil]
  rfl

private theorem classDeclarations_flatMap
    {methods : List Method}
    (documented : ∀ method ∈ methods, method.Documented)
    (httpClient : String) :
    classDeclarations
        (methods.flatMap fun method => method.implementationLines httpClient) =
      (methods.map Method.declared).map Signature.classLine := by
  rw [classDeclarations, List.filter_flatMap, List.map_map,
    List.map_eq_flatMap]
  apply List.flatMap_congr
  intro method member
  exact classDeclarations_implementationLines (documented method member) _

/-- Both files of a service declare these signatures in this order, and between
its head and its last line neither declares any other method. -/
def Declaration.Declares
    (service : Declaration) (signatures : List Signature) : Prop :=
  ∃ interfaceBody classBody,
    service.artifacts.map Artifact.content =
        [textOfLines service.interfaceLines,
         textOfLines service.implementationLines] ∧
      service.interfaceLines =
        service.interfaceHead ++ interfaceBody ++ ["\x7d"] ∧
      service.implementationLines =
        service.classHead ++ classBody ++ ["\x7d"] ∧
      interfaceDeclarations interfaceBody =
        signatures.map Signature.interfaceLine ∧
      classDeclarations classBody = signatures.map Signature.classLine

private theorem Declaration.declares
    {service : Declaration}
    (documented : ∀ method ∈ service.methods, method.Documented) :
    service.Declares (service.methods.map Method.declared) :=
  ⟨_, _, rfl, service.interfaceLines_eq, service.implementationLines_eq,
    interfaceDeclarations_separated documented,
    classDeclarations_flatMap documented service.httpClient⟩

/-- How the methods and the remarks of a service come of its endpoints. -/
structure ServesInTurn
    (tag owner : String) (endpoints : List Endpoint) (methods : List Method)
    (diagnostics : List Diagnostic) : Prop where
  accounted :
    ∃ shares, Contributions tag owner [] endpoints shares ∧
      methods = shares.filterMap Prod.fst ∧
      diagnostics = shares.flatMap Prod.snd
  baseNames : (methods.map Method.baseName).Nodup
  names : (methods.map Method.name).Nodup
  /-- Endpoints that fail may as well be left out. -/
  unreserved :
    builtMethods
        (methodResults owner []
          (servedEndpoints (methodResults owner [] endpoints))) = methods
  /-- Both files of a service with these methods declare them alike. -/
  declared :
    ∀ service : Declaration, service.methods = methods →
      service.Declares (methods.map Method.declared)

theorem methods_served_in_turn
    (tag owner : String) (endpoints : List Endpoint) :
    ServesInTurn tag owner endpoints
      (builtMethods (methodResults owner [] endpoints))
      (resultDiagnostics tag (methodResults owner [] endpoints)) where
  accounted := by
    refine
      ⟨_, contributions_methodResults tag owner [] endpoints, ?_, ?_⟩
    · rw [List.filterMap_map]
      rfl
    · rw [List.flatMap_map]
      rfl
  baseNames := nodup_baseNames owner [] endpoints
  names := nodup_names owner [] endpoints
  unreserved := builtMethods_servedEndpoints owner [] endpoints
  declared := by
    intro service same
    rw [← same]
    apply Declaration.declares
    intro method member
    rw [same] at member
    exact documented_of_mem_builtMethods member

end OpenApiSharp.Service
