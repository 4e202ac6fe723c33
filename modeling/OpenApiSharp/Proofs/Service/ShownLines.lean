import OpenApiSharp.Proofs.CSharp.ShownText
import OpenApiSharp.Proofs.Service.Grouping
import OpenApiSharp.Proofs.Service.Parameters
import OpenApiSharp.Proofs.Service.Signatures
import OpenApiSharp.Proofs.Service.UrlExpression

/-!
# What the files of services show

The method of an endpoint shows the texts of its URL, in a call of the client or,
if the client has no call, in the text of an exception.  The signatures and the
interface show nothing: types, names and HTTP methods have no marks.
-/

namespace OpenApiSharp.Service

open CSharp Text Document Naming

section Literal

variable {bound : List Bound} {url : String}

def shownTexts (bound : List Bound) (url : String) : List String :=
  ((urlParts 0 url.toList).filter fun part =>
      (part.identifier? bound).isNone).map (fun part =>
        String.ofList part.spelling) ++
    (queryEntries bound).map fun entry => entry.1.name

private theorem forall_mem_shownTexts :
    (∀ text ∈ shownTexts bound url, OnOneLine text.toList) ↔
      (∀ part ∈ urlParts 0 url.toList,
        part.identifier? bound = none → OnOneLine part.spelling) ∧
        ∀ entry ∈ queryEntries bound, OnOneLine entry.1.name.toList := by
  simp only [shownTexts, List.forall_mem_append, List.forall_mem_map,
    List.mem_filter, and_imp, Option.isNone_iff_eq_none, String.toList_ofList]

/-- Without interpolation the whole URL is shown, and nothing else. -/
private theorem forall_mem_shownTexts_of_not_interpolates
    (plain : interpolates bound url = false) :
    (∀ text ∈ shownTexts bound url, OnOneLine text.toList) ↔
      OnOneLine url.toList := by
  rw [interpolates, Bool.or_eq_false_iff, Bool.not_eq_false',
    List.isEmpty_iff] at plain
  obtain ⟨noQuery, kept⟩ := plain
  have whole :
      OnOneLine url.toList ↔
        ∀ part ∈ urlParts 0 url.toList, OnOneLine part.spelling := by
    conv_lhs => rw [← flatMap_spelling_urlParts url.toList]
    exact throughout_flatMap
  rw [forall_mem_shownTexts, noQuery, whole,
    and_iff_left (List.forall_mem_nil _)]
  exact
    forall₂_congr fun part member =>
      imp_iff_right (identifier?_eq_none kept member)

private theorem Unmarked.isEscaped_holeCode
    (unmarked : Unmarked bound) {entry : Bound} (member : entry ∈ bound) :
    IsEscaped (holeCode entry.2) :=
  .of_unescaped (unmarked.not_mem_holeCode member (by decide) (by decide))
    (unmarked.not_mem_holeCode member (by decide) (by decide))

private theorem isEscaped_code (unmarked : Unmarked bound) (part : UrlPart) :
    IsEscaped (part.code bound) := by
  cases found : part.identifier? bound with
  | some identifier =>
      obtain ⟨entry, member, code, _⟩ := UrlPart.code_of_some found
      rw [code]
      exact unmarked.isEscaped_holeCode member
  | none => exact ⟨_, UrlPart.code_of_no_identifier bound found⟩

private theorem isEscaped_querySuffix
    (unmarked : Unmarked bound) (path : String) :
    IsEscaped (querySuffix bound path) := by
  have ampersand : IsEscaped ['&'] := .of_unescaped (by decide) (by decide)
  have question : IsEscaped ['?'] := .of_unescaped (by decide) (by decide)
  have equals : IsEscaped ['='] := .of_unescaped (by decide) (by decide)
  have mark : IsEscaped [queryMark path] := by
    rw [queryMark]
    split
    · exact ampersand
    · exact question
  rw [querySuffix]
  split
  · exact .nil
  · refine mark.append (ampersand.intercalate ?_)
    rw [List.forall_mem_map]
    intro entry listed
    have hole := unmarked.isEscaped_holeCode (List.mem_filter.1 listed).1
    exact (IsEscaped.of_literal entry.1.name).append (equals.append hole)

private theorem isEscaped_interpolatedInside (unmarked : Unmarked bound) :
    IsEscaped (interpolatedInside bound url).toList := by
  rw [interpolatedInside, String.toList_append, String.toList_ofList,
    toList_urlPath]
  exact
    (IsEscaped.flatMap fun part _ => isEscaped_code unmarked part).append
      (isEscaped_querySuffix unmarked _)

/-- An expression that is the literal of an escaped text, perhaps behind the mark
of an interpolated one.  It stands on one line exactly if certain texts do. -/
structure IsLiteralOf
    (expression mark inside : String) (texts : List String) : Prop where
  expression : expression = mark ++ "\"" ++ inside ++ "\""
  mark : Markless mark
  escaped : IsEscaped inside.toList
  oneLine : OnOneLine inside.toList ↔ ∀ text ∈ texts, OnOneLine text.toList

private theorem exists_isLiteralOf_urlExpression
    (unmarked : Unmarked bound) (url : String) :
    ∃ mark inside,
      IsLiteralOf (urlExpression url bound) mark inside
        (shownTexts bound url) := by
  cases interpolated : interpolates bound url with
  | true =>
      exact
        ⟨"$", interpolatedInside bound url,
          { expression := urlExpression_of_interpolates interpolated
            mark := by decide
            escaped := isEscaped_interpolatedInside unmarked
            oneLine :=
              (onOneLine_interpolatedInside_iff unmarked).trans
                forall_mem_shownTexts.symm }⟩
  | false =>
      exact
        ⟨"", literal (plainReading url),
          { expression := urlExpression_of_not_interpolates interpolated
            mark := by decide
            escaped := .of_literal (plainReading url)
            oneLine :=
              (onOneLine_literal.trans onOneLine_plainReading_iff).trans
                (forall_mem_shownTexts_of_not_interpolates interpolated).symm }⟩

end Literal

/-! ## Lines of services -/

/-- An endpoint whose types and whose HTTP method have no marks. -/
structure Endpoint.IsMarkless (endpoint : Endpoint) : Prop where
  httpMethod : Markless endpoint.httpMethod
  returnType : Markless endpoint.returnType
  types : ∀ parameter ∈ endpoint.parameters, Markless parameter.typeText

/-- A mark is its own lower-case form, so none is in the name of a method. -/
private theorem markless_capitals
    {method : String} (known : lower method ∈ httpMethods) :
    Markless (capitals method) := by
  have names : ∀ name ∈ httpMethods, Markless name := by decide
  have stays : ∀ c ∈ sourceMarks, c ≠ 'Σ' ∧ c ∈ lowerChar c :=
    List.all_iff_forall_prop.1 (by decide +kernel)
  intro d member
  rw [capitals, String.toList_ofList] at member
  obtain ⟨c, present, image⟩ := List.mem_flatMap.1 member
  refine not_mem_sourceMarks_of_mem_capitalChar (fun mark => ?_) image
  have inLower : c ∈ (lower method).toList := by
    rw [lower, String.toList_ofList]
    exact
      mem_lowerAfter_of_mem_lowerChar present (stays c mark).1
        (stays c mark).2
  exact names _ known c inLower mark

private theorem markless_typeText_of_mem_parametersOf
    {pathItem operation : Value} {parameter : Parameter}
    (member : parameter ∈ parametersOf pathItem operation) :
    Markless parameter.typeText := by
  rw [parametersOf_eq, List.mem_append] at member
  rcases member with named | body
  · obtain ⟨node, _, found⟩ := List.mem_filterMap.1 named
    rw [(parameterOf?_eq_some_iff.1 found).typeText]
    exact markless_typeText _
  · obtain ⟨_, schema, _, _, typed, _⟩ :=
      (sentBody?_sendsBody _ operation).content parameter
        (Option.mem_toList.1 body)
    rw [typed]
    exact markless_typeText schema

private theorem Operation.Describes.isMarkless
    {operation : Operation} {endpoint : Endpoint}
    (describes : operation.Describes endpoint)
    (known : lower operation.method ∈ httpMethods) : endpoint.IsMarkless where
  httpMethod := by
    rw [describes.httpMethod]
    exact markless_capitals known
  returnType := by
    rw [describes.returnType]
    exact markless_returnTypeText operation.node
  types := by
    intro parameter member
    rw [describes.parameters] at member
    exact markless_typeText_of_mem_parametersOf member

/-- The endpoints of a document have no marks, whatever the document. -/
theorem isMarkless_of_mem_groups
    {paths : Value} (complete : (survey paths).fault = none)
    {group : String × List Endpoint} (grouped : group ∈ (survey paths).groups)
    {endpoint : Endpoint} (member : endpoint ∈ group.2) :
    endpoint.IsMarkless := by
  obtain ⟨operation, present, describes⟩ :=
    exists_operation_of_mem_groups complete grouped member
  exact describes.isMarkless (mem_operations_iff.1 present).2.2

private theorem markless_of_mem_identifiers
    {parameters : List Parameter} {identifier : String}
    (member : identifier ∈ identifiers parameters) : Markless identifier := by
  obtain ⟨parameter, _, used, rfl⟩ := exists_choice_of_mem_assign member
  rw [markless_iff_toNat]
  intro c
  exact areForeign_sourceMarks.not_mem_of_mem_choice

/-- A call of the client with the expression for a URL. -/
def CallsAt (url call : String) : Prop :=
  ∃ front back, Markless front ∧ Markless back ∧ call = front ++ url ++ back

private theorem callsAt_plain
    {name resultType : String} (named : Markless name)
    (typed : Markless resultType) (url : String) :
    CallsAt url (name ++ "<" ++ resultType ++ ">(" ++ url ++ ")") := by
  have opening : Markless "<" := by decide
  have between : Markless ">(" := by decide
  exact
    ⟨name ++ "<" ++ resultType ++ ">(", ")",
      ((named.append opening).append typed).append between, by decide, rfl⟩

private theorem callsAt_body
    {name bodyType resultType identifier : String} (named : Markless name)
    (bodyTyped : Markless bodyType) (typed : Markless resultType)
    (argument : Markless identifier) (url : String) :
    CallsAt url
      (name ++ "<" ++ bodyType ++ ", " ++ resultType ++ ">(" ++ url ++ ", " ++
        identifier ++ ")") := by
  have opening : Markless "<" := by decide
  have comma : Markless ", " := by decide
  have between : Markless ">(" := by decide
  have closing : Markless ")" := by decide
  refine
    ⟨name ++ "<" ++ bodyType ++ ", " ++ resultType ++ ">(",
      ", " ++ identifier ++ ")",
      ((((named.append opening).append bodyTyped).append comma).append
        typed).append between,
      (comma.append argument).append closing, ?_⟩
  simp only [String.append_assoc]

section Methods

variable {endpoint : Endpoint} (plain : endpoint.IsMarkless)

include plain

private theorem callsAt_of_bodyOf?
    {name resultType : String} (named : Markless name)
    (typed : Markless resultType) (url : String) :
    CallsAt url
      (match bodyOf? endpoint.bound with
      | some (parameter, identifier) =>
          name ++ "<" ++ parameter.typeText ++ ", " ++ resultType ++ ">(" ++
            url ++ ", " ++ identifier ++ ")"
      | none => name ++ "<" ++ resultType ++ ">(" ++ url ++ ")") := by
  cases found : bodyOf? endpoint.bound with
  | none => exact callsAt_plain named typed url
  | some entry =>
      obtain ⟨inParameters, inIdentifiers⟩ :=
        List.of_mem_zip (List.mem_of_find?_eq_some found)
      exact
        callsAt_body named (plain.types _ inParameters) typed
          (markless_of_mem_identifiers inIdentifiers) url

private theorem callsAt_of_clientCall?
    {url call : String} (offered : clientCall? endpoint url = some call) :
    CallsAt url call := by
  have get : Markless "GetAsync(" := by decide
  have result :
      Markless
        (if endpoint.returnType == voidName then "bool"
          else endpoint.returnType) := by
    split
    · decide
    · exact plain.returnType
  simp only [clientCall?] at offered
  split at offered
  · cases offered
    split
    · exact ⟨_, ")", get, by decide, rfl⟩
    · exact callsAt_plain (by decide) plain.returnType url
  · cases offered
    exact callsAt_of_bodyOf? plain (by decide) result url
  · cases offered
    exact callsAt_of_bodyOf? plain (by decide) result url
  · cases offered
    exact callsAt_plain (by decide) result url
  · cases offered

private theorem markless_of_mem_arguments
    {argument : Argument} (member : argument ∈ endpoint.arguments) :
    Markless argument.typeText ∧ Markless argument.name := by
  have mark : Markless "?" := by decide
  obtain ⟨⟨parameter, identifier⟩, listed, rfl⟩ := List.mem_map.1 member
  obtain ⟨inParameters, inIdentifiers⟩ := List.of_mem_zip listed
  refine ⟨?_, markless_of_mem_identifiers inIdentifiers⟩
  have typed := plain.types parameter inParameters
  simp only [Parameter.signatureType]
  split
  · exact typed.append mark
  · exact typed

end Methods

/-- The texts that stand in literals of the method for an endpoint. -/
def Endpoint.literalTexts (endpoint : Endpoint) : List String :=
  match endpoint.url with
  | .text url =>
      if clientMethods.contains endpoint.httpMethod then
        shownTexts endpoint.bound url
      else [url]
  | _ => []

section Statements

variable {unquoted : Prop}

private theorem shows_call
    {before after url call mark inside : String} {texts : List String}
    (opening : Markless before) (closing : Markless after)
    (calls : CallsAt url call)
    (isLiteral : IsLiteralOf url mark inside texts) :
    Shows unquoted [before ++ call ++ after] texts := by
  obtain ⟨front, back, frontMarkless, backMarkless, rfl⟩ := calls
  have spelling :
      before ++ (front ++ url ++ back) ++ after =
        before ++ front ++ mark ++ "\"" ++ inside ++ "\"" ++
          (back ++ after) := by
    rw [isLiteral.expression]
    simp only [String.append_assoc]
  exact
    .literal spelling ((opening.append frontMarkless).append isLiteral.mark)
      (backMarkless.append closing) (fun _ => isLiteral.escaped)
      isLiteral.oneLine

private theorem shows_throw
    {httpMethod httpClient : String} (named : Markless httpMethod)
    (client : Plain unquoted httpClient) (url : String) :
    Shows unquoted
      ["throw new NotSupportedException(\"" ++ httpMethod ++ " " ++
        literal url ++ " is not supported by " ++ httpClient ++ "\");"]
      [url] := by
  have space : Markless " " := by decide
  have words : Markless " is not supported by " := by decide
  have method : Markless (httpMethod ++ " ") := named.append space
  have front := method.plain unquoted
  have back := (words.plain unquoted).append client
  have spelling :
      "throw new NotSupportedException(\"" ++ httpMethod ++ " " ++
          literal url ++ " is not supported by " ++ httpClient ++ "\");" =
        "throw new NotSupportedException(" ++ "\"" ++
          (httpMethod ++ " " ++ literal url ++
            (" is not supported by " ++ httpClient)) ++ "\"" ++ ");" := by
    have opening :
        "throw new NotSupportedException(\"" =
          "throw new NotSupportedException(" ++ "\"" :=
      rfl
    have closing : "\");" = "\"" ++ ");" := rfl
    rw [opening, closing]
    simp only [String.append_assoc]
  refine .literal spelling (by decide) (by decide) (fun chosen => ?_) ?_
  · rw [String.toList_append, String.toList_append]
    exact
      ((front.isEscaped chosen).append (.of_literal url)).append
        (back.isEscaped chosen)
  · simp only [List.forall_mem_singleton, String.toList_append,
      throughout_append, onOneLine_literal, named.onOneLine, space.onOneLine,
      words.onOneLine, client.oneLine, true_and, and_true]

private theorem Method.statements_of_none
    {method : Method} (noCall : method.clientCall = none)
    (httpClient : String) :
    method.statements httpClient =
      ["throw new NotSupportedException(\"" ++ method.httpMethod ++ " " ++
        method.urlLiteral ++ " is not supported by " ++ httpClient ++
        "\");"] := by
  rw [statements, noCall]

private theorem Method.statements_of_some
    {method : Method} {call : String} (calls : method.clientCall = some call)
    (httpClient : String) :
    method.statements httpClient =
      if method.returnsVoid then ["await _httpClient." ++ call ++ ";"]
      else
        ["var response = await _httpClient." ++ call ++ ";",
         "return response.Result;"] := by
  rw [statements, calls]

private theorem Endpoint.literalTexts_of_text
    {endpoint : Endpoint} {url : String} (address : endpoint.url = .text url) :
    endpoint.literalTexts =
      if clientMethods.contains endpoint.httpMethod then
        shownTexts endpoint.bound url
      else [url] := by
  rw [literalTexts, address]

variable {endpoint : Endpoint} (plain : endpoint.IsMarkless)
  {owner : String} {used : List String} {method : Method}
  (built : endpoint.method owner used = .ok method)

include plain built

private theorem Endpoint.shows_statements
    {httpClient : String} (client : Plain unquoted httpClient) :
    Shows unquoted (method.statements httpClient) endpoint.literalTexts := by
  have awaiting : Markless "await _httpClient." := by decide
  have assigning : Markless "var response = await _httpClient." := by decide
  have closing : Markless ";" := by decide
  have returning : Markless "return response.Result;" := by decide
  obtain ⟨url, address, rfl⟩ := Endpoint.method_eq_ok_iff.1 built
  have offers :=
    clientCall?_isNone endpoint (urlExpression url endpoint.bound)
  rw [Endpoint.literalTexts_of_text address]
  cases offered : clientCall? endpoint (urlExpression url endpoint.bound) with
  | none =>
      rw [offered, Option.isNone_none, eq_comm, Bool.not_eq_true'] at offers
      rw [Method.statements_of_none offered, offers,
        if_neg Bool.false_ne_true]
      exact shows_throw plain.httpMethod client url
  | some call =>
      rw [offered, Option.isNone_some, eq_comm, Bool.not_eq_false'] at offers
      obtain ⟨mark, inside, isLiteral⟩ :=
        exists_isLiteralOf_urlExpression endpoint.unmarked_bound url
      have calls := callsAt_of_clientCall? plain offered
      rw [Method.statements_of_some offered, if_pos offers]
      split
      · exact shows_call awaiting closing calls isLiteral
      · have returns : Shows unquoted ["return response.Result;"] [] :=
          .line (returning.plain unquoted)
        exact
          (shows_call assigning closing calls isLiteral).append_none returns

private theorem markless_signature : Markless method.signature := by
  have space : Markless " " := by decide
  have comma : Markless ", " := by decide
  have opening : Markless "(" := by decide
  have closing : Markless ")" := by decide
  obtain ⟨url, _, rfl⟩ := Endpoint.method_eq_ok_iff.1 built
  have task : Markless (endpoint.methodAt owner used url).taskType := by
    have generic : Markless "Task<" := by decide
    have bracket : Markless ">" := by decide
    rw [Method.taskType]
    split
    · decide
    · exact (generic.append plain.returnType).append bracket
  have name : Markless (endpoint.methodAt owner used url).name := by
    have async : Markless "Async" := by decide
    exact (markless_memberIdentifier _ owner used).append async
  have parameters :
      Markless (endpoint.methodAt owner used url).parameterList := by
    refine comma.intercalate (List.forall_mem_map.2 fun argument member => ?_)
    obtain ⟨typed, named⟩ := markless_of_mem_arguments plain member
    exact (typed.append space).append named
  exact
    ((((task.append space).append name).append opening).append
      parameters).append closing

private theorem shows_interfaceLines :
    Shows unquoted method.interfaceLines [] := by
  have semicolon : Markless ";" := by decide
  have comments : Shows unquoted (method.docs.map indented) [] :=
    .comments (CommentLine.map_indented (Endpoint.documented built))
  have declared : Markless (method.signature ++ ";") :=
    (markless_signature plain built).append semicolon
  exact comments.append (.line (declared.indented.plain unquoted))

private theorem shows_implementationLines
    {httpClient : String} (client : Plain unquoted httpClient) :
    Shows unquoted (method.implementationLines httpClient)
      endpoint.literalTexts := by
  have keywords : Markless "public async " := by decide
  have empty : Markless "" := by decide
  have opening : Markless (indented "\x7b") := by decide +kernel
  have closing : Markless (indented "\x7d") := by decide +kernel
  have comments : Shows unquoted ("" :: method.docs.map indented) [] :=
    (Shows.line (empty.plain unquoted)).append
      (.comments (CommentLine.map_indented (Endpoint.documented built)))
  have declared : Markless ("public async " ++ method.signature) :=
    keywords.append (markless_signature plain built)
  have head :
      Shows unquoted
        [indented ("public async " ++ method.signature), indented "\x7b"]
        [] :=
    (Shows.line (declared.indented.plain unquoted)).append
      (.line (opening.plain unquoted))
  have statements := (Endpoint.shows_statements plain built client).map_indented
  have body := statements.map_indented
  rw [List.map_map] at body
  have closed : Shows unquoted [indented "\x7d"] [] :=
    .line (closing.plain unquoted)
  exact ((comments.append head).append body).append_none closed

end Statements

section Built

variable {unquoted : Prop} {endpoints : List Endpoint}
  (plain : ∀ endpoint ∈ endpoints, endpoint.IsMarkless)

include plain

theorem shows_interfaceLines_of_mem_builtMethods
    {owner : String} {used : List String} {method : Method}
    (member : method ∈ builtMethods (methodResults owner used endpoints)) :
    Shows unquoted method.interfaceLines [] := by
  obtain ⟨endpoint, present, _, built⟩ :=
    exists_endpoint_of_mem_builtMethods member
  exact shows_interfaceLines (plain endpoint present) built

/-- The methods of a class show the texts of their endpoints in turn.  An endpoint
without a method shows nothing. -/
theorem shows_builtMethods
    {httpClient : String} (client : Plain unquoted httpClient)
    (owner : String) (used : List String) :
    Shows unquoted
      ((builtMethods (methodResults owner used endpoints)).flatMap
        fun method => method.implementationLines httpClient)
      ((methodResults owner used endpoints).flatMap
        fun result => result.1.literalTexts) := by
  induction endpoints generalizing used with
  | nil => exact .nil
  | cons endpoint rest inductionHypothesis =>
      rw [List.forall_mem_cons] at plain
      have others := inductionHypothesis plain.2
      cases result : endpoint.method owner used with
      | error fault =>
          have nothing : endpoint.literalTexts = [] := by
            have noText := (Endpoint.method_fault result).2
            rw [Endpoint.literalTexts]
            split
            · next url address => exact absurd address (noText url)
            · rfl
          rw [methodResults_cons_of_error result, List.flatMap_cons, nothing]
          exact others used
      | ok method =>
          rw [methodResults_cons_of_ok result]
          exact
            (shows_implementationLines plain.1 result client).append
              (others (method.baseName :: used))

end Built

/-- A service whose names and namespaces are plain. -/
structure Declaration.IsPlain (unquoted : Prop) (service : Declaration) :
    Prop where
  serviceName : Markless service.serviceName
  httpClient : Plain unquoted service.httpClient
  interfacesNamespace : Plain unquoted service.interfacesNamespace
  implementationsNamespace : Plain unquoted service.implementationsNamespace
  interfaceUsings : ∀ name ∈ service.interfaceUsings, Plain unquoted name
  implementationUsings :
    ∀ name ∈ service.implementationUsings, Plain unquoted name

namespace Declaration.IsPlain

variable {unquoted : Prop} {service : Declaration}
  (plain : service.IsPlain unquoted)

include plain

private theorem className : Markless service.className := by
  have suffix : Markless "Service" := by decide
  exact plain.serviceName.append suffix

private theorem interfaceName : Markless service.interfaceName := by
  have mark : Markless "I" := by decide
  exact mark.append plain.className

private theorem shows_summary {part : String} (word : Markless part) :
    Shows unquoted (service.summary part) [] := by
  have between : Markless " for " := by decide
  have ending : Markless " operations" := by decide
  have opening : Plain unquoted "/// <summary>" :=
    ⟨by decide, fun _ => by decide, fun _ => by decide⟩
  have closing : Plain unquoted "/// </summary>" :=
    ⟨by decide, fun _ => by decide, fun _ => by decide⟩
  have beginning : Plain unquoted "/// Service " :=
    ⟨by decide, fun _ => by decide, fun _ => by decide⟩
  have words :
      Markless (part ++ " for " ++ service.serviceName ++ " operations") :=
    ((word.append between).append plain.serviceName).append ending
  have line := beginning.append (words.plain unquoted)
  simp only [← String.append_assoc] at line
  exact (Shows.line opening).append ((Shows.line line).append (.line closing))

private theorem shows_interfaceHead :
    Shows unquoted service.interfaceHead [] := by
  have keywords : Markless "public interface " := by decide
  have brace : Markless "\x7b" := by decide
  have head := shows_header plain.interfaceUsings plain.interfacesNamespace
  have summary : Shows unquoted (service.summary "interface") [] :=
    plain.shows_summary (by decide)
  have name : Markless ("public interface " ++ service.interfaceName) :=
    keywords.append plain.interfaceName
  exact
    (head.append summary).append
      ((Shows.line (name.plain unquoted)).append
        (.line (brace.plain unquoted)))

theorem shows_interfaceLines
    (methods : ∀ method ∈ service.methods,
      Shows unquoted method.interfaceLines []) :
    Shows unquoted service.interfaceLines [] := by
  have brace : Markless "\x7d" := by decide
  rw [interfaceLines_eq]
  exact
    (plain.shows_interfaceHead.append
      (.separated_none (List.forall_mem_map.2 methods))).append
      (.line (brace.plain unquoted))

private theorem shows_classHead : Shows unquoted service.classHead [] := by
  have keywords : Markless "public class " := by decide
  have colon : Markless " : " := by decide
  have opening : Markless "\x7b" := by decide
  have empty : Markless "" := by decide
  have modifiers : Markless "private readonly " := by decide
  have fieldName : Markless " _httpClient;" := by decide
  have modifier : Markless "public " := by decide
  have parenthesis : Markless "(" := by decide
  have argument : Markless " httpClient)" := by decide
  have assignment : Markless "_httpClient = httpClient;" := by decide
  have closing : Markless "\x7d" := by decide
  have head :=
    shows_header plain.implementationUsings plain.implementationsNamespace
  have summary : Shows unquoted (service.summary "implementation") [] :=
    plain.shows_summary (by decide)
  have declared :
      Markless
        ("public class " ++ service.className ++ " : " ++
          service.interfaceName) :=
    ((keywords.append plain.className).append colon).append
      plain.interfaceName
  have field :=
    ((modifiers.plain unquoted).append plain.httpClient).append
      (fieldName.plain unquoted)
  have opener : Markless ("public " ++ service.className ++ "(") :=
    (modifier.append plain.className).append parenthesis
  have initializer :=
    ((opener.plain unquoted).append plain.httpClient).append
      (argument.plain unquoted)
  refine (head.append summary).append (.plain ?_)
  simp only [List.forall_mem_cons]
  exact
    ⟨declared.plain unquoted, opening.plain unquoted, field.indented,
      empty.plain unquoted, initializer.indented,
      opening.indented.plain unquoted,
      assignment.indented.indented.plain unquoted,
      closing.indented.plain unquoted, List.forall_mem_nil _⟩

theorem shows_implementationLines
    {texts : List String}
    (methods :
      Shows unquoted
        (service.methods.flatMap fun method =>
          method.implementationLines service.httpClient) texts) :
    Shows unquoted service.implementationLines texts := by
  have brace : Markless "\x7d" := by decide
  rw [implementationLines_eq]
  exact
    (plain.shows_classHead.append methods).append_none
      (.line (brace.plain unquoted))

end Declaration.IsPlain

end OpenApiSharp.Service
