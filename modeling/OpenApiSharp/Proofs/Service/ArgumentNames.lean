import OpenApiSharp.Proofs.CSharp.TypeTree
import OpenApiSharp.Proofs.Naming.ParameterName
import OpenApiSharp.Proofs.Naming.Verbatim
import OpenApiSharp.Proofs.Service.Survey
import OpenApiSharp.Service.Declaration

/-!
# Names of arguments

The arguments of a method are kept apart as they are written, each in view of
those before it.  Two things are not seen: that an `@` is no part of a name, and
that the body of the method has names of its own.
-/

namespace OpenApiSharp.Service

open CSharp Naming Text

/-- The names that the parameters of an endpoint ask for. -/
def Endpoint.requestedNames (endpoint : Endpoint) : List String :=
  endpoint.parameters.map fun parameter => parameterName parameter.name

/-- The names of the arguments of a method in the generated code, where a leading
`@` does not count. -/
def Method.argumentNames (method : Method) : List String :=
  method.arguments.map fun argument => withoutAt argument.name

private theorem Endpoint.method_arguments
    {endpoint : Endpoint} {owner : String} {used : List String}
    {method : Method} (built : endpoint.method owner used = .ok method) :
    method.arguments = endpoint.arguments := by
  obtain ⟨url, _, rfl⟩ := Endpoint.method_eq_ok_iff.1 built
  rfl

private theorem identifiers_eq_assign (parameters : List Parameter) :
    identifiers parameters =
      assign uniqueName []
        ((parameters.map fun parameter => parameterName parameter.name).map
          escapeIdentifier) := by
  rw [assign_map, assign_map]
  rfl

@[simp]
theorem Endpoint.map_name_arguments (endpoint : Endpoint) :
    endpoint.arguments.map Argument.name =
      assign uniqueName []
        (endpoint.requestedNames.map escapeIdentifier) := by
  have sameLength :
      (identifiers endpoint.parameters).length ≤
        endpoint.parameters.length := by
    simp [identifiers]
  rw [Endpoint.arguments, List.map_map, requestedNames,
    ← identifiers_eq_assign]
  exact List.map_snd_zip sameLength

private theorem Endpoint.unmarked_requestedNames (endpoint : Endpoint) :
    ∀ name ∈ endpoint.requestedNames, name.toList.head? ≠ some '@' := by
  intro name member
  obtain ⟨parameter, _, rfl⟩ := List.mem_map.1 member
  obtain ⟨c, rest, spelling, unmarked, _⟩ :=
    casedFrom_parameterName parameter.name
  rw [spelling, List.head?_cons]
  rintro ⟨⟩
  exact unmarked rfl

section Built

variable {endpoint : Endpoint} {owner : String} {used : List String}
  {method : Method} (built : endpoint.method owner used = .ok method)

include built

private theorem Endpoint.method_argumentNames :
    method.argumentNames =
      (assign uniqueName []
        (endpoint.requestedNames.map escapeIdentifier)).map withoutAt := by
  rw [Method.argumentNames, Endpoint.method_arguments built,
    ← endpoint.map_name_arguments, List.map_map]
  rfl

/-- The arguments of a method are distinct as they are written.  They are
distinct names unless a keyword that several parameters ask for meets its own
counter in the name of another parameter. -/
theorem argumentNames_distinct_iff :
    (method.arguments.map Argument.name).Nodup ∧
      (method.argumentNames.Nodup ↔
        ¬ CounterMeetsKeyword endpoint.requestedNames) := by
  constructor
  · rw [Endpoint.method_arguments built, endpoint.map_name_arguments]
    exact nodup_assign uniqueName_not_mem [] _
  · rw [Endpoint.method_argumentNames built]
    exact nodup_withoutAt_assign_iff endpoint.unmarked_requestedNames

end Built

/-- A lesson is found by its class, which has to be named twice, and by a first
class beside it. -/
def lessonEndpoint : Endpoint where
  url := .text "/lessons"
  httpMethod := "GET"
  operationId := "findLesson"
  summary := ""
  parameters :=
    [{ name := "class", location := "query", typeText := "string" },
     { name := "Class", location := "header", typeText := "string" },
     { name := "class2", location := "query", typeText := "string" }]
  returnType := "string"
  tag := "Lessons"

/-- The same with another second class. -/
def classEndpoint : Endpoint :=
  { lessonEndpoint with
    parameters :=
      [{ name := "class", location := "query", typeText := "string" },
       { name := "Class", location := "header", typeText := "string" },
       { name := "class1", location := "query", typeText := "string" }] }

/-- In a lesson the second class gets the counter one, which no one else has. -/
theorem lesson_arguments_distinct :
    ∃ method,
      lessonEndpoint.method "LessonsService" [] = .ok method ∧
        method.argumentNames = ["class", "class1", "class2"] ∧
          method.argumentNames.Nodup := by
  refine ⟨_, rfl, ?_, ?_⟩
  · decide +kernel
  · have built : lessonEndpoint.method "LessonsService" [] = .ok _ := rfl
    exact (argumentNames_distinct_iff built).2.2 (by decide +kernel)

/-- Here it gets the name of another argument. -/
theorem class_meets_its_counter :
    ∃ method,
      classEndpoint.method "LessonsService" [] = .ok method ∧
        method.parameterList = "string? @class, string? @class1, string? class1" ∧
          ¬ method.argumentNames.Nodup := by
  refine ⟨_, rfl, ?_, ?_⟩
  · decide +kernel
  · decide +kernel

def clientField : String := "_httpClient"

def responseVariable : String := "response"

/-- The names that the body of a method has of its own: the field that holds the
client and, if there is something to return, the variable for the response. -/
def Method.bodyNames (method : Method) : List String :=
  if method.clientCall.isNone then []
  else if method.returnsVoid then [clientField]
  else [clientField, responseVariable]

/-- An argument of a method has a name that the body has of its own. -/
def Method.Captures (method : Method) (name : String) : Prop :=
  name ∈ method.bodyNames ∧ name ∈ method.argumentNames

instance (method : Method) (name : String) :
    Decidable (method.Captures name) :=
  inferInstanceAs (Decidable (_ ∧ _))

theorem Method.mem_bodyNames_iff
    {method : Method} (calls : method.clientCall ≠ none) {name : String} :
    name ∈ method.bodyNames ↔
      name = clientField ∨
        name = responseVariable ∧ method.returnType ≠ voidName := by
  obtain ⟨call, text⟩ := Option.ne_none_iff_exists'.1 calls
  rw [bodyNames, text, returnsVoid]
  by_cases void : method.returnType = voidName
  · simp [void]
  · simp [void]

private theorem mentions_of_toList
    {text name : String} {front rest : List Char} {left right : Char}
    (parts : text.toList = front ++ left :: (name.toList ++ right :: rest))
    (opens : isWordChar left = false) (closes : isWordChar right = false) :
    Mentions text name := by
  refine ⟨front ++ [left], right :: rest, ?_, ?_, ?_⟩
  · rw [parts, List.append_assoc, List.singleton_append]
  · intro c last
    rw [List.getLast?_concat] at last
    rwa [← Option.some.inj last]
  · rintro c ⟨rfl⟩
    exact closes

private theorem Method.mentions_of_mem_bodyNames
    {method : Method} {name : String} (member : name ∈ method.bodyNames)
    (httpClient : String) :
    ∃ statement ∈ method.statements httpClient, Mentions statement name := by
  cases call : method.clientCall with
  | none =>
      rw [bodyNames, call] at member
      cases member
  | some text =>
      have sent :
          ("await _httpClient." ++ text ++ ";").toList =
            "await".toList ++ ' ' ::
              (clientField.toList ++ '.' :: (text ++ ";").toList) := by
        simp [clientField]
      have received :
          ("var response = await _httpClient." ++ text ++ ";").toList =
            "var response = await".toList ++ ' ' ::
              (clientField.toList ++ '.' :: (text ++ ";").toList) := by
        simp [clientField]
      have declared :
          ("var response = await _httpClient." ++ text ++ ";").toList =
            "var".toList ++ ' ' ::
              (responseVariable.toList ++ ' ' ::
                ("= await _httpClient." ++ text ++ ";").toList) := by
        simp [responseVariable]
      rw [bodyNames, call] at member
      rw [statements, call]
      by_cases void : method.returnsVoid = true
      · simp only [Option.isNone_some, void] at member ⊢
        rw [List.mem_singleton.1 member]
        exact
          ⟨_, List.mem_cons_self,
            mentions_of_toList sent (by decide) (by decide)⟩
      · simp only [Option.isNone_some, void] at member ⊢
        refine ⟨_, List.mem_cons_self, ?_⟩
        rcases List.mem_cons.1 member with rfl | behind
        · exact mentions_of_toList received (by decide) (by decide)
        · rw [List.mem_singleton.1 behind]
          exact mentions_of_toList declared (by decide) (by decide)

theorem parameterName_eq_clientField_iff (raw : String) :
    parameterName raw = clientField ↔ wordChars raw = clientField.toList := by
  have spelling : clientField.toList = '_' :: "httpClient".toList := rfl
  have small : ∀ c, lowerChar c = ['_'] ↔ c ∈ ['_'] :=
    lowerChar_eq_singleton_iff (by decide +kernel) (by decide +kernel)
  rw [parameterName_eq_iff_wordChars_mem spelling (by decide) (by decide)
    small, spelling, List.map_singleton, List.mem_singleton]

theorem parameterName_eq_responseVariable_iff (raw : String) :
    parameterName raw = responseVariable ↔
      wordChars raw ∈ ["response".toList, "Response".toList] := by
  have spelling : responseVariable.toList = 'r' :: "esponse".toList := rfl
  have small : ∀ c, lowerChar c = ['r'] ↔ c ∈ ['r', 'R'] :=
    lowerChar_eq_singleton_iff (by decide +kernel) (by decide +kernel)
  rw [parameterName_eq_iff_wordChars_mem spelling (by decide) (by decide)
    small]
  rfl

section Built

variable {endpoint : Endpoint} {owner : String} {used : List String}
  {method : Method} (built : endpoint.method owner used = .ok method)

include built

/-- A name that is neither escaped nor counted is that of an argument exactly if
a parameter asks for it. -/
theorem mem_argumentNames_iff
    {text : String} {c : Char} {rest : List Char}
    (spelling : text.toList = c :: rest) (own : text ∉ keywords)
    (noSign : c ≠ '@') (noDigit : isDigit c = false)
    (noMark : c = '_' → rest.head?.any isDigit = false)
    (ends : ∀ d ∈ text.toList.getLast?, d ∉ asciiDigits) :
    text ∈ method.argumentNames ↔
      ∃ parameter ∈ endpoint.parameters,
        parameterName parameter.name = text := by
  rw [Endpoint.method_argumentNames built,
    mem_map_withoutAt_assign_iff endpoint.unmarked_requestedNames spelling own
      noSign noDigit noMark ends,
    Endpoint.requestedNames, List.mem_map]

theorem clientField_mem_argumentNames_iff :
    clientField ∈ method.argumentNames ↔
      ∃ parameter ∈ endpoint.parameters,
        wordChars parameter.name = clientField.toList := by
  have spelling : clientField.toList = '_' :: "httpClient".toList := rfl
  have ends : ∀ c ∈ clientField.toList.getLast?, c ∉ asciiDigits := by
    rintro c ⟨rfl⟩
    decide
  rw [mem_argumentNames_iff built spelling (by decide) (by decide) (by decide)
    (by decide) ends]
  simp only [parameterName_eq_clientField_iff]

theorem responseVariable_mem_argumentNames_iff :
    responseVariable ∈ method.argumentNames ↔
      ∃ parameter ∈ endpoint.parameters,
        wordChars parameter.name ∈
          ["response".toList, "Response".toList] := by
  have spelling : responseVariable.toList = 'r' :: "esponse".toList := rfl
  have ends : ∀ c ∈ responseVariable.toList.getLast?, c ∉ asciiDigits := by
    rintro c ⟨rfl⟩
    decide
  rw [mem_argumentNames_iff built spelling (by decide) (by decide) (by decide)
    (by decide) ends]
  simp only [parameterName_eq_responseVariable_iff]

/-- The body of a method with a call has names of its own.  It captures one of
them exactly if a parameter is called like the client, or, in a method that
returns a value, like the response.  Characters that are dropped from names do
not count, and neither does the case of the first letter. -/
theorem captures_iff (calls : method.clientCall ≠ none) :
    (∀ name ∈ method.bodyNames, ∀ httpClient,
      ∃ statement ∈ method.statements httpClient, Mentions statement name) ∧
    ∀ name,
      method.Captures name ↔
        (name = clientField ∧
          ∃ parameter ∈ endpoint.parameters,
            wordChars parameter.name = "_httpClient".toList) ∨
        (name = responseVariable ∧ endpoint.returnType ≠ voidName ∧
          ∃ parameter ∈ endpoint.parameters,
            wordChars parameter.name ∈
              ["response".toList, "Response".toList]) := by
  refine ⟨fun _ member => Method.mentions_of_mem_bodyNames member, ?_⟩
  intro name
  have client := clientField_mem_argumentNames_iff built
  have response := responseVariable_mem_argumentNames_iff built
  rw [← (Endpoint.method_serves built).returnType, Method.Captures,
    Method.mem_bodyNames_iff calls]
  constructor
  · rintro ⟨rfl | ⟨rfl, returns⟩, argument⟩
    · exact Or.inl ⟨rfl, client.1 argument⟩
    · exact Or.inr ⟨rfl, returns, response.1 argument⟩
  · rintro (⟨rfl, asked⟩ | ⟨rfl, returns, asked⟩)
    · exact ⟨Or.inl rfl, client.2 asked⟩
    · exact ⟨Or.inr ⟨rfl, returns⟩, response.2 asked⟩

end Built

/-- A lesson is changed and nothing comes back, so that an argument may have the
name of the response. -/
def replyEndpoint : Endpoint :=
  { lessonEndpoint with
    httpMethod := "PUT"
    parameters :=
      [{ name := "httpClient", location := "header", typeText := "string" },
       { name := "re-sponse", location := "query", typeText := "string" }]
    returnType := voidName }

/-- The same with something to return, and a header with the name of the
field. -/
def capturedEndpoint : Endpoint :=
  { replyEndpoint with
    parameters :=
      [{ name := "_httpClient", location := "header", typeText := "string" },
       { name := "Response", location := "query", typeText := "string" }]
    returnType := "string" }

theorem reply_captures_nothing :
    ∃ method,
      replyEndpoint.method "LessonsService" [] = .ok method ∧
        method.clientCall ≠ none ∧
          "response" ∈ method.argumentNames ∧
            ∀ name, ¬ method.Captures name := by
  have built : replyEndpoint.method "LessonsService" [] = .ok _ := rfl
  refine ⟨_, built, ?_, ?_, ?_⟩
  · decide +kernel
  · decide +kernel
  · intro name
    rw [(captures_iff built (by decide +kernel)).2]
    rintro (⟨_, asked⟩ | ⟨_, returns, _⟩)
    · revert asked
      decide +kernel
    · exact returns rfl

/-- Here the body calls an argument instead of the client, and declares another
one again. -/
theorem body_captured :
    ∃ method,
      capturedEndpoint.method "LessonsService" [] = .ok method ∧
        method.parameterList = "string? _httpClient, string? response" ∧
          method.statements "IClient" =
              ["var response = await _httpClient.PutAsync<string>" ++
                  "($\"/lessons?Response=\x7bresponse\x7d\");",
                "return response.Result;"] ∧
            method.Captures clientField ∧
              method.Captures responseVariable := by
  refine ⟨_, rfl, ?_, ?_, ?_, ?_⟩
  · decide +kernel
  · decide +kernel
  · decide +kernel
  · decide +kernel

end OpenApiSharp.Service
