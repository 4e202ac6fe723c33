import OpenApiSharp.CSharp.Source
import OpenApiSharp.CSharp.TypeTree
import OpenApiSharp.Naming.ServiceName
import OpenApiSharp.Report
import OpenApiSharp.Service.Operation
import OpenApiSharp.Text.Search

/-!
# Methods of services

Each endpoint of a service becomes one asynchronous method, in which the URL of the
request is written as a C# string: an interpolated one if placeholders of path
parameters or the values of query parameters stand in it, and a plain one, in which
doubled braces are single again, if there are none of these.
-/

namespace OpenApiSharp.Service

open Text CSharp Document Naming

/-- A part of a URL: one character, or a name in braces. -/
inductive UrlPart where
  | character (c : Char)
  | placeholder (name : String)
  deriving DecidableEq, Repr

def isNoBrace (c : Char) : Bool :=
  c != '\x7b' && c != '\x7d'

/-- The parts of a URL, after passing over the first `skipped` characters, which
belong to a placeholder already found. -/
def urlParts : Nat → List Char → List UrlPart
  | _, [] => []
  | skipped + 1, _ :: rest => urlParts skipped rest
  | 0, c :: rest =>
      let name := rest.takeWhile isNoBrace
      if c == '\x7b' && (rest.drop name.length).head? == some '\x7d' then
        .placeholder (String.ofList name) :: urlParts (name.length + 1) rest
      else
        .character c :: urlParts 0 rest

/-- A parameter with the identifier that it has in the method. -/
abbrev Bound := Parameter × String

/-- The identifier of the path parameter with a name, of the last one if there
are several. -/
def pathIdentifier? (bound : List Bound) (name : String) : Option String :=
  ((bound.filter fun entry =>
    entry.1.location == "path" && entry.1.name == name).getLast?).map (·.2)

def UrlPart.text (bound : List Bound) : UrlPart → String
  | character c => String.singleton c
  | placeholder name =>
      match pathIdentifier? bound name with
      | some identifier => "\x7b" ++ identifier ++ "\x7d"
      | none => "\x7b\x7b" ++ name ++ "\x7d\x7d"

/-- Whether a part of a URL stands for a path parameter. -/
def UrlPart.isInterpolated (bound : List Bound) : UrlPart → Bool
  | character _ => false
  | placeholder name => (pathIdentifier? bound name).isSome

/-- The query parameters, as names with interpolated values. -/
def queryTexts (bound : List Bound) : List String :=
  (bound.filter fun entry => entry.1.location == "query").map fun entry =>
    literal entry.1.name ++ "=\x7b" ++ entry.2 ++ "\x7d"

/-- The C# expression for a URL. -/
def urlExpression (url : String) (bound : List Bound) : String :=
  let parts := urlParts 0 (literal url).toList
  let path := String.join (parts.map (UrlPart.text bound))
  let query := queryTexts bound
  if query.isEmpty then
    if parts.any (UrlPart.isInterpolated bound) then
      "$\"" ++ path ++ "\""
    else
      -- nothing is interpolated, so the braces of placeholders need no doubles
      "\"" ++ replaceAll "\x7d\x7d" "\x7d" (replaceAll "\x7b\x7b" "\x7b" path) ++ "\""
  else
    "$\"" ++ path ++ (if occursIn "?" path then "&" else "?") ++ "&".intercalate query ++ "\""

structure Argument where
  name : String
  typeText : String
  description : String
  deriving DecidableEq, Repr

/-- The method for an endpoint. -/
structure Method where
  baseName : String
  httpMethod : String
  urlLiteral : String
  docs : List String
  arguments : List Argument
  returnType : String
  /-- The call of the client, if it offers one for the HTTP method. -/
  clientCall : Option String
  deriving DecidableEq, Repr

namespace Method

def name (method : Method) : String :=
  method.baseName ++ "Async"

def returnsVoid (method : Method) : Bool :=
  method.returnType == voidName

def taskType (method : Method) : String :=
  if method.returnsVoid then "Task" else "Task<" ++ method.returnType ++ ">"

def parameterList (method : Method) : String :=
  ", ".intercalate (method.arguments.map fun argument =>
    argument.typeText ++ " " ++ argument.name)

end Method

/-- The type of a parameter in a signature.  One that may be left out is
nullable, unless it is a container. -/
def Parameter.signatureType (parameter : Parameter) : String :=
  if !parameter.required && !isContainer parameter.typeText then parameter.typeText ++ "?"
  else parameter.typeText

def identifiers (parameters : List Parameter) : List String :=
  assign (fun parameter used => uniqueName (escapeIdentifier (parameterName parameter.name)) used)
    [] parameters

/-- The parameters of an endpoint with their identifiers. -/
def Endpoint.bound (endpoint : Endpoint) : List Bound :=
  endpoint.parameters.zip (identifiers endpoint.parameters)

/-- The parameter that is sent as the body of a request. -/
def bodyOf? (bound : List Bound) : Option Bound :=
  bound.find? fun entry => entry.1.location == "body"

/-- The call of the client for an endpoint at a URL expression. -/
def clientCall? (endpoint : Endpoint) (url : String) : Option String :=
  let resultType := if endpoint.returnType == voidName then "bool" else endpoint.returnType
  let plainCall (name : String) := name ++ "<" ++ resultType ++ ">(" ++ url ++ ")"
  let bodyCall (name : String) :=
    match bodyOf? endpoint.bound with
    | some (parameter, identifier) =>
        name ++ "<" ++ parameter.typeText ++ ", " ++ resultType ++ ">(" ++ url ++ ", " ++
          identifier ++ ")"
    | none => plainCall name
  match endpoint.httpMethod with
  | "GET" =>
      some (if endpoint.returnType == voidName then "GetAsync(" ++ url ++ ")"
        else plainCall "GetAsync")
  | "POST" => some (bodyCall "PostAsync")
  | "PUT" => some (bodyCall "PutAsync")
  | "DELETE" => some (plainCall "DeleteAsync")
  | _ => none

/-- A URL that is no text. -/
structure UrlFault where
  url : Scalar
  deriving DecidableEq, Repr

def UrlFault.message (fault : UrlFault) : String :=
  match fault.url with
  | .bytes _ => "a bytes-like object is required, not 'str'"
  | .date _ | .timestamp _ => "'str' object cannot be interpreted as an integer"
  | other => "'" ++ other.kindName ++ "' object has no attribute 'replace'"

def Endpoint.urlText (endpoint : Endpoint) : Except UrlFault String :=
  match endpoint.url with
  | .text url => .ok url
  | other => .error ⟨other⟩

def Endpoint.arguments (endpoint : Endpoint) : List Argument :=
  endpoint.bound.map fun (parameter, identifier) =>
    { name := identifier
      typeText := parameter.signatureType
      description := xmlText (singleLine parameter.description) }

/-- The method for an endpoint in a class whose methods have the base names in
use. -/
def Endpoint.method (endpoint : Endpoint) (owner : String) (used : List String) :
    Except UrlFault Method := do
  let url ← endpoint.urlText
  return {
    baseName := memberIdentifier (cleanOperationId endpoint.operationId) owner used
    httpMethod := endpoint.httpMethod
    urlLiteral := literal url
    docs := methodComment endpoint.summary
      (endpoint.arguments.map fun argument => (argument.name, argument.description))
    arguments := endpoint.arguments
    returnType := endpoint.returnType
    clientCall := clientCall? endpoint (urlExpression url endpoint.bound) }

/-- The methods of a class, each with its endpoint.  A method's name is taken
for those behind it. -/
def methodResults (owner : String) :
    List String → List Endpoint → List (Endpoint × Except UrlFault Method)
  | _, [] => []
  | used, endpoint :: rest =>
      match endpoint.method owner used with
      | .ok method =>
          (endpoint, .ok method) :: methodResults owner (method.baseName :: used) rest
      | .error fault => (endpoint, .error fault) :: methodResults owner used rest

def builtMethods (results : List (Endpoint × Except UrlFault Method)) : List Method :=
  results.filterMap fun result => result.2.toOption

/-- The remark on one endpoint of the service for a tag: an error if it has no
method, a warning if its method makes no call. -/
def methodDiagnostics (tag : String) (endpoint : Endpoint) (result : Except UrlFault Method) :
    List Diagnostic :=
  let item := tag ++ ": " ++ endpoint.httpMethod ++ " " ++ endpoint.url.label
  match result with
  | .error fault =>
      [⟨.error, item,
        "method generation failed for " ++ endpoint.operationId ++ ": " ++ fault.message⟩]
  | .ok method =>
      if method.clientCall.isNone then
        [⟨.warning, item,
          "HTTP method " ++ endpoint.httpMethod ++ " has no client call; method throws"⟩]
      else []

def resultDiagnostics (tag : String) (results : List (Endpoint × Except UrlFault Method)) :
    List Diagnostic :=
  results.flatMap fun (endpoint, result) => methodDiagnostics tag endpoint result

end OpenApiSharp.Service
