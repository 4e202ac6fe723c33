import OpenApiSharp.CSharp.Source
import OpenApiSharp.Report
import OpenApiSharp.Service.Method

namespace OpenApiSharp.Service

open Naming CSharp

/-- The declaration of a service. -/
structure Declaration where
  tag : String
  serviceName : String
  interfacesNamespace : String
  implementationsNamespace : String
  interfaceUsings : List String
  implementationUsings : List String
  httpClient : String
  methods : List Method
  deriving DecidableEq, Repr

namespace Declaration

def className (service : Declaration) : String :=
  service.serviceName ++ "Service"

def interfaceName (service : Declaration) : String :=
  "I" ++ service.className

end Declaration

def Endpoint.typeTexts (endpoint : Endpoint) : List String :=
  endpoint.parameters.map (·.typeText) ++
    if endpoint.returnType != voidName then [endpoint.returnType] else []

def declare (serviceName tag : String) (methods : List Method) (endpoints : List Endpoint)
    (config : Config) (index : Model.NamespaceIndex) : Declaration :=
  let types := endpoints.flatMap Endpoint.typeTexts
  let clientNamespace := (config.httpClientNamespace.filter fun name => !name.isEmpty).toList
  { tag := xmlText tag
    serviceName
    interfacesNamespace := config.interfacesNamespace
    implementationsNamespace := config.implementationsNamespace
    interfaceUsings :=
      usings types config.interfacesNamespace index [collectionsNamespace, tasksNamespace]
    implementationUsings :=
      usings types config.implementationsNamespace index
        ([collectionsNamespace, tasksNamespace, config.interfacesNamespace] ++ clientNamespace ++
          if methods.any (·.clientCall.isNone) then [systemNamespace] else [])
    httpClient := config.httpClient
    methods }

/-- The return type, name and parameters of a method. -/
def Method.signature (method : Method) : String :=
  method.taskType ++ " " ++ method.name ++ "(" ++ method.parameterList ++ ")"

def Method.interfaceLines (method : Method) : List String :=
  method.docs.map indented ++ [indented (method.signature ++ ";")]

def Method.statements (method : Method) (httpClient : String) : List String :=
  match method.clientCall with
  | none =>
      ["throw new NotSupportedException(\"" ++ method.httpMethod ++ " " ++ method.urlLiteral ++
        " is not supported by " ++ httpClient ++ "\");"]
  | some call =>
      if method.returnsVoid then ["await _httpClient." ++ call ++ ";"]
      else ["var response = await _httpClient." ++ call ++ ";", "return response.Result;"]

def Method.implementationLines (method : Method) (httpClient : String) : List String :=
  "" :: method.docs.map indented ++
    [indented ("public async " ++ method.signature), indented "\x7b"] ++
    (method.statements httpClient).map (fun statement => indented (indented statement)) ++
    [indented "\x7d"]

namespace Declaration

def summary (service : Declaration) (part : String) : List String :=
  ["/// <summary>", "/// Service " ++ part ++ " for " ++ service.serviceName ++ " operations",
   "/// </summary>"]

def interfaceLines (service : Declaration) : List String :=
  header service.interfaceUsings service.interfacesNamespace ++ service.summary "interface" ++
    ["public interface " ++ service.interfaceName, "\x7b"] ++
    separated (service.methods.map Method.interfaceLines) ++ ["\x7d"]

def implementationLines (service : Declaration) : List String :=
  header service.implementationUsings service.implementationsNamespace ++
    service.summary "implementation" ++
    ["public class " ++ service.className ++ " : " ++ service.interfaceName, "\x7b",
     indented ("private readonly " ++ service.httpClient ++ " _httpClient;"),
     "",
     indented ("public " ++ service.className ++ "(" ++ service.httpClient ++ " httpClient)"),
     indented "\x7b",
     indented (indented "_httpClient = httpClient;"),
     indented "\x7d"] ++
    service.methods.flatMap (fun method => method.implementationLines service.httpClient) ++
    ["\x7d"]

/-- The two files of a service. -/
def artifacts (service : Declaration) : List Artifact :=
  [{ path := "Services/Interfaces/" ++ service.interfaceName ++ ".cs"
     content := textOfLines service.interfaceLines
     kind := "interface" },
   { path := "Services/Implementations/" ++ service.className ++ ".cs"
     content := textOfLines service.implementationLines
     kind := "implementation" }]

end Declaration

end OpenApiSharp.Service
