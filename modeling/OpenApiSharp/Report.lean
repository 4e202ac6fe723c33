import OpenApiSharp.Keyed
import OpenApiSharp.Naming.ServiceName

/-!
# Settings and reports

A run is made with the namespaces, the client and the parts of service names to be
dropped that a user has chosen.  It yields artifacts, the emitted files, and
diagnostics: each item is generated, skipped with a warning, or failed with an
error.
-/

namespace OpenApiSharp

/-- The settings of a generation run. -/
structure Config where
  modelsNamespace : String := "GeneratedCode.Models"
  servicesNamespace : String := "GeneratedCode.Services"
  cleanup : Naming.Cleanup := {}
  httpClient : String := "IHttpClientService"
  httpClientNamespace : Option String := none
  deriving DecidableEq, Repr

def Config.interfacesNamespace (config : Config) : String :=
  config.servicesNamespace ++ ".Interfaces"

def Config.implementationsNamespace (config : Config) : String :=
  config.servicesNamespace ++ ".Implementations"

/-- An emitted file, with its path below the output root. -/
structure Artifact where
  path : String
  content : String
  kind : String
  deriving DecidableEq, Repr

inductive Level where
  | warning
  | error
  deriving DecidableEq, Repr

def Level.text : Level → String
  | warning => "warning"
  | error => "error"

/-- A remark on one item of a run. -/
structure Diagnostic where
  level : Level
  item : String
  message : String
  deriving DecidableEq, Repr

def Diagnostic.text (diagnostic : Diagnostic) : String :=
  diagnostic.level.text ++ ": " ++ diagnostic.item ++ ": " ++ diagnostic.message

/-- The outcome of one item of a run. -/
inductive ItemResult where
  | generated (artifact : Artifact)
  | skipped (item reason : String)
  | failed (item message : String)
  deriving DecidableEq, Repr

/-- The artifacts and diagnostics of a run, in the order in which they arose. -/
structure Report where
  artifacts : List Artifact := []
  diagnostics : List Diagnostic := []
  deriving DecidableEq, Repr

namespace Report

def note (report : Report) (diagnostics : List Diagnostic) : Report :=
  { report with diagnostics := report.diagnostics ++ diagnostics }

def warn (report : Report) (item message : String) : Report :=
  report.note [⟨.warning, item, message⟩]

def record (report : Report) : ItemResult → Report
  | .generated artifact => { report with artifacts := report.artifacts ++ [artifact] }
  | .skipped item reason => report.warn item reason
  | .failed item message => report.note [⟨.error, item, message⟩]

def recordAll (report : Report) (results : List ItemResult) : Report :=
  results.foldl record report

def errors (report : Report) : List Diagnostic :=
  report.diagnostics.filter (·.level == .error)

def warnings (report : Report) : List Diagnostic :=
  report.diagnostics.filter (·.level == .warning)

/-- The content at each path.  A later artifact replaces an earlier one at the
same path. -/
def contents (report : Report) : List (String × String) :=
  Keyed.ofList (· == ·) (report.artifacts.map fun artifact => (artifact.path, artifact.content))

end Report

end OpenApiSharp
