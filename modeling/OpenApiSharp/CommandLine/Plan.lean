import OpenApiSharp.CommandLine.Request
import OpenApiSharp.Generate
import OpenApiSharp.Loading
import OpenApiSharp.Text.Printable

/-!
# Plans

What a request leads to, given the content of the document: the files that are
written, and what is printed before and after that.  Nothing is written unless
the whole run has succeeded.
-/

namespace OpenApiSharp.CommandLine

open Document Text

/-- What is printed, on the two channels. -/
structure Transcript where
  output : String := ""
  errors : String := ""
  deriving DecidableEq, Repr

/-- How a run ends. -/
inductive Ending where
  | done
  /-- The document cannot be loaded. -/
  | rejected
  /-- A key of the document has no spelling. -/
  | broken (fault : Service.KeyFault)
  deriving DecidableEq, Repr

/-- What a request leads to. -/
structure Plan where
  opening : Transcript
  /-- The files to write, in their order. -/
  files : List (String × String) := []
  closing : Transcript := {}
  ending : Ending
  deriving DecidableEq, Repr

/-- The exit code of the program after a plan has been carried out. -/
def Plan.exitCode (plan : Plan) : Nat :=
  match plan.ending with
  | .done => 0
  | .rejected | .broken _ => 1

/-- The exit code for a request that cannot be met. -/
def usageExitCode : Nat := 2

def printed (lines : List String) : String :=
  String.join (lines.map fun line => withoutControls (line ++ "\n"))

def diagnosticLines (diagnostics : List Diagnostic) : List String :=
  diagnostics.map fun diagnostic => "  ! " ++ diagnostic.text

def logged (verbose : Bool) (lines : List String) : String :=
  if verbose then String.join (lines.map (· ++ "\n")) else ""

/-- The line for the outcome of a model. -/
def modelLog (descriptor : Model.Descriptor) : ItemResult → String
  | .generated artifact =>
      "DEBUG swagsharp.codegen: Generated " ++ artifact.path ++ " (" ++ artifact.kind ++ ")"
  | _ => "DEBUG swagsharp.codegen: Model " ++ descriptor.sourceName ++ " failed"

/-- The lines for the operations of a document. -/
def surveyLog (survey : Service.Survey) : List String :=
  let skipped := survey.outcomes.filterMap fun outcome =>
    match outcome with
    | .skipped item reason =>
        some ("DEBUG swagsharp.endpoints: Skipping " ++ item ++ ": " ++ reason.message)
    | .found _ _ _ => none
  match survey.fault with
  | some _ => skipped
  | none =>
      skipped ++
        ["DEBUG swagsharp.endpoints: Found " ++ toString survey.groups.length ++ " service groups"]

def serviceLog (service : ServiceRun) : List String :=
  service.results.filterMap fun (endpoint, result) =>
    match result with
    | .ok _ => none
    | .error _ =>
        some ("DEBUG swagsharp.codegen: Method for " ++ service.tag ++ ": " ++
          endpoint.httpMethod ++ " " ++ endpoint.url.label ++ " failed")

def runLog (run : Run) : List String :=
  ["INFO swagsharp.codegen: Found " ++ toString run.descriptors.length ++ " definitions"] ++
    run.descriptors.zipWith modelLog run.models ++ surveyLog run.survey ++
    match run.survey.fault with
    | some _ => []
    | none =>
        ["INFO swagsharp.codegen: Found " ++ toString run.survey.groups.length ++
          " service groups"] ++ run.services.flatMap serviceLog

/-- The plan for a document that cannot be loaded. -/
def rejection (opening : List String) (fault : LoadFault) : Plan :=
  { opening :=
      { output := printed opening, errors := printed ["Error: " ++ fault.message] }
    ending := .rejected }

def filesBelow (output : String) (report : Report) : List (String × String) :=
  report.artifacts.map fun artifact => (Files.join output artifact.path, artifact.content)

def summaryLine (output : String) (report : Report) : String :=
  "Generated " ++ toString report.artifacts.length ++ " files in " ++ Files.normalize output ++
    " (" ++ toString report.warnings.length ++ " warnings, " ++ toString report.errors.length ++
    " errors)"

def planGenerate (verbose : Bool) (document output : String) (config : Config)
    (loaded : Except LoadFault Value) : Plan :=
  let greeting := "Parsing " ++ Files.normalize document ++ "..."
  match loaded with
  | .error fault => rejection [greeting] fault
  | .ok value =>
      let run := Run.ofDocument config value
      let opening :=
        { output := printed [greeting], errors := logged verbose (runLog run) : Transcript }
      match generate config value with
      | .error fault => { opening, ending := .broken fault }
      | .ok report =>
          { opening
            files := filesBelow output report
            closing :=
              { output := printed [summaryLine output report]
                errors := printed (diagnosticLines report.diagnostics) }
            ending := .done }

def modelLines (document : Value) : List String :=
  let categories := Naming.categorizeAll (Specification.schemas document)
  ["Models (" ++ toString (categories.flatMap (·.2)).length ++ "):"] ++
    categories.map fun (category, models) =>
      "  " ++ Naming.pluralize category ++ ": " ++ ", ".intercalate (models.map (·.1))

def serviceLines (groups : List (String × List Service.Endpoint)) : List String :=
  ["Services (" ++ toString groups.length ++ "):"] ++
    groups.map fun (tag, endpoints) =>
      "  " ++ tag ++ ": " ++ toString endpoints.length ++ " operations"

def planInspect (verbose : Bool) (loaded : Except LoadFault Value) : Plan :=
  match loaded with
  | .error fault => rejection [] fault
  | .ok value =>
      let survey := Service.survey (Specification.paths value)
      let log := logged verbose (surveyLog survey)
      match survey.fault with
      -- the models are listed before the operations are read
      | some fault =>
          { opening := { output := printed (modelLines value), errors := log }
            ending := .broken fault }
      | none =>
          { opening :=
              { output := printed (modelLines value ++ serviceLines survey.groups)
                errors := log ++ printed (diagnosticLines survey.diagnostics) }
            ending := .done }

/-- The plan for a request, given what reads the document and the content of the
file at its path. -/
def Request.plan (request : Request) (reader : Reader)
    (content : Except FileFault (List UInt8)) : Plan :=
  let loaded := reader.load request.command.document content
  match request.command with
  | .generate document output config =>
      planGenerate request.verbose document output config loaded
  | .inspect _ => planInspect request.verbose loaded

end OpenApiSharp.CommandLine
