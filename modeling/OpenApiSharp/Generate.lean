import OpenApiSharp.Model.Declaration
import OpenApiSharp.Service.Declaration
import OpenApiSharp.Service.Operation
import OpenApiSharp.Specification

/-!
# Generation

The models of a document are generated first, then its services.  A failure in
one item is reported and never stops the others.
-/

namespace OpenApiSharp

open Document Naming Text

/-- A service of a run. -/
structure ServiceRun where
  tag : String
  baseName : String
  name : String
  results : List (Service.Endpoint × Except Service.UrlFault Service.Method)
  declaration : Service.Declaration

/-- The names of the services for these tags, different in any case. -/
def serviceNames (cleanup : Cleanup) (tags : List String) : List String :=
  assign (fun tag used => uniqueNameIgnoringCase (serviceBaseName tag cleanup) (used.map lower))
    [] tags

def ServiceRun.ofEndpoints (config : Config) (index : Model.NamespaceIndex)
    (group : String × List Service.Endpoint) (name : String) : ServiceRun :=
  let results := Service.methodResults (name ++ "Service") [] group.2
  { tag := group.1
    baseName := serviceBaseName group.1 config.cleanup
    name
    results
    declaration :=
      Service.declare name group.1 (Service.builtMethods results) group.2 config index }

/-- The remarks on a service: that it could not keep its name, then those on its
endpoints. -/
def ServiceRun.diagnostics (service : ServiceRun) : List Diagnostic :=
  (if service.name = service.baseName then []
    else
      [⟨.warning, service.tag,
        "service name " ++ service.baseName ++ " already used, emitted as " ++ service.name⟩]) ++
    Service.resultDiagnostics service.tag service.results

/-- All that a run over a document works out.  The services are those of the
operations that were read. -/
structure Run where
  descriptors : List Model.Descriptor
  models : List ItemResult
  survey : Service.Survey
  services : List ServiceRun

def Run.ofDocument (config : Config) (document : Value) : Run :=
  let descriptors := Model.inventory (Specification.schemas document) config
  let index := Model.indexOf descriptors
  let survey := Service.survey (Specification.paths document)
  let groups := survey.groups
  { descriptors
    models := descriptors.map fun descriptor => descriptor.generate index
    survey
    services := groups.zipWith (ServiceRun.ofEndpoints config index)
      (serviceNames config.cleanup (groups.map (·.1))) }

def Run.report (run : Run) : Report :=
  let models := (({} : Report).note (Model.renamings run.descriptors)).recordAll run.models
  run.services.foldl
    (fun report service =>
      (report.note service.diagnostics).recordAll
        (service.declaration.artifacts.map .generated))
    (models.note run.survey.diagnostics)

/-- Generate models and services for a document.  A key that is no possible
spelling of a method ends the run. -/
def generate (config : Config) (document : Value) : Except Service.KeyFault Report :=
  let run := Run.ofDocument config document
  match run.survey.fault with
  | some fault => .error fault
  | none => .ok run.report

end OpenApiSharp
