import OpenApiSharp.Document.Value
import OpenApiSharp.Keyed
import OpenApiSharp.Report
import OpenApiSharp.Schema
import OpenApiSharp.Text.Search

/-!
# Operations

The operations of a document become endpoints, collected by their first tag.
An operation without tags or without an identifier is skipped with a warning.
Every key of a path item is looked at, since only its spelling tells whether
it stands for a method; a key that cannot be spelled ends the search.
-/

namespace OpenApiSharp.Service

open Document Text

structure Parameter where
  name : String
  location : String
  typeText : String
  required : Bool := false
  description : String := ""
  deriving DecidableEq, Repr

/-- An endpoint.  The URL is a key of the document, so it need not be a text. -/
structure Endpoint where
  url : Scalar
  httpMethod : String
  operationId : String
  summary : String
  parameters : List Parameter
  returnType : String
  tag : String
  deriving DecidableEq, Repr

def httpMethods : List String :=
  ["get", "put", "post", "delete", "options", "head", "patch", "trace"]

/-- The parameter nodes of a path item and an operation.  A later node with the
same name and location replaces an earlier one in its place. -/
def parameterNodes (pathItem operation : Value) : List Value :=
  let declared := [pathItem, operation].flatMap fun holder =>
    ((holder.get? "parameters").map Value.elements).getD []
  (Keyed.ofList (· == ·)
    (declared.map fun node => ((node.getText? "name", node.getText? "in"), node))).map (·.2)

/-- The parameter of a node that has a name and a location. -/
def parameterOf? (node : Value) : Option Parameter :=
  match node.getText? "name", node.getText? "in" with
  | some name, some location =>
      if name.isEmpty || location.isEmpty then none
      else
        some {
          name, location
          typeText := Schema.parameterTypeText node
          required := node.isTrue "required"
          description := Schema.description node }
  | _, _ => none

def bodyParameter? (operation : Value) : Option Parameter :=
  (Schema.requestBody? operation).map fun (schema, required) =>
    { name := "body"
      location := "body"
      typeText := Schema.typeText schema
      required
      description := ((operation.get? "requestBody").map Schema.description).getD "" }

/-- The parameters of an operation, with the request body behind the others
unless one of them is a body. -/
def parametersOf (pathItem operation : Value) : List Parameter :=
  let named := (parameterNodes pathItem operation).filterMap parameterOf?
  if named.any (·.location == "body") then named
  else named ++ (bodyParameter? operation).toList

/-- The number of parameter nodes without a name or a location. -/
def namelessCount (pathItem operation : Value) : Nat :=
  (parameterNodes pathItem operation).countP fun node => (parameterOf? node).isNone

def namelessWarnings (item : String) (count : Nat) : List Diagnostic :=
  List.replicate count ⟨.warning, item, "parameter without 'name' or 'in' ignored"⟩

/-- The tag of an operation: the first of its tags that is not blank. -/
def firstTag (tags : Value) : String :=
  ((tags.elements.filterMap Value.text?).find? fun tag => !allBlank tag).getD "General"

/-- One method of a path item. -/
structure Operation where
  url : Scalar
  method : String
  node : Value
  pathItem : Value

def Operation.item (operation : Operation) : String :=
  capitals operation.method ++ " " ++ operation.url.label

/-- Why an operation is skipped. -/
inductive Skip where
  | missingKeys
  | emptyIdentifier
  deriving DecidableEq, Repr

def Skip.message : Skip → String
  | missingKeys => "missing 'tags' or 'operationId'"
  | emptyIdentifier => "empty 'operationId'"

/-- What becomes of an operation. -/
inductive Outcome where
  | skipped (item : String) (reason : Skip)
  | found (item : String) (endpoint : Endpoint) (nameless : Nat)

def Operation.outcome (operation : Operation) : Outcome :=
  match operation.node.get? "tags", operation.node.get? "operationId" with
  | some tags, some identifier =>
      match identifier.text? with
      | none | some "" => .skipped operation.item .emptyIdentifier
      | some operationId =>
          .found operation.item
            { url := operation.url
              httpMethod := capitals operation.method
              operationId
              summary := (operation.node.getText? "summary").getD ""
              parameters := parametersOf operation.pathItem operation.node
              returnType := Schema.returnTypeText operation.node
              tag := firstTag tags }
            (namelessCount operation.pathItem operation.node)
  | _, _ => .skipped operation.item .missingKeys

def Outcome.endpoint? : Outcome → Option Endpoint
  | skipped _ _ => none
  | found _ endpoint _ => some endpoint

def Outcome.diagnostics : Outcome → List Diagnostic
  | skipped item reason => [⟨.warning, item, reason.message⟩]
  | found item _ nameless => namelessWarnings item nameless

/-- A key of a path item whose kind has no spelling. -/
structure KeyFault where
  kind : String
  deriving DecidableEq, Repr

def KeyFault.message (fault : KeyFault) : String :=
  "'" ++ fault.kind ++ "' object has no attribute 'lower'"

/-- The operation under a key of a path item, if the key stands for a method. -/
def operationAt (url : Scalar) (pathItem : Value) (key : Scalar) (node : Value) :
    Except KeyFault (Option Operation) :=
  match key with
  | .text method =>
      .ok (if httpMethods.contains (lower method) then some { url, method, node, pathItem }
        else none)
  | .bytes _ => .ok none
  | other => .error ⟨other.kindName⟩

/-- What is found under the keys of all path items, in document order. -/
def pathKeys (paths : Value) : List (Except KeyFault (Option Operation)) :=
  paths.entries.flatMap fun (url, pathItem) =>
    pathItem.entries.map fun (key, node) => operationAt url pathItem key node

/-- The results before the first fault, and that fault. -/
def untilFault {ε α : Type} : List (Except ε α) → List α × Option ε
  | [] => ([], none)
  | .error fault :: _ => ([], some fault)
  | .ok result :: rest =>
      let (results, fault) := untilFault rest
      (result :: results, fault)

/-- The operations of a document that were read, and the fault that ended the
reading. -/
structure Survey where
  outcomes : List Outcome
  fault : Option KeyFault

def survey (paths : Value) : Survey :=
  let (keys, fault) := untilFault (pathKeys paths)
  { outcomes := (keys.filterMap id).map Operation.outcome, fault }

namespace Survey

/-- The endpoints by tag, in order of first arrival. -/
def groups (survey : Survey) : List (String × List Endpoint) :=
  Keyed.group (·.tag) (survey.outcomes.filterMap Outcome.endpoint?)

def diagnostics (survey : Survey) : List Diagnostic :=
  survey.outcomes.flatMap Outcome.diagnostics

/-- The survey, unless a fault ended it. -/
def complete (survey : Survey) : Except KeyFault Survey :=
  match survey.fault with
  | some fault => .error fault
  | none => .ok survey

end Survey

end OpenApiSharp.Service
