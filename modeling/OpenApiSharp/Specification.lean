import OpenApiSharp.Document.Value

/-!
# Specifications

A document can be generated from if it is an object with paths and with a
container of schemas, which older documents keep under `definitions` and newer
ones under `components`.
-/

namespace OpenApiSharp

open Document

/-- Why a document cannot be generated from. -/
inductive SpecificationFault where
  | rootNotObject
  | noPaths
  | noSchemas
  deriving DecidableEq, Repr

def SpecificationFault.message : SpecificationFault → String
  | rootNotObject => "document root must be an object"
  | noPaths => "document has no 'paths' object"
  | noSchemas => "document has neither 'definitions' nor 'components.schemas'"

namespace Specification

def schemaContainer? (document : Value) : Option Value :=
  match document.get? "definitions" with
  | some container => some container
  | none => (document.get? "components").bind fun components => components.get? "schemas"

def validate (document : Value) : Except SpecificationFault Value :=
  if !document.isMap then .error .rootNotObject
  else if !(document.get? "paths").any Value.isMap then .error .noPaths
  else if !(schemaContainer? document).any Value.isMap then .error .noSchemas
  else .ok document

/-- Whether a value holds nothing: no element or character, zero, or false. -/
def isVoid : Value → Bool
  | .scalar .null | .scalar (.bool false) | .scalar (.int 0) => true
  | .scalar (.float x) => x.equalsInt 0
  | .scalar (.text content) => content.isEmpty
  | .scalar (.bytes content) => content.isEmpty
  | .scalar _ | .pair _ _ => false
  | .list elements => elements.isEmpty
  | .set members => members.isEmpty
  | .map entries => entries.isEmpty

/-- The paths of a document, an empty mapping if it has none. -/
def paths (document : Value) : Value :=
  ((document.get? "paths").filter fun value => !isVoid value).getD (.map [])

/-- The schemas of a document, by the texts of their keys. -/
def schemas (document : Value) : List (String × Value) :=
  Keyed.ofList (· == ·)
    ((((schemaContainer? document).map Value.entries).getD []).map fun (key, schema) =>
      (key.label, schema))

end Specification

end OpenApiSharp
