import OpenApiSharp.CSharp.Source
import OpenApiSharp.Document.JsonText
import OpenApiSharp.Model.Inventory
import OpenApiSharp.Schema

/-!
# Declarations of models

What is declared for each kind of definition: an enumeration with its members,
a record with its fields, a record around a single value, or an empty record.
An enumeration fails when one of its entries has no text.
-/

namespace OpenApiSharp.Model

open Document Naming Text CSharp

/-- A property of a record. -/
structure Field where
  name : String
  jsonName : String
  typeText : String
  required : Bool
  summary : List String
  deriving DecidableEq, Repr

/-- The type as it is declared: one that may be missing is nullable. -/
def Field.declaredType (field : Field) : String :=
  if field.required then field.typeText else field.typeText ++ "?"

/-- What differs between the declarations of the four kinds. -/
inductive Body where
  | enumeration (members : List String)
  | record (usings : List String) (fields : List Field)
  | wrapper (usings : List String) (valueType valueName : String)
  | fallback (usings : List String)
  deriving DecidableEq, Repr

/-- The declaration of a model. -/
structure Declaration where
  name : String
  namespaceName : String
  summary : List String
  body : Body
  deriving DecidableEq, Repr

/-- The texts of the entries of an enumeration, without blank ones. -/
def enumTexts (definition : Value) : Except JsonTextFault (List String) := do
  let entries := ((definition.get? "enum").map Value.elements).getD []
  let texts ← entries.mapM Value.asText
  return texts.filter fun text => !allBlank text

def enumMembers (owner : String) (texts : List String) : List String :=
  assign (fun text used => memberIdentifier (enumMemberName text) owner used) [] texts

/-- The properties of a record schema, by the texts of their keys. -/
def properties (definition : Value) : List (String × Value) :=
  (((definition.get? "properties").map Value.entries).getD []).map fun (key, property) =>
    (key.label, property)

def recordFields (owner : String) (definition : Value) : List Field :=
  let declared := properties definition
  let names := assign (fun rawName used => memberIdentifier rawName owner used) []
    (declared.map (·.1))
  declared.zipWith (fun (rawName, property) name =>
    { name
      jsonName := literal rawName
      typeText := Schema.typeText property
      required := Schema.isRequired property rawName definition
      summary := summaryBlock (Schema.description property) }) names

def Descriptor.body (descriptor : Descriptor) (index : NamespaceIndex) :
    Except JsonTextFault Body :=
  match descriptor.kind with
  | .enumeration => do
      let texts ← enumTexts descriptor.node
      return .enumeration (enumMembers descriptor.name texts)
  | .record =>
      let fields := recordFields descriptor.name descriptor.node
      .ok (.record
        (usings (fields.map (·.typeText)) descriptor.namespaceName index [jsonNamespace]) fields)
  | .wrapper =>
      let valueType := Schema.typeText descriptor.node
      .ok (.wrapper (usings [valueType] descriptor.namespaceName index [jsonNamespace]) valueType
        (memberIdentifier "Value" descriptor.name []))
  | .fallback => .ok (.fallback [jsonNamespace])

def Descriptor.declaration (descriptor : Descriptor) (index : NamespaceIndex) :
    Except JsonTextFault Declaration := do
  let body ← descriptor.body index
  return {
    name := descriptor.name
    namespaceName := descriptor.namespaceName
    summary := summaryBlock (Schema.description descriptor.node)
    body }

/-- The lines of enumeration members, numbered from a value on. -/
def memberLines (value : Nat) : List String → List String
  | [] => []
  | [name] => [indented (name ++ " = " ++ toString value)]
  | name :: rest =>
      indented (name ++ " = " ++ toString value ++ ",") :: memberLines (value + 1) rest

def Field.lines (field : Field) : List String :=
  field.summary.map indented ++
    [indented ("[JsonPropertyName(\"" ++ field.jsonName ++ "\")]"),
     indented ("public " ++ field.declaredType ++ " " ++ field.name ++ " \x7b get; set; \x7d" ++
       if field.required then " = default;" else "")]

/-- The summary of a model without a description of its own. -/
def fallbackSummary : List String :=
  ["/// <summary>", "/// Auto-generated fallback model", "/// </summary>"]

def Declaration.lines (declaration : Declaration) : List String :=
  let block (head : String) (members : List String) : List String :=
    [head ++ declaration.name, "\x7b"] ++ members ++ ["\x7d"]
  match declaration.body with
  | .enumeration members =>
      ["namespace " ++ declaration.namespaceName ++ ";", ""] ++ declaration.summary ++
        block "public enum " (memberLines 0 members)
  | .record usings fields =>
      header usings declaration.namespaceName ++ declaration.summary ++
        block "public record " (separated (fields.map Field.lines))
  | .wrapper usings valueType valueName =>
      header usings declaration.namespaceName ++ declaration.summary ++
        block "public record "
          [indented ("public " ++ valueType ++ " " ++ valueName ++ " \x7b get; set; \x7d")]
  | .fallback usings =>
      header usings declaration.namespaceName ++
        (if declaration.summary.isEmpty then fallbackSummary else declaration.summary) ++
        block "public record " [indented "// This is a fallback model"]

def Declaration.source (declaration : Declaration) : String :=
  textOfLines declaration.lines

def Descriptor.path (descriptor : Descriptor) : String :=
  descriptor.folder ++ "/" ++ descriptor.name ++ ".cs"

def Descriptor.generate (descriptor : Descriptor) (index : NamespaceIndex) : ItemResult :=
  match descriptor.declaration index with
  | .ok declaration =>
      .generated {
        path := descriptor.path
        content := declaration.source
        kind := descriptor.kind.text }
  | .error fault =>
      .failed descriptor.sourceName ("model generation failed: " ++ fault.message)

end OpenApiSharp.Model
