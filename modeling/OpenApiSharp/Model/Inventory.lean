import OpenApiSharp.Keyed
import OpenApiSharp.Naming.Category
import OpenApiSharp.Report
import OpenApiSharp.Schema
import OpenApiSharp.Text.Case

/-!
# The inventory of models

Every definition is classified, named and given a namespace before anything is
emitted.  Definitions are taken category by category.  Names are unique whatever
their case, since each becomes the name of a file, and an index finds the namespace
of a model by its name in any case.
-/

namespace OpenApiSharp.Model

open Text Document Naming

/-- Namespaces by the lower-case names of models. -/
structure NamespaceIndex where
  entries : List (String × String) := []
  frozen : Bool := false
  deriving DecidableEq, Repr

/-- Why an entry was refused. -/
inductive IndexFault where
  | frozen
  deriving DecidableEq, Repr

def IndexFault.message : IndexFault → String
  | frozen => "namespace index is frozen"

namespace NamespaceIndex

def size (index : NamespaceIndex) : Nat :=
  index.entries.length

def lookup? (index : NamespaceIndex) (name : String) : Option String :=
  Keyed.find? (· == lower name) index.entries

def contains (index : NamespaceIndex) (name : String) : Bool :=
  (index.lookup? name).isSome

/-- The index with an entry for a name that has none yet. -/
def insertNew (index : NamespaceIndex) (name namespaceName : String) : NamespaceIndex :=
  if index.contains name then index
  else { index with entries := index.entries ++ [(lower name, namespaceName)] }

/-- Add an entry, unless the index is frozen. -/
def add (index : NamespaceIndex) (name namespaceName : String) :
    Except IndexFault NamespaceIndex :=
  if index.frozen then .error .frozen else .ok (index.insertNew name namespaceName)

def freeze (index : NamespaceIndex) : NamespaceIndex :=
  { index with frozen := true }

/-- The frozen index with these entries. -/
def ofList (names : List (String × String)) : NamespaceIndex :=
  let filled : NamespaceIndex :=
    names.foldl (fun index entry => index.insertNew entry.1 entry.2) {}
  filled.freeze

end NamespaceIndex

/-- A definition with all that is decided about it in advance. -/
structure Descriptor where
  name : String
  kind : Schema.Kind
  category : String
  namespaceName : String
  sourceName : String
  node : Value

def Descriptor.wrappedType? (descriptor : Descriptor) : Option String :=
  if descriptor.kind = .wrapper then some (Schema.typeText descriptor.node) else none

def categoryFolder (category : String) : String :=
  capitalizeFirst (typeName (pluralize category))

def modelNamespace (config : Config) (category : String) (kind : Schema.Kind) : String :=
  config.modelsNamespace ++ "." ++ categoryFolder category ++
    if kind = .enumeration then ".Enums" else ""

def lastOf {α : Type} (count : Nat) (elements : List α) : List α :=
  elements.drop (elements.length - count)

/-- The folder of the emitted file: the last part of the namespace, or the last
two for an enumeration. -/
def Descriptor.folder (descriptor : Descriptor) : String :=
  let parts := (pieces '.' descriptor.namespaceName.toList).map String.ofList
  "/".intercalate ("Models" :: lastOf (if descriptor.kind = .enumeration then 2 else 1) parts)

/-- A name for each source name, different from those before it in any case. -/
def modelNames (sourceNames : List String) : List String :=
  assign (fun sourceName used => uniqueNameIgnoringCase (typeName sourceName) (used.map lower))
    [] sourceNames

/-- The definitions with their categories, category by category. -/
def categorized (schemas : List (String × Value)) : List (String × String × Value) :=
  (categorizeAll schemas).flatMap fun (category, members) =>
    members.map fun (sourceName, node) => (category, sourceName, node)

def inventory (schemas : List (String × Value)) (config : Config) : List Descriptor :=
  let definitions := categorized schemas
  let names := modelNames (definitions.map fun definition => definition.2.1)
  definitions.zipWith (fun (category, sourceName, node) name =>
    let kind := Schema.classify node
    { name, kind, category, sourceName, node
      namespaceName := modelNamespace config category kind }) names

/-- The frozen index of the descriptors. -/
def indexOf (descriptors : List Descriptor) : NamespaceIndex :=
  .ofList (descriptors.map fun descriptor => (descriptor.name, descriptor.namespaceName))

/-- A warning for a definition that could not keep its own name. -/
def Descriptor.renaming (descriptor : Descriptor) : List Diagnostic :=
  let baseName := typeName descriptor.sourceName
  if descriptor.name = baseName then []
  else
    [⟨.warning, descriptor.sourceName,
      "type name " ++ baseName ++ " already used, emitted as " ++ descriptor.name⟩]

def renamings (descriptors : List Descriptor) : List Diagnostic :=
  descriptors.flatMap Descriptor.renaming

end OpenApiSharp.Model
