import OpenApiSharp.Text.Search

/-!
# Types of the generated code

A type is a named one, a list of a named one, or a dictionary from strings to
any type.  Types also occur as plain texts, and the names of models are found
in such a text by looking for identifiers.
-/

namespace OpenApiSharp.CSharp

open Text

/-- A type of the generated code. -/
inductive TypeTree where
  | leaf (name : String)
  | list (element : String)
  | dictionary (value : TypeTree)
  deriving DecidableEq, Repr

def objectName : String := "object"

def voidName : String := "void"

namespace TypeTree

def text : TypeTree → String
  | leaf name => name
  | list element => "List<" ++ element ++ ">"
  | dictionary value => "Dictionary<string, " ++ value.text ++ ">"

/-- The names at the leaves, from left to right, without those of the generic
types themselves and of dictionary keys. -/
def leaves : TypeTree → List String
  | leaf name => [name]
  | list element => [element]
  | dictionary value => value.leaves

end TypeTree

/-- Names that never stand for a generated model. -/
def builtinNames : List String :=
  ["string", "int", "long", "decimal", "float", "double", "bool", "byte",
   "short", "char", "object", "void", "DateTime", "Guid", "List",
   "Dictionary", "Task"]

def isIdentifierStart (c : Char) : Bool :=
  c.isAlpha || c == '_'

def isIdentifierPart (c : Char) : Bool :=
  c.isAlphanum || c == '_'

/-- The ASCII identifiers in a text, after passing over the first `skipped`
characters, which belong to an identifier already found. -/
def identifiersFrom : Nat → List Char → List (List Char)
  | _, [] => []
  | skipped + 1, _ :: rest => identifiersFrom skipped rest
  | 0, c :: rest =>
      if isIdentifierStart c then
        let tail := rest.takeWhile isIdentifierPart
        (c :: tail) :: identifiersFrom tail.length rest
      else
        identifiersFrom 0 rest

/-- The names of models that a type text mentions, each once, in order of first
occurrence. -/
def referencedNames (typeText : String) : List String :=
  (((identifiersFrom 0 typeText.toList).map String.ofList).filter fun name =>
    !builtinNames.contains name).eraseDups

def isContainer (typeText : String) : Bool :=
  beginsWith "List<" typeText || beginsWith "Dictionary<" typeText

end OpenApiSharp.CSharp
