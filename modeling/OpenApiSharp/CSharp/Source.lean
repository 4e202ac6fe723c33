import OpenApiSharp.CSharp.TypeTree
import OpenApiSharp.Model.Inventory
import OpenApiSharp.Text.Search

/-!
# Source texts

A source file is a list of lines, and every line ends with a line feed, the last
one included.  Descriptions become comments, whose lines begin with three slashes.
Of the namespaces that a file imports those of the system come first.
-/

namespace OpenApiSharp.CSharp

open Text

/-- The characters between the quotes of the literal for a text. -/
def literal (text : String) : String :=
  replaceAll "\"" "\\\"" (replaceAll "\\" "\\\\" text)

def xmlChar (c : Char) : List Char :=
  if c == '&' then "&amp;".toList
  else if c == '<' then "&lt;".toList
  else if c == '>' then "&gt;".toList
  else [c]

def xmlText (text : String) : String :=
  String.ofList (text.toList.flatMap xmlChar)

def commentLine (line : String) : String :=
  if line.isEmpty then "///" else "/// " ++ xmlText line

/-- The summary comment for a description: nothing if it is blank, else its
lines between the summary tags. -/
def summaryBlock (description : String) : List String :=
  if allBlank description then []
  else
    "/// <summary>" :: (trimmedLines (trim description)).map commentLine ++ ["/// </summary>"]

/-- A description on one line: its lines that are not blank, joined by single
spaces. -/
def singleLine (description : String) : String :=
  " ".intercalate ((trimmedLines description).filter fun line => !line.isEmpty)

/-- A name without leading at signs. -/
def withoutAt (name : String) : String :=
  String.ofList (name.toList.dropWhile (· == '@'))

def parameterLine (name description : String) : String :=
  "/// <param name=\"" ++ withoutAt name ++ "\">" ++ description ++ "</param>"

/-- The comment of a method: its summary, and a line for each named parameter
that has a description. -/
def methodComment (summary : String) (parameters : List (String × String)) : List String :=
  summaryBlock summary ++
    (parameters.filter fun parameter => !parameter.2.isEmpty).map fun parameter =>
      parameterLine parameter.1 parameter.2

def systemNamespace : String := "System"

def collectionsNamespace : String := "System.Collections.Generic"

def tasksNamespace : String := "System.Threading.Tasks"

def jsonNamespace : String := "System.Text.Json.Serialization"

/-- Put a name into its place in a strictly increasing list. -/
def insertName (name : String) : List String → List String
  | [] => [name]
  | head :: rest =>
      if name < head then name :: head :: rest
      else if name = head then head :: rest
      else head :: insertName name rest

/-- The names in increasing order, each once. -/
def sortNames (names : List String) : List String :=
  names.foldr insertName []

def isSystem (name : String) : Bool :=
  name == systemNamespace || beginsWith "System." name

/-- The namespaces that one type needs in a file of the given namespace. -/
def namespacesOf (ownNamespace : String) (index : Model.NamespaceIndex) (typeText : String) :
    List String :=
  (if occursIn "DateTime" typeText then [systemNamespace] else []) ++
    (if occursIn "<" typeText then [collectionsNamespace] else []) ++
    ((referencedNames typeText).filterMap index.lookup?).filter fun name =>
      !name.isEmpty && name != ownNamespace

/-- The namespaces to import for some types, together with those that are needed
in any case. -/
def usings (types : List String) (ownNamespace : String) (index : Model.NamespaceIndex)
    (always : List String) : List String :=
  let names := sortNames (always ++ types.flatMap (namespacesOf ownNamespace index))
  names.filter isSystem ++ names.filter fun name => !isSystem name

def textOfLines (lines : List String) : String :=
  String.join (lines.map fun line => line ++ "\n")

def indented (line : String) : String :=
  "    " ++ line

/-- The using directives at the head of a file, followed by the line that gives
its namespace. -/
def header (usings : List String) (namespaceName : String) : List String :=
  usings.map (fun name => "using " ++ name ++ ";") ++ ["", "namespace " ++ namespaceName ++ ";", ""]

/-- Groups of lines with an empty line between each and the next. -/
def separated : List (List String) → List String
  | [] => []
  | [group] => group
  | group :: rest => group ++ "" :: separated rest

end OpenApiSharp.CSharp
