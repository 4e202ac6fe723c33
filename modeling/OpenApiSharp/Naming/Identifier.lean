import OpenApiSharp.Text.Case
import OpenApiSharp.Text.Letter

/-!
# Identifiers

Arbitrary names of a document become identifiers of the generated code.  All
characters other than letters, numerals and underscores are dropped; what
remains is cased for its place, kept apart from keywords, and numbered where
it is already in use.
-/

namespace OpenApiSharp.Naming

open Text

/-- The keywords of C#, which need a leading `@` to serve as names. -/
def keywords : List String :=
  ["abstract", "as", "base", "bool", "break", "byte", "case", "catch",
   "char", "checked", "class", "const", "continue", "decimal", "default",
   "delegate", "do", "double", "else", "enum", "event", "explicit",
   "extern", "false", "finally", "fixed", "float", "for", "foreach", "goto",
   "if", "implicit", "in", "int", "interface", "internal", "is", "lock",
   "long", "namespace", "new", "null", "object", "operator", "out",
   "override", "params", "private", "protected", "public", "readonly",
   "ref", "return", "sbyte", "sealed", "short", "sizeof", "stackalloc",
   "static", "string", "struct", "switch", "this", "throw", "true", "try",
   "typeof", "uint", "ulong", "unchecked", "unsafe", "ushort", "using",
   "virtual", "void", "volatile", "while"]

/-- The letters, numerals and underscores of a text. -/
def wordChars (raw : String) : List Char :=
  raw.toList.filter isWordChar

/-- A type name: word characters that begin with a letter. -/
def typeName (raw : String) : String :=
  match wordChars raw with
  | [] => "UnknownModel"
  | c :: rest =>
      if isLetter c then String.ofList (c :: rest)
      else "Model" ++ String.ofList (c :: rest)

/-- The type name for a name that may be missing, which counts as empty. -/
def typeNameOf (raw : Option String) : String :=
  typeName (raw.getD "")

/-- A member name: word characters, the first one capitalised. -/
def memberName (raw : String) : String :=
  match wordChars raw with
  | [] => "UnknownProperty"
  | c :: rest => String.ofList (capitalChar c ++ rest)

/-- A parameter name: word characters, the first one in lower case. -/
def parameterName (raw : String) : String :=
  match wordChars raw with
  | [] => "param"
  | c :: rest => String.ofList (lowerChar c ++ rest)

/-- A class name: letters and numerals, the first one capitalised. -/
def className (raw : String) : String :=
  match raw.toList.filter isAlphanumeric with
  | [] => "General"
  | c :: rest => String.ofList (capitalChar c ++ rest)

/-- Make a cased name legal: keywords get a leading `@`, and a leading digit
is set behind an underscore. -/
def escapeIdentifier (name : String) : String :=
  if keywords.contains name then "@" ++ name
  else if name.toList.head?.any isDigit then "_" ++ name
  else name

def numbered (name : String) (counter : Nat) : String :=
  name ++ toString counter

/-- The name itself if it is free, else the name with the least positive
counter that makes it free.  As many counters are tried as there are names in
use, which is enough when different counters are taken by different names. -/
def firstFree (isTaken : String → Bool) (inUse : Nat) (name : String) : String :=
  if isTaken name then
    (((List.range' 1 inUse).map (numbered name)).find? fun candidate =>
      !isTaken candidate).getD name
  else
    name

def uniqueName (name : String) (used : List String) : String :=
  firstFree used.contains used.length name

/-- A name whose lower-case form is not among those in use, which are in lower
case. -/
def uniqueNameIgnoringCase (name : String) (used : List String) : String :=
  firstFree (fun candidate => used.contains (lower candidate)) used.length name

/-- A member name kept apart from the type that declares it: C# forbids a
member with the name of its own type. -/
def memberNameWithin (raw owner : String) : String :=
  let name := memberName raw
  if name == owner || name == typeName owner then name ++ "Value" else name

/-- The first counter from a given one on that makes a name free, after so many
tries at most. -/
def memberCounter (name : String) (used : List String) : Nat → Nat → Nat
  | 0, counter => counter
  | tries + 1, counter =>
      if used.contains (numbered name counter) then
        memberCounter name used tries (counter + 1)
      else counter

/-- The identifier of a member of `owner` whose siblings have the names in
use. -/
def memberIdentifier (raw owner : String) (used : List String) : String :=
  let name := escapeIdentifier (memberNameWithin raw owner)
  if used.contains name then numbered name (memberCounter name used used.length 1)
  else name

/-- The member name of one entry of an enumeration, where hyphens, spaces and
full stops separate words. -/
def enumMemberName (entry : String) : String :=
  memberName (String.ofList (entry.toList.map fun c =>
    if c == '-' || c == ' ' || c == '.' then '_' else c))

/-- Names chosen one after the other, each in view of those already in use. -/
def assign {α : Type} (choose : α → List String → String) :
    List String → List α → List String
  | _, [] => []
  | used, element :: rest =>
      let name := choose element used
      name :: assign choose (name :: used) rest

end OpenApiSharp.Naming
