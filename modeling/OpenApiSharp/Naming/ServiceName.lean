import OpenApiSharp.Naming.Identifier
import OpenApiSharp.Text.Search

namespace OpenApiSharp.Naming

open Text

/-- The operation identifier up to the first `using`, in any case.  One that
begins with it is kept whole. -/
def cleanOperationId (operationId : String) : String :=
  match indexOf? "using".toList (lower operationId).toList with
  | some (position + 1) => String.ofList (operationId.toList.take (position + 1))
  | _ => operationId

/-- Whether a character is the given lower-case letter in any case.  The long
s counts as an s. -/
def isLetterIgnoringCase (letter c : Char) : Bool :=
  c == letter || c == letter.toUpper || (letter == 's' && c == 'ſ')

/-- The length of the word `resource` at the start of a text, or zero. -/
def resourceLength (cs : List Char) : Nat :=
  let word := "resource".toList
  if word.length ≤ cs.length &&
      (word.zip cs).all fun (letter, c) => isLetterIgnoringCase letter c then
    word.length
  else
    0

/-- The length of a version token at the start of a text, or zero: a v and all
the decimal digits behind it, at least one. -/
def versionLength : List Char → Nat
  | c :: rest =>
      if isLetterIgnoringCase 'v' c then
        match rest.takeWhile isDecimal with
        | [] => 0
        | digits => digits.length + 1
      else
        0
  | [] => 0

/-- The parts of a service name that are dropped. -/
structure Cleanup where
  removeResource : Bool := true
  removeVersion : Bool := true
  deriving DecidableEq, Repr

/-- The length of the part at the start of a text that is dropped, or zero. -/
def Cleanup.tokenLength (cleanup : Cleanup) (cs : List Char) : Nat :=
  match if cleanup.removeResource then resourceLength cs else 0 with
  | 0 => if cleanup.removeVersion then versionLength cs else 0
  | length => length

/-- Drop the tokens of a text, after passing over the first `skipped`
characters, which belong to a token already found. -/
def Cleanup.dropTokens (cleanup : Cleanup) : Nat → List Char → List Char
  | _, [] => []
  | skipped + 1, _ :: rest => cleanup.dropTokens skipped rest
  | 0, c :: rest =>
      match cleanup.tokenLength (c :: rest) with
      | 0 => c :: cleanup.dropTokens 0 rest
      | length + 1 => cleanup.dropTokens length rest

/-- The name without tokens.  The first character is never touched. -/
def cleanInterfaceName (name : String) (cleanup : Cleanup) : String :=
  match name.toList with
  | [] => ""
  | c :: rest => String.ofList (c :: cleanup.dropTokens 0 rest)

def serviceBaseName (tag : String) (cleanup : Cleanup) : String :=
  let cleaned := cleanInterfaceName (className tag) cleanup
  if cleaned.isEmpty then "General" else cleaned

end OpenApiSharp.Naming
