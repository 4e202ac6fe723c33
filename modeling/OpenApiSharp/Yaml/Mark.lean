import OpenApiSharp.Document.Json
import OpenApiSharp.Text.Utf8
import OpenApiSharp.Yaml.Token

namespace OpenApiSharp.Yaml

open Document Text

def nameChars (cs : List Char) : List Char :=
  cs.takeWhile isNameChar

/-- Whether the name of an anchor may end here. -/
def endsAnchor (cs : List Char) : Bool :=
  endsBefore (fun c => isSpace c || isLineBreak c || "?:,]\x7d%@`".toList.contains c) cs

/-- The name of an anchor or alias, from behind its sign on. -/
def anchorName? (cs : List Char) : Option (Lexeme String) :=
  let name := nameChars cs
  if !name.isEmpty && endsAnchor (cs.drop name.length) then
    some ⟨String.ofList name, name.length⟩
  else none

/-- A character that stands for itself in the name of a tag. -/
def isTagChar (c : Char) : Bool :=
  c.isAlphanum || "-;/?:@&=+$,_.!~*'()[]".toList.contains c

/-- The bytes that escapes at the front of a text stand for. -/
def escapedBytes? : List Char → Option (List UInt8)
  | '%' :: high :: low :: rest => do
      let byte ← Json.hexNumber? [high, low]
      let bytes ← escapedBytes? rest
      return byte.toUInt8 :: bytes
  | '%' :: _ => none
  | _ => some []

/-- The name of a tag, or a part of it, at the front of a text.  Escapes in a row
are decoded together. -/
def tagChars? : List Char → Option (Lexeme (List Char))
  | [] => some ⟨[], 0⟩
  | c :: rest => do
      if c == '%' then
        let bytes ← escapedBytes? (c :: rest)
        let meant ← (Utf8.decode bytes).toOption
        let tail ← tagChars? (rest.drop (3 * bytes.length - 1))
        return ⟨meant ++ tail.value, 3 * bytes.length + tail.length⟩
      else if isTagChar c then
        let tail ← tagChars? rest
        return ⟨c :: tail.value, 1 + tail.length⟩
      else
        return ⟨[], 0⟩
termination_by cs => cs.length
decreasing_by
  all_goals simp only [List.length_drop, List.length_cons]; omega

/-- The name of a tag, or a part of it, that is not empty. -/
def tagName? (cs : List Char) : Option (Lexeme String) := do
  let name ← tagChars? cs
  if name.length = 0 then none else return ⟨String.ofList name.value, name.length⟩

/-- The handle at the front of a text: an exclamation mark, or a name between
two of them. -/
def tagHandle? : List Char → Option (Lexeme String)
  | '!' :: rest =>
      let name := nameChars rest
      if rest.head? == some ' ' then some ⟨"!", 1⟩
      else if (rest.drop name.length).head? == some '!' then
        some ⟨String.ofList ('!' :: name ++ ['!']), name.length + 2⟩
      else none
  | _ => none

/-- The tag at the front of a text, whatever follows. -/
def tagText? (cs : List Char) : Option (Lexeme TagText) :=
  match cs.tail with
  | '<' :: rest => do
      let name ← tagName? rest
      if (rest.drop name.length).head? == some '>' then
        return ⟨.whole name.value, name.length + 3⟩
      else none
  | rest => do
      if atSpace rest then return ⟨.whole "!", 1⟩
      else
        let hasHandle :=
          (rest.takeWhile fun c => c != ' ' && !isLineBreak c).contains '!'
        let handle ← if hasHandle then tagHandle? cs else some ⟨"!", 1⟩
        let name ← tagName? (cs.drop handle.length)
        return ⟨.short handle.value name.value, handle.length + name.length⟩

/-- The tag at the front of a text, which has to be followed by a blank. -/
def tag? (cs : List Char) : Option (Lexeme TagText) :=
  (tagText? cs).filter fun tag => atBlank (cs.drop tag.length)

def versionPart? (cs : List Char) : Option (Lexeme Nat) :=
  let digits := cs.takeWhile Char.isDigit
  if digits.isEmpty then none else some ⟨Json.decimalNumber digits, digits.length⟩

def blankCount (cs : List Char) : Nat :=
  (cs.takeWhile (· == ' ')).length

/-- A version number: two numbers with a point between them. -/
def version? (cs : List Char) : Option (Lexeme Directive) := do
  let skipped := blankCount cs
  let major ← versionPart? (cs.drop skipped)
  let behind := cs.drop (skipped + major.length)
  if behind.head? != some '.' then none
  let minor ← versionPart? behind.tail
  if atBlank (behind.drop (1 + minor.length)) then
    return ⟨.version major.value minor.value, skipped + major.length + 1 + minor.length⟩
  else none

/-- A handle with the beginning of a name that it stands for. -/
def handle? (cs : List Char) : Option (Lexeme Directive) := do
  let skipped := blankCount cs
  let handle ← tagHandle? (cs.drop skipped)
  let behind := cs.drop (skipped + handle.length)
  if behind.head? != some ' ' then none
  let blanks := blankCount behind
  let name ← tagName? (behind.drop blanks)
  if atBlank (behind.drop (blanks + name.length)) then
    return ⟨.handle handle.value name.value,
      skipped + handle.length + blanks + name.length⟩
  else none

/-- The rest of a directive, from behind its name on. -/
def directiveBody? (name : String) (cs : List Char) : Option (Lexeme Directive) :=
  match name with
  | "YAML" => version? cs
  | "TAG" => handle? cs
  | _ => some ⟨.other name, (cs.takeWhile fun c => !isLineBreak c).length⟩

/-- A directive with its line, from behind its sign on. -/
def directive? (cs : List Char) : Option (Lexeme Directive) := do
  let name := nameChars cs
  let behind := cs.drop name.length
  if name.isEmpty || !atBlank behind then none
  let body ← directiveBody? (String.ofList name) behind
  let tail ← lineTail? (behind.drop body.length)
  return ⟨body.value, name.length + body.length + tail⟩

end OpenApiSharp.Yaml
