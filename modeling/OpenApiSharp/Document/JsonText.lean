import OpenApiSharp.Document.Value

/-!
# JSON texts

The one-line JSON text of a value, in ASCII: a comma and a blank between
elements, a colon and a blank behind a key.  Dates, timestamps, bytes and sets
have no JSON text.  As keys, the scalars other than these are written as the
texts of their values.
-/

namespace OpenApiSharp.Document

open Decimal Text

/-- Why a value has no JSON text. -/
inductive JsonTextFault where
  /-- A value of a kind that JSON lacks. -/
  | value (kind : String)
  /-- A key of a kind that JSON lacks. -/
  | key (kind : String)
  deriving DecidableEq, Repr

def JsonTextFault.message : JsonTextFault → String
  | value kind => "Object of type " ++ kind ++ " is not JSON serializable"
  | key kind => "keys must be str, int, float, bool or None, not " ++ kind

/-- Numbers of a JSON text are laid out like others, with names for the special
values. -/
def jsonNumbers : Layout :=
  { plainNumbers with nanText := "NaN", infinityText := "Infinity" }

def jsonCode (code : Nat) : List Char :=
  let c := Char.ofNat code
  if c == '"' || c == '\\' then ['\\', c]
  else if c == '\n' then ['\\', 'n']
  else if c == '\r' then ['\\', 'r']
  else if c == '\t' then ['\\', 't']
  else if code == 0x08 then ['\\', 'b']
  else if code == 0x0c then ['\\', 'f']
  else if 0x20 ≤ code && code ≤ 0x7e then [c]
  else if code < 0x10000 then '\\' :: 'u' :: hexDigits 4 code
  else
    let above := code - 0x10000
    '\\' :: 'u' :: hexDigits 4 (0xd800 + above / 0x400) ++
      '\\' :: 'u' :: hexDigits 4 (0xdc00 + above % 0x400)

def jsonString (text : String) : String :=
  String.ofList ('"' :: (codesOf text.toList).flatMap jsonCode ++ ['"'])

namespace Scalar

def jsonText : Scalar → Except JsonTextFault String
  | null => .ok "null"
  | bool true => .ok "true"
  | bool false => .ok "false"
  | int n => .ok (toString n)
  | float x => .ok (jsonNumbers.render x)
  | text s => .ok (jsonString s)
  | bytes _ => .error (.value "bytes")
  | date _ => .error (.value "date")
  | timestamp _ => .error (.value "datetime")

/-- The JSON text of a key: a string that holds the text of the key. -/
def jsonKey : Scalar → Except JsonTextFault String
  | text s => .ok (jsonString s)
  | bytes b => .error (.key (bytes b).kindName)
  | date d => .error (.key (date d).kindName)
  | timestamp t => .error (.key (timestamp t).kindName)
  | other => other.jsonText.map jsonString

end Scalar

namespace Value

mutual

/-- The JSON text of a value.  The first fault in document order wins, a key
before its value. -/
def jsonText : Value → Except JsonTextFault String
  | scalar value => value.jsonText
  | list elements => do
      let texts ← jsonTexts elements
      return "[" ++ ", ".intercalate texts ++ "]"
  | pair first second => do
      let firstText ← jsonText first
      let secondText ← jsonText second
      return "[" ++ firstText ++ ", " ++ secondText ++ "]"
  | set _ => .error (.value "set")
  | map entries => do
      let texts ← jsonEntries entries
      return "\x7b" ++ ", ".intercalate texts ++ "\x7d"

def jsonTexts : List Value → Except JsonTextFault (List String)
  | [] => .ok []
  | value :: rest => do
      let head ← jsonText value
      let tail ← jsonTexts rest
      return head :: tail

def jsonEntries : List (Scalar × Value) → Except JsonTextFault (List String)
  | [] => .ok []
  | (key, value) :: rest => do
      let keyText ← key.jsonKey
      let valueText ← jsonText value
      let tail ← jsonEntries rest
      return (keyText ++ ": " ++ valueText) :: tail

end

/-- A value as it appears in generated code: a text as it is, anything else as
its JSON text. -/
def asText (value : Value) : Except JsonTextFault String :=
  match value.text? with
  | some content => .ok content
  | none => value.jsonText

end Value

end OpenApiSharp.Document
