import OpenApiSharp.Decimal
import OpenApiSharp.Document.Scalar
import OpenApiSharp.Text.Case
import OpenApiSharp.Text.Search
import OpenApiSharp.Yaml.Graph
import OpenApiSharp.Yaml.Token

/-!
# The values of scalars

A plain text can stand for a number, a truth value, a date or nothing.  Its
form decides for which; a text with a tag of its own is read as that tag says,
which allows more forms.
-/

namespace OpenApiSharp.Yaml

open Decimal Document Text

/-- A digit, or the underscore that may stand between digits. -/
def isSpacedDigit (c : Char) : Bool :=
  c.isDigit || c == '_'

/-- Digits with underscores between or behind them. -/
def isSpacedNumber : List Char → Bool
  | [] => false
  | c :: rest => c.isDigit && rest.all isSpacedDigit

/-- A number below sixty, with one or two digits. -/
def isSixtieth : List Char → Bool
  | [c] => c.isDigit
  | [c, d] => '0' ≤ c && c ≤ '5' && d.isDigit
  | _ => false

/-- A number in base sixty, with colons between its digits. -/
def isSexagesimal (cs : List Char) : Bool :=
  match pieces ':' cs with
  | first :: second :: more => isSpacedNumber first && (second :: more).all isSixtieth
  | _ => false

def isBoolForm (cs : List Char) : Bool :=
  ["yes", "Yes", "YES", "no", "No", "NO", "true", "True", "TRUE", "false", "False", "FALSE",
   "on", "On", "ON", "off", "Off", "OFF"].contains (String.ofList cs)

def isNullForm (cs : List Char) : Bool :=
  ["~", "null", "Null", "NULL"].contains (String.ofList cs)

/-- The form of integers, in one of five bases. -/
def isIntForm (cs : List Char) : Bool :=
  match (splitSign cs).2 with
  | ['0'] => true
  | '0' :: 'b' :: digits => !digits.isEmpty && digits.all fun c => "01_".toList.contains c
  | '0' :: 'x' :: digits =>
      !digits.isEmpty && digits.all fun c => "0123456789abcdefABCDEF_".toList.contains c
  | '0' :: digits => !digits.isEmpty && digits.all fun c => "01234567_".toList.contains c
  | unsigned => isSpacedNumber unsigned || isSexagesimal unsigned

/-- Decimal places with an exponent that has a sign, or without one. -/
def isScaled (cs : List Char) : Bool :=
  let places := cs.takeWhile isSpacedDigit
  match cs.drop places.length with
  | [] => true
  | e :: sign :: digits =>
      (e == 'e' || e == 'E') && (sign == '-' || sign == '+') && !digits.isEmpty &&
        digits.all Char.isDigit
  | _ => false

def isFloatForm (cs : List Char) : Bool :=
  let unsigned := (splitSign cs).2
  let whole := unsigned.takeWhile (· != '.')
  match unsigned.drop whole.length with
  | [] => false
  | _ :: places =>
      if whole.isEmpty then
        ["inf", "Inf", "INF"].contains (String.ofList places) ||
          (unsigned == cs &&
            (["nan", "NaN", "NAN"].contains (String.ofList places) ||
              ((places.head?.any Char.isDigit) && isScaled places)))
      else
        (isSpacedNumber whole && isScaled places) ||
          (isSexagesimal whole && places.all isSpacedDigit)

/-- A number at the front of a text, with digits of a certain count. -/
def digits? (least most : Nat) (cs : List Char) : Option (Nat × List Char) :=
  let digits := (cs.take most).takeWhile Char.isDigit
  if least ≤ digits.length then
    (digitsNumber? 10 digits).map fun number => (number, cs.drop digits.length)
  else none

def behind? (sign : Char) : List Char → Option (List Char)
  | c :: rest => if c == sign then some rest else none
  | [] => none

/-- The date at the front of a text. -/
def date? (cs : List Char) : Option (Date × List Char) := do
  let (year, cs) ← digits? 4 4 cs
  let cs ← behind? '-' cs
  let (month, cs) ← digits? 1 2 cs
  let cs ← behind? '-' cs
  let (day, cs) ← digits? 1 2 cs
  return (⟨year, month, day⟩, cs)

def behindSeparator? : List Char → Option (List Char)
  | [] => none
  | c :: rest =>
      if c == 'T' || c == 't' then some rest
      else if isSpace c then some (rest.dropWhile isSpace)
      else none

/-- The fraction of a second at the front of a text, in millionths. -/
def fraction : List Char → Nat × List Char
  | '.' :: rest =>
      let digits := rest.takeWhile Char.isDigit
      let kept := (digits ++ List.replicate 6 '0').take 6
      ((digitsNumber? 10 kept).getD 0, rest.drop digits.length)
  | cs => (0, cs)

/-- The offset from universal time, in minutes, that ends a text. -/
def offset? (cs : List Char) : Option (Option Int) :=
  match cs, cs.dropWhile isSpace with
  | [], _ => some none
  | _, ['Z'] => some (some 0)
  | _, sign :: rest => do
      if sign != '-' && sign != '+' then none
      let (hours, rest) ← digits? 1 2 rest
      let (minutes, rest) ←
        if rest.isEmpty then some (0, [])
        else do digits? 2 2 (← behind? ':' rest)
      if !rest.isEmpty then none
      let size : Int := hours * 60 + minutes
      return some (if sign == '-' then -size else size)
  | _, [] => none

/-- The date or the timestamp that a text has the form of, be it in the calendar or
not. -/
def moment? (cs : List Char) : Option Scalar := do
  let (date, cs) ← date? cs
  if cs.isEmpty then return .date date
  let cs ← behindSeparator? cs
  let (hour, cs) ← digits? 1 2 cs
  let cs ← behind? ':' cs
  let (minute, cs) ← digits? 2 2 cs
  let cs ← behind? ':' cs
  let (second, cs) ← digits? 2 2 cs
  let (microsecond, cs) := fraction cs
  let offset ← offset? cs
  return .timestamp { date, hour, minute, second, microsecond, offset }

/-- The form of dates and timestamps.  A date alone has ten characters. -/
def isMomentForm (cs : List Char) : Bool :=
  match moment? cs with
  | some (.date _) => cs.length == 10
  | some _ => true
  | none => false

def withoutFinalBreak (cs : List Char) : List Char :=
  if cs.getLast? == some '\n' then cs.dropLast else cs

/-- The tag of a text that shows by its form what it stands for.  A line feed at
its end does not count. -/
def impliedTag (content : String) : Tag :=
  let cs := withoutFinalBreak content.toList
  if content.isEmpty || isNullForm cs then .null
  else if isBoolForm cs then .bool
  else if isFloatForm cs then .float
  else if isIntForm cs then .int
  else if cs == "<<".toList then .merge
  else if cs == "=".toList then .main
  else if isMomentForm cs then .timestamp
  else .text

def boolValue? (content : String) : Option Bool :=
  match lower content with
  | "yes" | "true" | "on" => some true
  | "no" | "false" | "off" => some false
  | _ => none

/-- The number written in base sixty, with colons between its digits. -/
def sexagesimal? (cs : List Char) : Option Int :=
  ((pieces ':' cs).mapM (integer? 10)).map fun digits =>
    digits.foldl (fun number digit => number * 60 + digit) 0

/-- The integer of a text without a sign and without underscores. -/
def unsignedInt? : List Char → Option Int
  | [] => none
  | ['0'] => some 0
  | '0' :: 'b' :: digits => integer? 2 digits
  | '0' :: 'x' :: digits => integer? 16 digits
  | '0' :: digits => integer? 8 ('0' :: digits)
  | digits => sexagesimal? digits

/-- The integer of a text without underscores. -/
def intValue? (cs : List Char) : Option Int :=
  let (isNegative, unsigned) := splitSign cs
  (unsignedInt? unsigned).map fun size => if isNegative then -size else size

/-- The sum of the digits in base sixty, the last one first, from a place on. -/
def sexagesimalSum (sum : Float) (place : Nat) : List Binary64 → Option Float
  | [] => some sum
  | digit :: rest =>
      let weight := Binary64.ofDecimal place 0
      if weight.isInfinite then none
      else sexagesimalSum (sum + digit.toFloat * weight.toFloat) (place * 60) rest

/-- The double of a text in lower case, without a sign and without underscores. -/
def unsignedFloat? (cs : List Char) : Option Binary64 :=
  if cs.isEmpty then none
  else if cs == ".inf".toList then some .infinity
  else if cs == ".nan".toList then some .nan
  else if cs.contains ':' then
    ((pieces ':' cs).mapM number?).bind fun digits =>
      (sexagesimalSum 0 1 digits.reverse).map .ofFloat
  else number? cs

/-- The double of a text in lower case and without underscores. -/
def floatValue? (cs : List Char) : Option Binary64 :=
  let (isNegative, unsigned) := splitSign cs
  (unsignedFloat? unsigned).map fun size => if isNegative then size.negate else size

/-- A text for a double, in lower case and without underscores. -/
def floatText (content : String) : List Char :=
  (lower (String.ofList (content.toList.filter (· != '_')))).toList

/-- Whether a value is no number without being written by the name for that. -/
def isNameless (value : Scalar) (content : String) : Bool :=
  match value with
  | .float x => x.isNaN && (splitSign (floatText content)).2 != ".nan".toList
  | _ => false

def bytesValue? (content : String) : Option (List UInt8) :=
  if content.toList.all fun c => decide (c.toNat < 0x80) then Base64.decode? content.toList
  else none

/-- The date or timestamp of a text, if it is in the calendar. -/
def momentValue? (content : String) : Option Scalar :=
  match moment? (withoutFinalBreak content.toList) with
  | some (.date date) => if date.isValid then some (.date date) else none
  | some (.timestamp time) => if time.isValid then some (.timestamp time) else none
  | _ => none

/-- The value that a text stands for under a tag. -/
def scalarValue? (tag : Tag) (content : String) : Option Scalar :=
  match tag with
  | .null => some .null
  | .bool => (boolValue? content).map .bool
  | .int => (intValue? (content.toList.filter (· != '_'))).map .int
  | .float => (floatValue? (floatText content)).map .float
  | .bytes => (bytesValue? content).map .bytes
  | .timestamp => momentValue? content
  | .text => some (.text content)
  | _ => none

end OpenApiSharp.Yaml
