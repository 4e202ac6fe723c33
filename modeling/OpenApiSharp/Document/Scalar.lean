import OpenApiSharp.Decimal
import OpenApiSharp.Text.CodePoint

/-!
# Scalars

The atomic values of a document, which are also the keys of its mappings: truth
values, numbers, texts, and the dates, timestamps and bytes of YAML with the texts
in which they are written.
-/

namespace OpenApiSharp.Document.Base64

/-- The six bits that a character of the alphabet stands for. -/
def bits? (c : Char) : Option Nat :=
  if 'A' ≤ c ∧ c ≤ 'Z' then some (c.toNat - 'A'.toNat)
  else if 'a' ≤ c ∧ c ≤ 'z' then some (c.toNat - 'a'.toNat + 26)
  else if '0' ≤ c ∧ c ≤ '9' then some (c.toNat - '0'.toNat + 52)
  else if c == '+' then some 62
  else if c == '/' then some 63
  else none

/-- The bytes of the rest of a text.  The current group has `filled` characters,
whose bits not yet written are `left`, and `padding` equality signs. -/
def decodeFrom (filled left padding : Nat) : List Char → Option (List UInt8)
  | [] => if filled = 0 then some [] else none
  | c :: rest =>
      if c == '=' then
        if 2 ≤ filled && 4 ≤ filled + padding + 1 then some []
        else decodeFrom filled left (if 2 ≤ filled then padding + 1 else padding) rest
      else
        match bits? c with
        | none => decodeFrom filled left padding rest
        | some bits =>
            match filled with
            | 0 => decodeFrom 1 bits 0 rest
            | 1 => (decodeFrom 2 (bits % 16) 0 rest).map ((left * 4 + bits / 16).toUInt8 :: ·)
            | 2 => (decodeFrom 3 (bits % 4) 0 rest).map ((left * 16 + bits / 4).toUInt8 :: ·)
            | _ => (decodeFrom 0 0 0 rest).map ((left * 64 + bits).toUInt8 :: ·)

/-- The bytes that a text stands for, if its last group is complete. -/
def decode? (text : List Char) : Option (List UInt8) :=
  decodeFrom 0 0 0 text

end OpenApiSharp.Document.Base64

namespace OpenApiSharp.Document

open Decimal Text

structure Date where
  year : Nat
  month : Nat
  day : Nat
  deriving DecidableEq, Repr

/-- A day with a time, and the distance from universal time in minutes where one
is given. -/
structure Timestamp where
  date : Date
  hour : Nat
  minute : Nat
  second : Nat
  microsecond : Nat
  offset : Option Int
  deriving DecidableEq, Repr

/-- The decimal digits of a number, set out to a width with leading zeros. -/
def padded (width n : Nat) : String :=
  let digits := Nat.toDigits 10 n
  String.ofList (List.replicate (width - digits.length) '0' ++ digits)

namespace Date

def isLeap (year : Nat) : Bool :=
  year % 4 == 0 && (year % 100 != 0 || year % 400 == 0)

def daysInMonth (year month : Nat) : Nat :=
  if month = 2 then (if isLeap year then 29 else 28)
  else if month = 4 ∨ month = 6 ∨ month = 9 ∨ month = 11 then 30
  else 31

def isValid (date : Date) : Bool :=
  1 ≤ date.year && date.year ≤ 9999 && 1 ≤ date.month && date.month ≤ 12 &&
    1 ≤ date.day && date.day ≤ daysInMonth date.year date.month

/-- The number of days since the beginning of the calendar. -/
def dayNumber (date : Date) : Nat :=
  let before := date.year - 1
  365 * before + before / 4 - before / 100 + before / 400 +
    (List.range' 1 (date.month - 1)).foldl (fun days month => days + daysInMonth date.year month)
      date.day

def text (date : Date) : String :=
  padded 4 date.year ++ "-" ++ padded 2 date.month ++ "-" ++ padded 2 date.day

end Date

namespace Timestamp

def isValid (time : Timestamp) : Bool :=
  time.date.isValid && time.hour < 24 && time.minute < 60 && time.second < 60 &&
    time.microsecond < 1000000 && time.offset.all fun minutes => minutes.natAbs < 24 * 60

/-- The point in time, in microseconds, of a timestamp with this offset. -/
def instant (time : Timestamp) (offset : Int) : Int :=
  ((((time.date.dayNumber * 24 + time.hour) * 60 + time.minute : Nat) : Int) - offset) *
      60000000 +
    (time.second * 1000000 + time.microsecond : Nat)

/-- Timestamps with offsets are equal as points in time; one without an offset
equals only its like. -/
def same (left right : Timestamp) : Bool :=
  match left.offset, right.offset with
  | some leftOffset, some rightOffset => left.instant leftOffset == right.instant rightOffset
  | none, none => left == right
  | _, _ => false

/-- The text of a timestamp, with a separator between the date and the time.
A fraction is written in six places, and only if it is not zero. -/
def text (separator : String) (time : Timestamp) : String :=
  time.date.text ++ separator ++ padded 2 time.hour ++ ":" ++ padded 2 time.minute ++ ":" ++
    padded 2 time.second ++
    (if time.microsecond = 0 then "" else "." ++ padded 6 time.microsecond) ++
    match time.offset with
    | none => ""
    | some minutes =>
        (if minutes < 0 then "-" else "+") ++ padded 2 (minutes.natAbs / 60) ++ ":" ++
          padded 2 (minutes.natAbs % 60)

end Timestamp

/-- An atomic value. -/
inductive Scalar where
  | null
  | bool (value : Bool)
  | int (value : Int)
  | float (value : Binary64)
  | text (value : String)
  | bytes (value : List UInt8)
  | date (value : Date)
  | timestamp (value : Timestamp)
  deriving DecidableEq, Repr

/-- Numbers outside of JSON texts have a point or an exponent, which begins at
`10 ^ 16` and below `10 ^ -4`. -/
def plainNumbers : Layout where
  plainFrom := -4
  plainBelow := 16
  nanText := "nan"
  infinityText := "inf"

/-- A byte inside quotes, escaped unless it is printable. -/
def quotedByte (quote : Char) (byte : UInt8) : List Char :=
  let c := Char.ofNat byte.toNat
  if c == quote || c == '\\' then ['\\', c]
  else if c == '\t' then ['\\', 't']
  else if c == '\n' then ['\\', 'n']
  else if c == '\r' then ['\\', 'r']
  else if byte < 0x20 || 0x7f ≤ byte then
    '\\' :: 'x' :: hexDigits 2 byte.toNat
  else [c]

/-- Bytes in single quotes behind a `b`, or in double quotes when a single quote
and no double quote is among them. -/
def bytesLabel (bytes : List UInt8) : String :=
  let quote := if bytes.contains 0x27 && !bytes.contains 0x22 then '"' else '\''
  String.ofList (['b', quote] ++ bytes.flatMap (quotedByte quote) ++ [quote])

namespace Scalar

/-- The text that stands for a key of any kind. -/
def label : Scalar → String
  | null => "None"
  | bool true => "True"
  | bool false => "False"
  | int n => toString n
  | float x => plainNumbers.render x
  | text s => s
  | bytes b => bytesLabel b
  | date d => d.text
  | timestamp t => t.text " "

def kindName : Scalar → String
  | null => "NoneType"
  | bool _ => "bool"
  | int _ => "int"
  | float _ => "float"
  | text _ => "str"
  | bytes _ => "bytes"
  | date _ => "datetime.date"
  | timestamp _ => "datetime.datetime"

/-- The integer that a truth value or an integer counts as. -/
def int? : Scalar → Option Int
  | bool b => some (if b then 1 else 0)
  | int n => some n
  | _ => none

/-- Equality of keys.  Truth values and numbers are equal when they are equal as
numbers. -/
def same (left right : Scalar) : Bool :=
  match left, right with
  | float x, float y => x.sameNumber y
  | float x, other => other.int?.any x.equalsInt
  | other, float y => other.int?.any y.equalsInt
  | timestamp t, timestamp u => t.same u
  | _, _ =>
      match left.int?, right.int? with
      | some m, some n => m == n
      | _, _ => left == right

end Scalar

end OpenApiSharp.Document
