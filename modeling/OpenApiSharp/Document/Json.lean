import OpenApiSharp.Document.Value

/-!
# Reading JSON

Objects keep the order of their keys; a repeated key keeps its first place and
takes its last value.  Numbers with a fraction or an exponent are doubles and
all others integers of any size, and the names `NaN`, `Infinity` and
`-Infinity` are accepted.

A reader takes a text from the front and returns what it read together with
the shorter text behind it.  A fault is located by the number of characters
that were left when it was found.
-/

namespace OpenApiSharp.Document

open Decimal Text

/-- What can be wrong with a JSON text. -/
inductive JsonFault where
  | expectingValue
  | expectingName
  | expectingColon
  | expectingComma
  | extraData
  | unterminatedString
  | controlCharacter
  | invalidEscape
  | invalidUnicodeEscape
  | byteOrderMark
  deriving DecidableEq, Repr

def JsonFault.text : JsonFault → String
  | expectingValue => "Expecting value"
  | expectingName => "Expecting property name enclosed in double quotes"
  | expectingColon => "Expecting ':' delimiter"
  | expectingComma => "Expecting ',' delimiter"
  | extraData => "Extra data"
  | unterminatedString => "Unterminated string starting at"
  | controlCharacter => "Invalid control character at"
  | invalidEscape => "Invalid \\escape"
  | invalidUnicodeEscape => "Invalid \\uXXXX escape"
  | byteOrderMark => "Unexpected UTF-8 BOM (decode using utf-8-sig)"

/-- A fault in a JSON text, and the number of characters before it. -/
structure JsonError where
  fault : JsonFault
  position : Nat
  deriving DecidableEq, Repr

/-- A fault with its place in a text: the line, the column in it, and the number
of characters before. -/
def JsonError.message (error : JsonError) (source : List Char) : String :=
  let before := source.take error.position
  let line := before.count '\n' + 1
  let column := (before.reverse.takeWhile (· != '\n')).length + 1
  error.fault.text ++ ": line " ++ toString line ++ " column " ++ toString column ++
    " (char " ++ toString error.position ++ ")"

namespace Json

/-- A fault, with the number of characters from its place on. -/
structure Failure where
  fault : JsonFault
  remaining : Nat

/-- What was read from the front of a text, and the text behind it. -/
structure Reading (α : Type) (cs : List Char) where
  value : α
  rest : List Char
  shorter : rest.length < cs.length

/-- The characters that may stand between the parts of a JSON text. -/
def isGap (c : Char) : Bool :=
  c == ' ' || c == '\t' || c == '\n' || c == '\r'

/-- The text from its first significant character on. -/
def skipGap (cs : List Char) : List Char :=
  cs.dropWhile isGap

theorem skipGap_length (cs : List Char) : (skipGap cs).length ≤ cs.length :=
  (List.dropWhile_suffix isGap).length_le

def hexValue? (c : Char) : Option Nat :=
  if '0' ≤ c ∧ c ≤ '9' then some (c.toNat - '0'.toNat)
  else if 'a' ≤ c ∧ c ≤ 'f' then some (c.toNat - 'a'.toNat + 10)
  else if 'A' ≤ c ∧ c ≤ 'F' then some (c.toNat - 'A'.toNat + 10)
  else none

def hexNumber? (digits : List Char) : Option Nat :=
  digits.foldlM (fun number c => (hexValue? c).map (number * 16 + ·)) 0

/-- The character that a letter behind a backslash stands for. -/
def simpleEscape? : Char → Option Char
  | '"' => some '"'
  | '\\' => some '\\'
  | '/' => some '/'
  | 'b' => some '\x08'
  | 'f' => some '\x0c'
  | 'n' => some '\n'
  | 'r' => some '\r'
  | 't' => some '\t'
  | _ => none

/-- The units of a string up to its closing quote, and the text behind it.  An
escape gives a unit of sixteen bits.  `opening` is the number of characters
from the opening quote on. -/
def stringUnits (opening : Nat) :
    (cs : List Char) → Except Failure (Reading (List Nat) cs)
  | [] => .error ⟨.unterminatedString, opening⟩
  | '"' :: rest => .ok ⟨[], rest, Nat.lt_succ_self _⟩
  | '\\' :: 'u' :: a :: b :: c :: d :: next :: rest => do
      match hexNumber? [a, b, c, d] with
      | some unit =>
          let tail ← stringUnits opening (next :: rest)
          return ⟨unit :: tail.value, tail.rest,
            Nat.lt_of_lt_of_le tail.shorter (Nat.le_add_right _ 6)⟩
      | none => .error ⟨.invalidUnicodeEscape, rest.length + 6⟩
  | '\\' :: 'u' :: rest => .error ⟨.invalidUnicodeEscape, rest.length + 1⟩
  | ['\\'] => .error ⟨.unterminatedString, opening⟩
  | '\\' :: c :: rest => do
      match simpleEscape? c with
      | some meant =>
          let tail ← stringUnits opening rest
          return ⟨meant.toNat :: tail.value, tail.rest,
            Nat.lt_of_lt_of_le tail.shorter (Nat.le_add_right _ 2)⟩
      | none => .error ⟨.invalidEscape, rest.length + 2⟩
  | c :: rest => do
      if c.toNat ≤ 0x1f then .error ⟨.controlCharacter, rest.length + 1⟩
      else
        let tail ← stringUnits opening rest
        return ⟨c.toNat :: tail.value, tail.rest, Nat.lt_succ_of_lt tail.shorter⟩
termination_by cs => cs.length

/-- The code points of a string: two units that form a surrogate pair are one, and
half of a pair stays by itself. -/
def joinUnits : List Nat → List Nat
  | [] => []
  | high :: low :: rest =>
      if 0xd800 ≤ high ∧ high < 0xdc00 ∧ 0xdc00 ≤ low ∧ low < 0xe000 then
        (0x10000 + (high - 0xd800) * 0x400 + (low - 0xdc00)) :: joinUnits rest
      else
        high :: joinUnits (low :: rest)
  | [unit] => [unit]

/-- A string, from behind its opening quote on. -/
def string (cs : List Char) : Except Failure (Reading String cs) := do
  let units ← stringUnits (cs.length + 1) cs
  return ⟨textOfCodes (joinUnits units.value), units.rest, units.shorter⟩

def decimalNumber (digits : List Char) : Nat :=
  digits.foldl (fun number c => number * 10 + (c.toNat - '0'.toNat)) 0

def splitDigits (cs : List Char) : List Char × List Char :=
  (cs.takeWhile Char.isDigit, cs.dropWhile Char.isDigit)

theorem splitDigits_length (cs : List Char) : (splitDigits cs).2.length ≤ cs.length :=
  (List.dropWhile_suffix Char.isDigit).length_le

/-- The integer part at the front of a text: a zero, or digits that begin with
another one. -/
def wholePart? (cs : List Char) : Option (Reading (List Char) cs) :=
  match cs with
  | [] => none
  | c :: rest =>
      if c == '0' then some ⟨['0'], rest, Nat.lt_succ_self _⟩
      else if c.isDigit then
        some ⟨c :: (splitDigits rest).1, (splitDigits rest).2,
          Nat.lt_succ_of_le (splitDigits_length rest)⟩
      else none

/-- The fraction digits at the front of a text, none unless a point and a digit
stand there, and the text behind them. -/
def fractionPart : List Char → List Char × List Char
  | '.' :: rest =>
      match splitDigits rest with
      | ([], _) => ([], '.' :: rest)
      | (digits, behind) => (digits, behind)
  | cs => ([], cs)

theorem fractionPart_length (cs : List Char) : (fractionPart cs).2.length ≤ cs.length := by
  unfold fractionPart
  split
  · rename_i rest
    have shorter := splitDigits_length rest
    split
    · simp
    · rename_i split
      rw [split] at shorter
      simp only [List.length_cons]
      exact Nat.le_succ_of_le shorter
  · simp

/-- The exponent at the front of a text, if a complete one stands there, and the
text behind it. -/
def exponentPart (cs : List Char) : Option Int × List Char :=
  match cs with
  | [] => (none, cs)
  | mark :: rest =>
      if mark == 'e' || mark == 'E' then
        let (negative, behindSign) :=
          match rest with
          | '-' :: behind => (true, behind)
          | '+' :: behind => (false, behind)
          | _ => (false, rest)
        match splitDigits behindSign with
        | ([], _) => (none, cs)
        | (digits, behind) =>
            let size : Int := decimalNumber digits
            (some (if negative then -size else size), behind)
      else (none, cs)

theorem exponentPart_length (cs : List Char) : (exponentPart cs).2.length ≤ cs.length := by
  unfold exponentPart
  split
  · simp
  · rename_i mark rest
    split
    · simp only
      have signLength : ∀ behind : List Char, behind.length ≤ rest.length →
          (splitDigits behind).2.length ≤ (mark :: rest).length := by
        intro behind bound
        have := splitDigits_length behind
        simp only [List.length_cons]
        omega
      split
      · simp
      · rename_i digits behind _ shape
        have bound := signLength (match rest with
          | '-' :: behind => (true, behind)
          | '+' :: behind => (false, behind)
          | _ => (false, rest)).2 (by split <;> simp)
        rw [shape] at bound
        exact bound
    · simp

def signPart : List Char → Bool × List Char
  | '-' :: rest => (true, rest)
  | cs => (false, cs)

theorem signPart_length (cs : List Char) : (signPart cs).2.length ≤ cs.length := by
  unfold signPart
  split <;> simp

/-- A number at the front of a text. -/
def number? (cs : List Char) : Option (Reading Scalar cs) := do
  let whole ← wholePart? (signPart cs).2
  let fraction := fractionPart whole.rest
  let power := exponentPart fraction.2
  let negative := (signPart cs).1
  let scalar :=
    if fraction.1.isEmpty && power.1.isNone then
      let size : Int := decimalNumber whole.value
      Scalar.int (if negative then -size else size)
    else
      let size := Binary64.ofDecimal (decimalNumber (whole.value ++ fraction.1))
        (power.1.getD 0 - fraction.1.length)
      Scalar.float (if negative then size.negate else size)
  return ⟨scalar, power.2, by
    have := signPart_length cs
    have := whole.shorter
    have := fractionPart_length whole.rest
    have := exponentPart_length (fractionPart whole.rest).2
    show (exponentPart (fractionPart whole.rest).2).2.length < cs.length
    omega⟩

def words : List (List Char × Scalar) :=
  [("null".toList, .null), ("true".toList, .bool true), ("false".toList, .bool false),
   ("NaN".toList, .float Binary64.nan), ("Infinity".toList, .float Binary64.infinity),
   ("-Infinity".toList, .float Binary64.infinity.negate)]

def word? (cs : List Char) : Option (Reading Scalar cs) :=
  words.findSome? fun (word, meant) =>
    if h : word.isPrefixOf cs ∧ word ≠ [] then
      some ⟨meant, cs.drop word.length, by
        have bound := (List.isPrefixOf_iff_prefix.mp h.1).length_le
        have := List.length_pos_iff.mpr h.2
        simp only [List.length_drop]
        omega⟩
    else none

mutual

def value (cs : List Char) : Except Failure (Reading Value cs) :=
  match cs with
  | '"' :: rest => do
      let content ← string rest
      return ⟨.text content.value, content.rest, by
        have := content.shorter
        simp only [List.length_cons]
        omega⟩
  | '\x7b' :: rest => do
      match shape : skipGap rest with
      | '\x7d' :: behind =>
          return ⟨.map [], behind, by
            have := skipGap_length rest
            simp only [shape, List.length_cons] at *
            omega⟩
      | behind =>
          let members ← entries behind
          return ⟨.map (Keyed.ofList (· == ·) members.value), members.rest, by
            have := members.shorter
            have := skipGap_length rest
            simp only [shape, List.length_cons] at *
            omega⟩
  | '[' :: rest => do
      match shape : skipGap rest with
      | ']' :: behind =>
          return ⟨.list [], behind, by
            have := skipGap_length rest
            simp only [shape, List.length_cons] at *
            omega⟩
      | behind =>
          let members ← elements behind
          return ⟨.list members.value, members.rest, by
            have := members.shorter
            have := skipGap_length rest
            simp only [shape, List.length_cons] at *
            omega⟩
  | other =>
      match word? other <|> number? other with
      | some scalar => .ok ⟨.scalar scalar.value, scalar.rest, scalar.shorter⟩
      | none => .error ⟨.expectingValue, other.length⟩
termination_by (cs.length, 0)
decreasing_by
  all_goals
    have := skipGap_length rest
    simp only [shape, List.length_cons, Prod.lex_def] at *
    omega

/-- The elements of a list from the first one on, with the closing bracket. -/
def elements (cs : List Char) : Except Failure (Reading (List Value) cs) := do
  let first ← value cs
  match shape : skipGap first.rest with
  | ']' :: behind =>
      return ⟨[first.value], behind, by
        have := first.shorter
        have := skipGap_length first.rest
        simp only [shape, List.length_cons] at *
        omega⟩
  | ',' :: behind =>
      let more ← elements (skipGap behind)
      return ⟨first.value :: more.value, more.rest, by
        have := first.shorter
        have := more.shorter
        have := skipGap_length behind
        have := skipGap_length first.rest
        simp only [shape, List.length_cons] at *
        omega⟩
  | other => .error ⟨.expectingComma, other.length⟩
termination_by (cs.length, 1)
decreasing_by
  · simp [Prod.lex_def]
  · have := first.shorter
    have := skipGap_length behind
    have := skipGap_length first.rest
    simp only [shape, List.length_cons, Prod.lex_def] at *
    omega

/-- The entries of an object from the first one on, with the closing brace. -/
def entries (cs : List Char) : Except Failure (Reading (List (Scalar × Value)) cs) :=
  match cs with
  | '"' :: rest => do
      let key ← string rest
      match keyShape : skipGap key.rest with
      | ':' :: behindColon =>
          let content ← value (skipGap behindColon)
          let entry := (Scalar.text key.value, content.value)
          match shape : skipGap content.rest with
          | '\x7d' :: behind =>
              return ⟨[entry], behind, by
                have := key.shorter
                have := skipGap_length key.rest
                have := skipGap_length behindColon
                have := content.shorter
                have := skipGap_length content.rest
                simp only [shape, keyShape, List.length_cons] at *
                omega⟩
          | ',' :: behind =>
              let more ← entries (skipGap behind)
              return ⟨entry :: more.value, more.rest, by
                have := key.shorter
                have := skipGap_length key.rest
                have := skipGap_length behindColon
                have := content.shorter
                have := skipGap_length content.rest
                have := skipGap_length behind
                have := more.shorter
                simp only [shape, keyShape, List.length_cons] at *
                omega⟩
          | other => .error ⟨.expectingComma, other.length⟩
      | other => .error ⟨.expectingColon, other.length⟩
  | other => .error ⟨.expectingName, other.length⟩
termination_by (cs.length, 1)
decreasing_by
  · have := key.shorter
    have := skipGap_length key.rest
    have := skipGap_length behindColon
    simp only [keyShape, List.length_cons, Prod.lex_def] at *
    omega
  · have := key.shorter
    have := skipGap_length key.rest
    have := skipGap_length behindColon
    have := content.shorter
    have := skipGap_length content.rest
    have := skipGap_length behind
    simp only [shape, keyShape, List.length_cons, Prod.lex_def] at *
    omega

end

def document (cs : List Char) : Except Failure Value :=
  match cs with
  | '\ufeff' :: _ => .error ⟨.byteOrderMark, cs.length⟩
  | _ => do
      let content ← value (skipGap cs)
      match skipGap content.rest with
      | [] => return content.value
      | extra => .error ⟨.extraData, extra.length⟩

end Json

/-- The value written by a JSON text. -/
def readJson (source : List Char) : Except JsonError Value :=
  match Json.document source with
  | .ok content => .ok content
  | .error failure => .error ⟨failure.fault, source.length - failure.remaining⟩

end OpenApiSharp.Document
