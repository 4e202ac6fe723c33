import OpenApiSharp.Document.Json
import OpenApiSharp.Yaml.Token

/-!
# Texts of scalars

A text without quotes ends before a colon or a comment sign that stands by itself,
and in flow collections also before the signs of these.  Between single quotes a
quote is written twice; between double quotes a backslash begins an escape.  A block
text consists of the lines below its header that are indented far enough.
-/

namespace OpenApiSharp.Yaml

open Document

/-- The signs of flow collections before which a colon is a sign as well. -/
def flowSigns : List Char := ",[]\x7b\x7d".toList

/-- Whether no plain text goes on here. -/
def endsPlain (inFlow : Bool) : List Char → Bool
  | [] => true
  | c :: rest =>
      isSpace c || isLineBreak c ||
        (c == ':' &&
          endsBefore (fun next => isSpace next || isLineBreak next ||
            (inFlow && flowSigns.contains next)) rest) ||
        (inFlow && (c == '?' || flowSigns.contains c))

def plainWord (inFlow : Bool) : List Char → List Char
  | [] => []
  | c :: rest => if endsPlain inFlow (c :: rest) then [] else c :: plainWord inFlow rest

/-- Whether a plain text goes on behind a gap. -/
def continuesPlain (inFlow : Bool) (leastColumn : Nat) (gap : Gap) (next : List Char) : Bool :=
  !endsPlain inFlow next && next.head? != some '#' && !gap.leadsToMarker next &&
    (inFlow || gap.breaks.isEmpty || leastColumn ≤ gap.indent)

structure PlainText where
  content : List Char
  /-- The number of characters, with those of the gap behind the last word. -/
  length : Nat
  /-- Whether a line ended in that gap. -/
  endsLine : Bool
  deriving DecidableEq, Repr

/-- The plain text at the front of a text, whose first character belongs to it.
Its lines begin at `leastColumn` or behind. -/
def plainText (inFlow : Bool) (leastColumn : Nat) : List Char → PlainText
  | [] => ⟨[], 0, false⟩
  | first :: rest =>
      let word := plainWord inFlow rest
      let gap := gapOf (· == ' ') (rest.drop word.length)
      let next := rest.drop (word.length + gap.length)
      let length := 1 + word.length + gap.length
      if continuesPlain inFlow leastColumn gap next then
        let more := plainText inFlow leastColumn next
        ⟨first :: word ++ gap.text ++ more.content, length + more.length, more.endsLine⟩
      else
        ⟨first :: word, length, !gap.breaks.isEmpty⟩
termination_by cs => cs.length
decreasing_by
  simp only [List.length_drop, List.length_cons]
  omega

namespace Lexeme

/-- More of a text in front of what was read. -/
def precededBy {α : Type} (front : List α) (length : Nat) (lexeme : Lexeme (List α)) :
    Lexeme (List α) :=
  ⟨front ++ lexeme.value, length + lexeme.length⟩

end Lexeme

/-- The code points between single quotes, from behind the first one on. -/
def singleQuoted : List Char → Option (Lexeme (List Nat))
  | [] => none
  | '\'' :: '\'' :: rest => (singleQuoted rest).map (.precededBy ['\''.toNat] 2)
  | '\'' :: _ => some ⟨[], 1⟩
  | c :: rest =>
      if isSpace c || isLineBreak c then
        let gap := gapOf isSpace (c :: rest)
        let next := rest.drop (gap.length - 1)
        if gap.leadsToMarker next then none
        else
          (singleQuoted next).map (.precededBy (gap.text.map Char.toNat) gap.length)
      else
        (singleQuoted rest).map (.precededBy [c.toNat] 1)
termination_by cs => cs.length
decreasing_by
  all_goals simp only [List.length_drop, List.length_cons]; omega

/-- The code of the character that a sign behind a backslash stands for. -/
def signEscape? : Char → Option Nat
  | '0' => some 0x00
  | 'a' => some 0x07
  | 'b' => some 0x08
  | 't' | '\t' => some 0x09
  | 'n' => some 0x0a
  | 'v' => some 0x0b
  | 'f' => some 0x0c
  | 'r' => some 0x0d
  | 'e' => some 0x1b
  | ' ' => some 0x20
  | '"' => some 0x22
  | '/' => some 0x2f
  | '\\' => some 0x5c
  | 'N' => some 0x85
  | '_' => some 0xa0
  | 'L' => some 0x2028
  | 'P' => some 0x2029
  | _ => none

/-- The number of hexadecimal digits that follow a sign behind a backslash. -/
def escapeDigits? : Char → Option Nat
  | 'x' => some 2
  | 'u' => some 4
  | 'U' => some 8
  | _ => none

def escapedCode? (count : Nat) (cs : List Char) : Option Nat :=
  if count ≤ cs.length then
    (Json.hexNumber? (cs.take count)).filter fun code => decide (code < 0x110000)
  else none

/-- The code points between double quotes, from behind the first one on.  Every
escape gives one, so halves of surrogate pairs are not joined. -/
def doubleQuoted : List Char → Option (Lexeme (List Nat))
  | [] => none
  | '"' :: _ => some ⟨[], 1⟩
  | ['\\'] => none
  | '\\' :: c :: rest =>
      match signEscape? c, escapeDigits? c with
      | some code, _ => (doubleQuoted rest).map (.precededBy [code] 2)
      | none, some count => do
          let code ← escapedCode? count rest
          (doubleQuoted (rest.drop count)).map (.precededBy [code] (2 + count))
      | none, none =>
          if isLineBreak c then
            let gap := gapOf isSpace (c :: rest)
            let next := rest.drop (gap.length - 1)
            if gap.leadsToMarker next then none
            else
              (doubleQuoted next).map
                (.precededBy (gap.breaks.tail.map Char.toNat) (1 + gap.length))
          else none
  | c :: rest =>
      if isSpace c || isLineBreak c then
        let gap := gapOf isSpace (c :: rest)
        let next := rest.drop (gap.length - 1)
        if gap.leadsToMarker next then none
        else
          (doubleQuoted next).map (.precededBy (gap.text.map Char.toNat) gap.length)
      else
        (doubleQuoted rest).map (.precededBy [c.toNat] 1)
termination_by cs => cs.length
decreasing_by
  all_goals simp only [List.length_drop, List.length_cons]; omega

/-- What becomes of the line breaks at the end of a block text. -/
inductive Chomping where
  /-- None is kept. -/
  | strip
  /-- That of the last line is kept. -/
  | clip
  /-- All are kept. -/
  | keep
  deriving DecidableEq, Repr

def chomping? : Char → Option Chomping
  | '+' => some .keep
  | '-' => some .strip
  | _ => none

/-- The indentation that a digit of a header stands for. -/
def indentation? (c : Char) : Option Nat :=
  if '1' ≤ c ∧ c ≤ '9' then some (c.toNat - '0'.toNat) else none

structure BlockHeader where
  chomping : Chomping := .clip
  indentation : Option Nat := none
  deriving DecidableEq, Repr

/-- The signs of a header, which come in any order. -/
def blockSigns : List Char → Lexeme BlockHeader
  | [] => ⟨{}, 0⟩
  | c :: rest =>
      match chomping? c, indentation? c with
      | some chomping, _ =>
          match rest.head?.bind indentation? with
          | some indentation => ⟨{ chomping, indentation := some indentation }, 2⟩
          | none => ⟨{ chomping }, 1⟩
      | none, some indentation =>
          match rest.head?.bind chomping? with
          | some chomping => ⟨{ chomping, indentation := some indentation }, 2⟩
          | none => ⟨{ indentation := some indentation }, 1⟩
      | none, none => ⟨{}, 0⟩

/-- The header line from behind its first sign on. -/
def blockHeader? (cs : List Char) : Option (Lexeme BlockHeader) := do
  let signs := blockSigns cs
  let behind := cs.drop signs.length
  if atBlank behind then
    let tail ← lineTail? behind
    return ⟨signs.value, signs.length + tail⟩
  else none

/-- The greatest indentation of the empty lines at the front of a text and of the
line behind them, where a line has begun already. -/
def greatestIndent (column : Nat) : List Char → Nat
  | [] => 0
  | c :: rest =>
      if c == ' ' then max (column + 1) (greatestIndent (column + 1) rest)
      else if isLineBreak c then greatestIndent 0 rest
      else 0

/-- The empty lines at the front of a text, and the blanks of the line behind
them up to an indentation. -/
def emptyLines (indent column : Nat) : List Char → Gap
  | [] => { indent := column }
  | c :: rest =>
      if c == ' ' && column < indent then
        let tail := emptyLines indent (column + 1) rest
        { tail with length := tail.length + 1 }
      else if isLineBreak c then
        let tail := emptyLines indent 0 rest
        { tail with
          breaks := if c == '\r' && rest.head? == some '\n' then tail.breaks
            else normalBreak c :: tail.breaks
          length := tail.length + 1 }
      else { indent := column }

structure BlockLines where
  content : List Char
  /-- The break of the last line, if it has one. -/
  lastBreak : List Char := []
  /-- The breaks of the empty lines behind it. -/
  trailing : List Char := []
  length : Nat
  deriving DecidableEq, Repr

/-- What stands for the break between two lines, where `between` are the breaks
of the empty lines between them. -/
def lineJoint (folds : Bool) (lineBreak : Char) (first next : Char) (between : List Char) :
    List Char :=
  if folds && lineBreak == '\n' && !isSpace first && !isSpace next then
    if between.isEmpty then [' '] else between
  else
    lineBreak :: between

/-- The lines of a block text, from the content of the first one on. -/
def blockLines (folds : Bool) (indent : Nat) : List Char → BlockLines
  | [] => { content := [], length := 0 }
  | first :: rest =>
      let line := rest.takeWhile fun c => !isLineBreak c
      match lineBreak? (rest.drop line.length) with
      | none => { content := first :: line, length := 1 + line.length }
      | some (lineBreak, width) =>
          let empty := emptyLines indent 0 (rest.drop (line.length + width))
          let length := 1 + line.length + width + empty.length
          let next := rest.drop (line.length + width + empty.length)
          match next.head?, empty.indent == indent with
          | some c, true =>
              let more := blockLines folds indent next
              { more with
                content := first :: line ++ lineJoint folds lineBreak first c empty.breaks ++
                  more.content
                length := length + more.length }
          | _, _ =>
              { content := first :: line, lastBreak := [lineBreak], trailing := empty.breaks
                length }
termination_by cs => cs.length
decreasing_by
  simp only [List.length_drop, List.length_cons]
  omega

/-- The text of lines with the chosen line breaks at the end. -/
def BlockLines.text (lines : BlockLines) : Chomping → List Char
  | .strip => lines.content
  | .clip => lines.content ++ lines.lastBreak
  | .keep => lines.content ++ lines.lastBreak ++ lines.trailing

/-- The block text at the front of a text, from behind its first sign on, in a
block that is indented less than `leastIndent`. -/
def blockText (folds : Bool) (leastIndent : Nat) (cs : List Char) :
    Option (Lexeme (List Char)) := do
  let header ← blockHeader? cs
  let body := cs.drop header.length
  let indent :=
    match header.value.indentation with
    | some indentation => leastIndent + indentation - 1
    | none => max leastIndent (greatestIndent 0 body)
  let empty := emptyLines indent 0 body
  let first := body.drop empty.length
  let lines : BlockLines :=
    if empty.indent == indent && !first.isEmpty then
      let lines := blockLines folds indent first
      { lines with content := empty.breaks ++ lines.content }
    else
      { content := [], trailing := empty.breaks, length := 0 }
  return ⟨lines.text header.value.chomping, header.length + empty.length + lines.length⟩

end OpenApiSharp.Yaml
