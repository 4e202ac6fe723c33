/-!
# Tokens of YAML texts

The text of a document is a sequence of tokens.  The indentation of blocks has
become tokens as well, and every simple key is announced by one.  Many rules ask
what follows at a place of a text; there the end of the text counts as a class of
its own, so the tests take the text that lies ahead.
-/

namespace OpenApiSharp.Yaml

/-- The characters that may stand in a YAML text. -/
def isPrintable (c : Char) : Bool :=
  let code := c.toNat
  c == '\t' || c == '\n' || c == '\r' || (0x20 ≤ code && code ≤ 0x7e) || code == 0x85 ||
    (0xa0 ≤ code && code ≤ 0xd7ff) || (0xe000 ≤ code && code ≤ 0xfffd) || 0x10000 ≤ code

/-- The mark that may open a text and takes no column. -/
def byteOrderMark : Char := Char.ofNat 0xfeff

def isLineBreak (c : Char) : Bool :=
  c == '\n' || c == '\r' || c.toNat == 0x85 || c.toNat == 0x2028 || c.toNat == 0x2029

/-- The line break that a text has for one that was written: the separators of
lines and paragraphs stay, all others become line feeds. -/
def normalBreak (c : Char) : Char :=
  if c.toNat == 0x2028 || c.toNat == 0x2029 then c else '\n'

def isSpace (c : Char) : Bool :=
  c == ' ' || c == '\t'

/-- The characters of anchors, of the names of directives and of tag handles. -/
def isNameChar (c : Char) : Bool :=
  c.isAlphanum || c == '-' || c == '_'

/-- The line break at the front of a text, and the number of characters that it
takes: a carriage return and a line feed are one. -/
def lineBreak? : List Char → Option (Char × Nat)
  | '\r' :: '\n' :: _ => some ('\n', 2)
  | c :: _ => if isLineBreak c then some (normalBreak c, 1) else none
  | [] => none

/-- Whether a text is at its end or before a character of a class. -/
def endsBefore (inClass : Char → Bool) : List Char → Bool
  | [] => true
  | c :: _ => inClass c

def atLineEnd (cs : List Char) : Bool :=
  endsBefore isLineBreak cs

/-- Whether a blank or the end of a line follows. -/
def atBlank (cs : List Char) : Bool :=
  endsBefore (fun c => c == ' ' || isLineBreak c) cs

/-- Whether a blank, a tabulator or the end of a line follows. -/
def atSpace (cs : List Char) : Bool :=
  endsBefore (fun c => isSpace c || isLineBreak c) cs

/-- Whether three marks of a kind stand by themselves. -/
def atMarker (mark : Char) : List Char → Bool
  | a :: b :: c :: rest => a == mark && b == mark && c == mark && atSpace rest
  | _ => false

/-- Whether the beginning or the end of a document is marked here. -/
def atDocumentMarker (cs : List Char) : Bool :=
  atMarker '-' cs || atMarker '.' cs

/-- A tag as it is written: a whole name, or a handle that stands for the
beginning of a name, and the rest of it. -/
inductive TagText where
  | whole (name : String)
  | short (handle rest : String)
  deriving DecidableEq, Repr

/-- A directive in front of a document. -/
inductive Directive where
  | version (major minor : Nat)
  | handle (handle expansion : String)
  | other (name : String)
  deriving DecidableEq, Repr

inductive Token where
  | directive (directive : Directive)
  | documentStart
  | documentEnd
  | blockListStart
  | blockMapStart
  | blockEnd
  | flowListStart
  | flowListEnd
  | flowMapStart
  | flowMapEnd
  | blockItem
  | flowComma
  | key
  | value
  | alias (name : String)
  | anchor (name : String)
  | tag (tag : TagText)
  | scalar (content : String) (isPlain : Bool)
  deriving DecidableEq, Repr

/-- What was read from the front of a text, and how many characters it took. -/
structure Lexeme (α : Type) where
  value : α
  length : Nat
  deriving DecidableEq, Repr

/-- A place in a text. -/
structure Cursor where
  /-- The characters behind the place. -/
  ahead : List Char
  /-- The number of characters before it. -/
  index : Nat := 0
  line : Nat := 0
  column : Nat := 0
  deriving DecidableEq, Repr

namespace Cursor

def advance (cursor : Cursor) : Nat → Cursor
  | 0 => cursor
  | count + 1 =>
      match cursor.ahead with
      | [] => cursor
      | c :: rest =>
          let next := { cursor with ahead := rest, index := cursor.index + 1 }
          if isLineBreak c && !(c == '\r' && rest.head? == some '\n') then
            advance { next with line := cursor.line + 1, column := 0 } count
          else if c == byteOrderMark then advance next count
          else advance { next with column := cursor.column + 1 } count

/-- The beginning of a text, behind a byte order mark. -/
def start (text : List Char) : Cursor :=
  ({ ahead := text } : Cursor).advance (if text.head? == some byteOrderMark then 1 else 0)

end Cursor

/-- The number of characters up to the next token, and whether a line ends among
them.  Outside of `inComment`, a comment begins with its sign. -/
def skipped (inComment : Bool) : List Char → Nat × Bool
  | [] => (0, false)
  | c :: rest =>
      if isLineBreak c then ((skipped false rest).1 + 1, true)
      else if inComment || c == ' ' || c == '#' then
        let tail := skipped (inComment || c == '#') rest
        (tail.1 + 1, tail.2)
      else (0, false)

/-- The blanks and line breaks between two words. -/
structure Gap where
  /-- The blanks before the first line break. -/
  blanks : List Char := []
  /-- The line breaks. -/
  breaks : List Char := []
  /-- The number of blanks behind the last line break. -/
  indent : Nat := 0
  /-- The number of characters. -/
  length : Nat := 0
  deriving DecidableEq, Repr

def gapOf (isBlank : Char → Bool) : List Char → Gap
  | [] => {}
  | c :: rest =>
      if isBlank c then
        let tail := gapOf isBlank rest
        { tail with
          blanks := c :: tail.blanks
          indent := if tail.breaks.isEmpty then tail.indent + 1 else tail.indent
          length := tail.length + 1 }
      else if isLineBreak c then
        let tail := gapOf isBlank rest
        { tail with
          blanks := []
          breaks := if c == '\r' && rest.head? == some '\n' then tail.breaks
            else normalBreak c :: tail.breaks
          length := tail.length + 1 }
      else {}

/-- What folding makes of line breaks. -/
def foldBreaks : List Char → List Char
  | ['\n'] => [' ']
  | '\n' :: more => more
  | breaks => breaks

namespace Gap

def text (gap : Gap) : List Char :=
  if gap.breaks.isEmpty then gap.blanks else foldBreaks gap.breaks

/-- Whether a gap leads to the marker of a document, given the text behind it. -/
def leadsToMarker (gap : Gap) (next : List Char) : Bool :=
  !gap.breaks.isEmpty && gap.indent == 0 && atDocumentMarker next

end Gap

/-- The number of characters up to the end of a line on which nothing but a
comment may follow, together with its break. -/
def lineTail? (cs : List Char) : Option Nat :=
  let blanks := cs.takeWhile (· == ' ')
  let behind := cs.drop blanks.length
  let comment :=
    if behind.head? == some '#' then behind.takeWhile fun c => !isLineBreak c else []
  let rest := behind.drop comment.length
  if atLineEnd rest then
    some (blanks.length + comment.length + ((lineBreak? rest).map (·.2)).getD 0)
  else none

end OpenApiSharp.Yaml
