import OpenApiSharp.Yaml.Mark
import OpenApiSharp.Yaml.ScalarText
import OpenApiSharp.Yaml.Token

/-!
# The tokens of a text

The lexer goes through a text from token to token.  Outside of flow
collections it turns the columns of tokens into tokens that begin and end
blocks.  A simple key is recognised only by the colon behind it, so the places
where one may have begun are remembered, one for each level of flow
collections; the token that announces the key is put in there afterwards.
-/

namespace OpenApiSharp.Yaml

open Text

/-- A place where a simple key may have begun. -/
structure KeySite where
  /-- The number of tokens before it. -/
  token : Nat
  index : Nat
  line : Nat
  column : Nat
  /-- Whether only a key can stand there. -/
  required : Bool
  deriving DecidableEq, Repr

/-- Whether a site is too far behind for a simple key, which takes no more than
one line and 1024 characters. -/
def KeySite.isStale (site : KeySite) (cursor : Cursor) : Bool :=
  site.line != cursor.line || 1024 < cursor.index - site.index

/-- The state of the lexer. -/
structure Lexer where
  cursor : Cursor
  /-- The tokens so far, the latest one first. -/
  tokens : List Token := []
  /-- The columns of the blocks around the place, the innermost first. -/
  indents : List Nat := []
  /-- The site of the innermost level. -/
  site : Option KeySite := none
  /-- The sites of the levels around it. -/
  outer : List (Option KeySite) := []
  /-- Whether a simple key may begin here. -/
  allowsKey : Bool := true

namespace Lexer

def inFlow (lexer : Lexer) : Bool :=
  !lexer.outer.isEmpty

/-- The least column of a line that goes on inside the innermost block. -/
def leastColumn (lexer : Lexer) : Nat :=
  match lexer.indents with
  | [] => 0
  | indent :: _ => indent + 1

def emit (lexer : Lexer) (token : Token) : Lexer :=
  { lexer with tokens := token :: lexer.tokens }

/-- Put a token behind the first `number` ones. -/
def emitAt (lexer : Lexer) (number : Nat) (token : Token) : Lexer :=
  { lexer with tokens := lexer.tokens.insertIdx (lexer.tokens.length - number) token }

def take (lexer : Lexer) (token : Token) (length : Nat) : Lexer :=
  { lexer.emit token with cursor := lexer.cursor.advance length }

/-- End the blocks that do not satisfy a test. -/
def closeUntil (lexer : Lexer) (remains : Nat → Bool) : Lexer :=
  if lexer.inFlow then lexer
  else
    let closed := lexer.indents.takeWhile fun indent => !remains indent
    { lexer with
      indents := lexer.indents.drop closed.length
      tokens := closed.map (fun _ => Token.blockEnd) ++ lexer.tokens }

/-- End the blocks that are indented more than a column. -/
def closeTo (lexer : Lexer) (column : Nat) : Lexer :=
  lexer.closeUntil fun indent => decide (indent ≤ column)

def closeAll (lexer : Lexer) : Lexer :=
  lexer.closeUntil fun _ => false

/-- Begin a block with a token at a place, unless one that is indented as much has
begun already. -/
def openBlock (lexer : Lexer) (column number : Nat) (token : Token) : Lexer :=
  if !lexer.inFlow && decide (lexer.leastColumn ≤ column) then
    { lexer.emitAt number token with indents := column :: lexer.indents }
  else lexer

def dropSite (lexer : Lexer) : Option Lexer :=
  if lexer.site.any (·.required) then none else some { lexer with site := none }

/-- Remember this place as a site, if a simple key may begin here. -/
def saveSite (lexer : Lexer) : Option Lexer := do
  if lexer.allowsKey then
    -- a required key that was not completed is an error
    let lexer ← lexer.dropSite
    let cursor := lexer.cursor
    return { lexer with
      site := some {
        token := lexer.tokens.length
        index := cursor.index
        line := cursor.line
        column := cursor.column
        required := !lexer.inFlow && lexer.indents.head? == some cursor.column } }
  else
    return lexer

/-- A site unless it is stale. -/
def freshSite (cursor : Cursor) : Option KeySite → Option (Option KeySite)
  | none => some none
  | some site =>
      if !site.isStale cursor then some (some site)
      else if site.required then none
      else some none

/-- Forget the sites that are too far behind. -/
def dropStale (lexer : Lexer) : Option Lexer := do
  let site ← freshSite lexer.cursor lexer.site
  let outer ← lexer.outer.mapM (freshSite lexer.cursor)
  return { lexer with site, outer }

/-- A directive or a marker of a document, which ends all blocks. -/
def takeMarker (lexer : Lexer) (token : Token) (length : Nat) : Option Lexer := do
  let lexer ← lexer.closeAll.dropSite
  return { lexer with allowsKey := false }.take token length

def takeOpening (lexer : Lexer) (token : Token) : Option Lexer := do
  let lexer ← lexer.saveSite
  return { lexer with
    site := none, outer := lexer.site :: lexer.outer, allowsKey := true }.take token 1

def takeClosing (lexer : Lexer) (token : Token) : Option Lexer :=
  match lexer.outer with
  | [] => none
  | site :: outer => some ({ lexer with site, outer, allowsKey := false }.take token 1)

def takeComma (lexer : Lexer) : Option Lexer := do
  let lexer ← lexer.dropSite
  return { lexer with allowsKey := true }.take .flowComma 1

def takeItem (lexer : Lexer) : Option Lexer := do
  if !lexer.inFlow && !lexer.allowsKey then none
  let lexer :=
    lexer.openBlock lexer.cursor.column lexer.tokens.length .blockListStart
  let lexer ← lexer.dropSite
  return { lexer with allowsKey := true }.take .blockItem 1

def takeKey (lexer : Lexer) : Option Lexer := do
  if !lexer.inFlow && !lexer.allowsKey then none
  let lexer := lexer.openBlock lexer.cursor.column lexer.tokens.length .blockMapStart
  let lexer ← lexer.dropSite
  return { lexer with allowsKey := !lexer.inFlow }.take .key 1

/-- The sign of a value.  If there is a site, a simple key begins there. -/
def takeValue (lexer : Lexer) : Option Lexer :=
  match lexer.site with
  | some site =>
      -- the key and its mapping begin in front of tokens that were emitted already
      let lexer := lexer.emitAt site.token .key
      let lexer := lexer.openBlock site.column site.token .blockMapStart
      some ({ lexer with site := none, allowsKey := false }.take .value 1)
  | none =>
      if !lexer.inFlow && !lexer.allowsKey then none
      else
        let lexer := lexer.openBlock lexer.cursor.column lexer.tokens.length .blockMapStart
        some ({ lexer with allowsKey := !lexer.inFlow }.take .value 1)

/-- A token that may begin a simple key. -/
def takeNode (lexer : Lexer) (token : Token) (length : Nat) : Option Lexer := do
  let lexer ← lexer.saveSite
  return { lexer with allowsKey := false }.take token length

/-- A plain text.  A simple key may follow if it has ended a line. -/
def takePlain (lexer : Lexer) : Option Lexer := do
  let plain := plainText lexer.inFlow lexer.leastColumn lexer.cursor.ahead
  let lexer ← lexer.takeNode (.scalar (textOfChars plain.content) true) plain.length
  return { lexer with allowsKey := plain.endsLine }

/-- A text in quotes, from behind its first quote on. -/
def takeQuoted (lexer : Lexer) (quoted : Option (Lexeme (List Nat))) : Option Lexer := do
  let content ← quoted
  lexer.takeNode (.scalar (textOfCodes content.value) false) (1 + content.length)

def takeBlock (lexer : Lexer) (folds : Bool) (behind : List Char) : Option Lexer := do
  let lexer ← lexer.dropSite
  let content ← blockText folds (max 1 lexer.leastColumn) behind
  return { lexer with allowsKey := true }.take
    (.scalar (textOfChars content.value) false) (1 + content.length)

/-- The signs that begin no plain text.  A hyphen does if a character follows at
once, and outside of flow collections so do a question mark and a colon. -/
def indicators : List Char := "-?:,[]\x7b\x7d#&*!|>'\"%@`".toList

def startsPlain (inFlow : Bool) : List Char → Bool
  | [] => false
  | c :: rest =>
      !(isSpace c || isLineBreak c || indicators.contains c) ||
        (!atSpace rest && (c == '-' || (!inFlow && (c == '?' || c == ':'))))

def takeToken (lexer : Lexer) (c : Char) (rest : List Char) : Option Lexer := do
  let ahead := c :: rest
  if lexer.cursor.column = 0 && c == '%' then
    let directive ← directive? rest
    lexer.takeMarker (.directive directive.value) (1 + directive.length)
  else if lexer.cursor.column = 0 && atMarker '-' ahead then lexer.takeMarker .documentStart 3
  else if lexer.cursor.column = 0 && atMarker '.' ahead then lexer.takeMarker .documentEnd 3
  else if c == '[' then lexer.takeOpening .flowListStart
  else if c == '\x7b' then lexer.takeOpening .flowMapStart
  else if c == ']' then lexer.takeClosing .flowListEnd
  else if c == '\x7d' then lexer.takeClosing .flowMapEnd
  else if c == ',' then lexer.takeComma
  else if c == '-' && atSpace rest then lexer.takeItem
  else if c == '?' && (lexer.inFlow || atSpace rest) then lexer.takeKey
  else if c == ':' && (lexer.inFlow || atSpace rest) then lexer.takeValue
  else if c == '*' then
    let name ← anchorName? rest
    lexer.takeNode (.alias name.value) (1 + name.length)
  else if c == '&' then
    let name ← anchorName? rest
    lexer.takeNode (.anchor name.value) (1 + name.length)
  else if c == '!' then
    let tag ← tag? ahead
    lexer.takeNode (.tag tag.value) tag.length
  else if c == '|' && !lexer.inFlow then lexer.takeBlock false rest
  else if c == '>' && !lexer.inFlow then lexer.takeBlock true rest
  else if c == '\'' then lexer.takeQuoted (singleQuoted rest)
  else if c == '"' then lexer.takeQuoted (doubleQuoted rest)
  else if startsPlain lexer.inFlow ahead then lexer.takePlain
  else none

/-- Move to the next token, and end the blocks that it is not part of. -/
def approach (lexer : Lexer) : Option Lexer := do
  let (length, endsLine) := skipped false lexer.cursor.ahead
  let lexer ← dropStale
    { lexer with
      cursor := lexer.cursor.advance length
      allowsKey := lexer.allowsKey || (endsLine && !lexer.inFlow) }
  return lexer.closeTo lexer.cursor.column

/-- All tokens from a state on, in their order.  Every token takes at least one
character. -/
def run (lexer : Lexer) : Option (List Token) := do
  let ready ← lexer.approach
  match ready.cursor.ahead with
  | [] =>
      let last ← ready.closeAll.dropSite
      return last.tokens.reverse
  | c :: rest =>
      let next ← ready.takeToken c rest
      if next.cursor.ahead.length < lexer.cursor.ahead.length then run next else none
termination_by lexer.cursor.ahead.length

end Lexer

/-- The tokens of a text, if it is well-formed. -/
def tokens? (text : List Char) : Option (List Token) :=
  if text.all isPrintable then ({ cursor := .start text } : Lexer).run else none

end OpenApiSharp.Yaml
