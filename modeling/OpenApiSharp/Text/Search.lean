import OpenApiSharp.Text.CodePoint

/-!
# Lines and occurrences

A text is divided into lines at a line feed, a carriage return (or both in that
order), a vertical tab, a form feed, one of the three information separators from
U+001C on, the next-line character, or a line or paragraph separator.  Replacement
runs from left to right and never overlaps: after an occurrence it goes on behind
it.
-/

namespace OpenApiSharp.Text

/-- White space, the information separators included. -/
def blankRanges : List (Nat × Nat) :=
  [(0x09, 0x0d), (0x1c, 0x20), (0x85, 0x85), (0xa0, 0xa0), (0x1680, 0x1680), (0x2000, 0x200a),
   (0x2028, 0x2029), (0x202f, 0x202f), (0x205f, 0x205f), (0x3000, 0x3000)]

def breakRanges : List (Nat × Nat) :=
  [(0x0a, 0x0d), (0x1c, 0x1e), (0x85, 0x85), (0x2028, 0x2029)]

def isBlank (c : Char) : Bool :=
  inRanges blankRanges c.toNat

def isBreak (c : Char) : Bool :=
  inRanges breakRanges c.toNat

/-- The characters between the leading and the trailing white space. -/
def trimChars (cs : List Char) : List Char :=
  ((cs.dropWhile isBlank).reverse.dropWhile isBlank).reverse

def trim (text : String) : String :=
  String.ofList (trimChars text.toList)

def allBlank (text : String) : Bool :=
  text.toList.all isBlank

/-- The lines of a list of characters.  A final line break opens no further
line. -/
def splitLines : List Char → List (List Char)
  | [] => []
  | '\r' :: '\n' :: rest => [] :: splitLines rest
  | c :: rest =>
      if isBreak c then [] :: splitLines rest
      else
        match splitLines rest with
        | [] => [[c]]
        | line :: more => (c :: line) :: more

def trimmedLines (text : String) : List String :=
  (splitLines text.toList).map fun line => String.ofList (trimChars line)

/-- The position of the first occurrence of a pattern. -/
def indexOf? (pattern : List Char) : List Char → Option Nat
  | [] => if pattern.isEmpty then some 0 else none
  | c :: rest =>
      if pattern.isPrefixOf (c :: rest) then some 0
      else (indexOf? pattern rest).map (· + 1)

def occursIn (pattern text : String) : Bool :=
  (indexOf? pattern.toList text.toList).isSome

def beginsWith (pattern text : String) : Bool :=
  pattern.toList.isPrefixOf text.toList

/-- Replace the occurrences of a pattern, after passing over the first
`skipped` characters, which belong to an occurrence already replaced. -/
def replaceFrom (pattern replacement : List Char) : Nat → List Char → List Char
  | _, [] => []
  | skipped + 1, _ :: rest => replaceFrom pattern replacement skipped rest
  | 0, c :: rest =>
      if pattern.isPrefixOf (c :: rest) then
        replacement ++ replaceFrom pattern replacement (pattern.length - 1) rest
      else
        c :: replaceFrom pattern replacement 0 rest

/-- Replace every occurrence of a nonempty pattern. -/
def replaceAll (pattern replacement text : String) : String :=
  String.ofList (replaceFrom pattern.toList replacement.toList 0 text.toList)

def eraseAll (pattern text : String) : String :=
  replaceAll pattern "" text

/-- The pieces of a text between the occurrences of a separator. -/
def pieces (separator : Char) : List Char → List (List Char)
  | [] => [[]]
  | c :: rest =>
      match pieces separator rest with
      | [] => [[c]]
      | piece :: more => if c == separator then [] :: piece :: more else (c :: piece) :: more

end OpenApiSharp.Text
