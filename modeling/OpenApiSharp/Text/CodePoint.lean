/-!
# Code points

Character classes are given as closed ranges of code points, listed in
ascending order, so a search may stop at the first range that begins beyond
the code point asked for.

A text may have halves of surrogate pairs among its code points, which are no
characters.  It is held as characters all the same: for each half stands a
character of a block that is unassigned in Unicode 14.0, and a character of
that block stands for itself behind a mark.
-/

namespace OpenApiSharp.Text

/-- Whether a code point lies in one of the ascending closed ranges. -/
def inRanges : List (Nat × Nat) → Nat → Bool
  | [], _ => false
  | (first, last) :: rest, code =>
      if code < first then false
      else code ≤ last || inRanges rest code

/-- Code points from `first` to `last`, taken `step` apart. -/
structure CodeRun where
  first : Nat
  last : Nat
  step : Nat
  deriving DecidableEq, Repr

def CodeRun.contains (run : CodeRun) (code : Nat) : Bool :=
  run.first ≤ code && code ≤ run.last && (code - run.first) % run.step == 0

/-- Whether a code point lies in one of the runs, which are ordered by their
first members. -/
def inRuns : List CodeRun → Nat → Bool
  | [], _ => false
  | run :: rest, code =>
      if code < run.first then false
      else run.contains code || inRuns rest code

/-- The lower-case hexadecimal digit of a number below sixteen. -/
def hexDigit (n : Nat) : Char :=
  if n < 10 then Char.ofNat ('0'.toNat + n) else Char.ofNat ('a'.toNat + (n - 10))

/-- The last hexadecimal digits of a number. -/
def hexDigits : Nat → Nat → List Char
  | 0, _ => []
  | width + 1, n => hexDigits width (n / 16) ++ [hexDigit (n % 16)]

/-- Whether a code point is half of a surrogate pair. -/
def isSurrogate (code : Nat) : Bool :=
  0xd800 ≤ code && code < 0xe000

/-- The distance from a half of a surrogate pair to the character that stands for
it. -/
def standInOffset : Nat := 0xd0000

/-- The mark in front of a character of the block that stands for itself. -/
def literalMark : Char := Char.ofNat 0xdd7ff

/-- Whether a character is the mark or stands for half of a surrogate pair. -/
def isReserved (c : Char) : Bool :=
  0xdd7ff ≤ c.toNat && c.toNat < 0xde000

/-- The characters that hold a code point. -/
def charsOfCode (code : Nat) : List Char :=
  if isSurrogate code then [Char.ofNat (code + standInOffset)]
  else if isReserved (Char.ofNat code) then [literalMark, Char.ofNat code]
  else [Char.ofNat code]

/-- The code point that a character stands for without a mark in front of it. -/
def codeOfChar (c : Char) : Nat :=
  if isReserved c then c.toNat - standInOffset else c.toNat

/-- The code points of a text that is held as characters. -/
def codesOf : List Char → List Nat
  | [] => []
  | [c] => [codeOfChar c]
  | c :: next :: rest =>
      if c = literalMark then next.toNat :: codesOf rest
      else codeOfChar c :: codesOf (next :: rest)

/-- The text of code points. -/
def textOfCodes (codes : List Nat) : String :=
  String.ofList (codes.flatMap charsOfCode)

/-- The text of characters that all stand for themselves. -/
def textOfChars (cs : List Char) : String :=
  textOfCodes (cs.map Char.toNat)

end OpenApiSharp.Text
