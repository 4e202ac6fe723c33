import Mathlib.Data.List.Basic
import Mathlib.Data.List.Flatten
import OpenApiSharp.CSharp.Source
import OpenApiSharp.Proofs.Related
import OpenApiSharp.Proofs.Text.Lines
import OpenApiSharp.Proofs.Text.Search

/-!
# Reading string literals

A string literal stands in quotes, and an interpolated one has a `$` in front of
them.  Inside, a backslash goes with the backslash or the quote behind it.  In
an interpolated literal a brace that is doubled stands for one brace, and a name
in single braces is a hole that is filled with the value of the name.
-/

namespace OpenApiSharp.CSharp

open Text

/-- What stands for a character in a literal. -/
def escapeChar (c : Char) : List Char :=
  if c == '\\' || c == '"' then ['\\', c] else [c]

/-- To double the backslashes of a text and then to set one before each quote is
the same as to escape its characters one by one. -/
@[simp]
theorem toList_literal (text : String) :
    (literal text).toList = text.toList.flatMap escapeChar := by
  have backslash : "\\".toList = ['\\'] := rfl
  have doubled : "\\\\".toList = ['\\', '\\'] := rfl
  have quote : "\"".toList = ['"'] := rfl
  have marked : "\\\"".toList = ['\\', '"'] := rfl
  rw [literal, replaceAll, replaceAll, backslash, doubled, quote, marked,
    replaceFrom_singleton, replaceFrom_singleton, String.toList_ofList,
    String.toList_ofList, List.flatMap_assoc]
  refine List.flatMap_congr fun c _ => ?_
  by_cases isBackslash : c = '\\'
  · subst isBackslash
    rfl
  · by_cases isQuote : c = '"'
    · subst isQuote
      rfl
    · simp [escapeChar, isBackslash, isQuote]

/-- A piece of what a literal denotes. -/
inductive Piece where
  | character (c : Char)
  | hole (name : String)
  deriving DecidableEq, Repr

/-- The characters that a piece stands for, given the values of names. -/
def Piece.value (valueOf : String → String) : Piece → List Char
  | character c => [c]
  | hole name => (valueOf name).toList

def denoted (valueOf : String → String) (pieces : List Piece) : String :=
  String.ofList (pieces.flatMap (Piece.value valueOf))

section Denoted

variable (valueOf : String → String)

@[simp]
theorem flatMap_value_characters (cs : List Char) :
    (cs.map Piece.character).flatMap (Piece.value valueOf) = cs := by
  rw [List.flatMap_map]
  exact List.flatMap_singleton' cs

theorem flatMap_value_intercalate
    (separator : List Piece) (parts : List (List Piece)) :
    (separator.intercalate parts).flatMap (Piece.value valueOf) =
      (separator.flatMap (Piece.value valueOf)).intercalate
        (parts.map fun part => part.flatMap (Piece.value valueOf)) := by
  have joins :
      Related.Joins fun pieces cs =>
        pieces.flatMap (Piece.value valueOf) = cs :=
    { nil := rfl
      append := by
        rintro _ _ _ _ rfl rfl
        exact List.flatMap_append }
  apply joins.intercalate rfl
  rw [List.forall₂_map_right_iff, List.forall₂_same]
  intro part _
  rfl

end Denoted

def isBrace (c : Char) : Bool :=
  c == '\x7b' || c == '\x7d'

/-- A character that the name in a hole may have. -/
def isHoleChar (c : Char) : Bool :=
  !isBrace c && c != '"' && c != '\\'

/-- The piece that the first character of a text begins, and how many of the
characters behind it belong to the piece. -/
def firstPiece (interpolated : Bool) (c : Char) (rest : List Char) :
    Option (Piece × Nat) :=
  if c == '\\' then
    (rest.head?.filter fun d => d == '\\' || d == '"').map fun d =>
      (.character d, 1)
  else if interpolated && isBrace c then
    if rest.head? == some c then some (.character c, 1)
    else
      let name := rest.takeWhile isHoleChar
      if c == '\x7b' && (rest.drop name.length).head? == some '\x7d' then
        some (.hole (String.ofList name), name.length + 1)
      else none
  else some (.character c, 0)

/-- The pieces up to the first quote that is not escaped, and the text behind
that quote, after passing over the first `skipped` characters, which belong to a
piece already read. -/
def scan (interpolated : Bool) :
    Nat → List Char → Option (List Piece × List Char)
  | _, [] => none
  | skipped + 1, _ :: rest => scan interpolated skipped rest
  | 0, c :: rest =>
      if c == '"' then some ([], rest)
      else
        match firstPiece interpolated c rest with
        | none => none
        | some (piece, more) =>
            (scan interpolated more rest).map fun (pieces, behind) =>
              (piece :: pieces, behind)

/-- The pieces of a literal whose inside is followed by its closing quote and
nothing else. -/
def readInside (interpolated : Bool) (inside : List Char) :
    Option (List Piece) :=
  match scan interpolated 0 inside with
  | some (pieces, []) => some pieces
  | _ => none

/-- The pieces of an expression that is one string literal. -/
def readLiteral? (expression : String) : Option (List Piece) :=
  match expression.toList with
  | '"' :: inside => readInside false inside
  | '$' :: '"' :: inside => readInside true inside
  | _ => none

/-- A character at which a line of the generated code ends. -/
def isLineEnd (c : Char) : Bool :=
  ['\n', '\r', '\x85', '\u2028', '\u2029'].contains c

/-- No line of the generated code ends among these characters. -/
abbrev OnOneLine (cs : List Char) : Prop :=
  Throughout (fun c => isLineEnd c = false) cs

theorem flatMap_escapeChar_eq_self
    {cs : List Char} (noQuote : '"' ∉ cs) (noBackslash : '\\' ∉ cs) :
    cs.flatMap escapeChar = cs := by
  have same : ∀ c ∈ cs, escapeChar c = [c] := by
    intro c member
    have noEscape : (c == '\\' || c == '"') = false := by
      rw [Bool.or_eq_false_iff, beq_eq_false_iff_ne, beq_eq_false_iff_ne]
      constructor
      · rintro rfl
        exact noBackslash member
      · rintro rfl
        exact noQuote member
    rw [escapeChar, noEscape]
    rfl
  rw [List.flatMap_congr same, List.flatMap_singleton']

@[simp]
theorem onOneLine_escapeChar {c : Char} :
    OnOneLine (escapeChar c) ↔ isLineEnd c = false := by
  have backslash : isLineEnd '\\' = false := by decide
  rw [escapeChar]
  split <;> simp [backslash]

/-- Escaping neither ends a line nor takes its end away. -/
@[simp]
theorem onOneLine_escaped {cs : List Char} :
    OnOneLine (cs.flatMap escapeChar) ↔ OnOneLine cs := by
  simp only [throughout_flatMap, onOneLine_escapeChar]
  rfl

/-- A literal has the line ends of its text. -/
@[simp]
theorem onOneLine_literal {text : String} :
    OnOneLine (literal text).toList ↔ OnOneLine text.toList := by
  rw [toList_literal, onOneLine_escaped]

/-- An expression that is one complete string literal with certain pieces. -/
structure IsLiteral (expression : String) (pieces : List Piece) : Prop where
  read : readLiteral? expression = some pieces
  oneLine : OnOneLine expression.toList

instance (expression : String) (pieces : List Piece) :
    Decidable (IsLiteral expression pieces) :=
  decidable_of_iff
    (readLiteral? expression = some pieces ∧ OnOneLine expression.toList)
    ⟨fun parts => ⟨parts.1, parts.2⟩,
      fun literal => ⟨literal.read, literal.oneLine⟩⟩

@[simp]
private theorem scan_skip
    (interpolated : Bool) (skipped : List Char) (rest : List Char) :
    scan interpolated skipped.length (skipped ++ rest) =
      scan interpolated 0 rest := by
  induction skipped with
  | nil => rfl
  | cons c others inductionHypothesis =>
      rw [List.length_cons, List.cons_append, scan]
      exact inductionHypothesis

/-- Whatever follows the text, it is read as these pieces. -/
def Denotes
    (interpolated : Bool) (text : List Char) (pieces : List Piece) : Prop :=
  ∀ rest,
    scan interpolated 0 (text ++ rest) =
      (scan interpolated 0 rest).map fun (more, behind) =>
        (pieces ++ more, behind)

namespace Denotes

variable {interpolated : Bool}

theorem nil : Denotes interpolated [] [] := by
  intro rest
  rw [List.nil_append]
  cases scan interpolated 0 rest <;> rfl

theorem append
    {front back : List Char} {frontPieces backPieces : List Piece}
    (first : Denotes interpolated front frontPieces)
    (second : Denotes interpolated back backPieces) :
    Denotes interpolated (front ++ back) (frontPieces ++ backPieces) := by
  intro rest
  rw [List.append_assoc, first, second]
  cases scan interpolated 0 rest with
  | none => rfl
  | some result =>
      simp only [Option.map_some, List.append_assoc]

private theorem joins : Related.Joins (Denotes interpolated) where
  nil := nil
  append := append

theorem intercalate
    {α : Type} {text : α → List Char} {pieces : α → List Piece}
    {separator : List Char} {separatorPieces : List Piece}
    (between : Denotes interpolated separator separatorPieces)
    {elements : List α}
    (each : ∀ element ∈ elements,
      Denotes interpolated (text element) (pieces element)) :
    Denotes interpolated (separator.intercalate (elements.map text))
      (separatorPieces.intercalate (elements.map pieces)) := by
  apply joins.intercalate between
  rw [List.forall₂_map_left_iff, List.forall₂_map_right_iff, List.forall₂_same]
  exact each

private theorem of_firstPiece
    {c : Char} {others : List Char} {piece : Piece}
    (noQuote : c ≠ '"')
    (first : ∀ rest,
      firstPiece interpolated c (others ++ rest) =
        some (piece, others.length)) :
    Denotes interpolated (c :: others) [piece] := by
  intro rest
  have noEnd : (c == '"') = false := beq_eq_false_iff_ne.2 noQuote
  rw [List.cons_append, scan, noEnd, first]
  simp only [Bool.false_eq_true, if_false, scan_skip]
  rfl

theorem escapeChar
    {c : Char} (plain : interpolated = true → isBrace c = false) :
    Denotes interpolated (CSharp.escapeChar c) [.character c] := by
  rw [CSharp.escapeChar]
  by_cases special : (c == '\\' || c == '"') = true
  · rw [if_pos special]
    refine of_firstPiece (by decide) fun rest => ?_
    simpa [firstPiece] using special
  · rw [if_neg special]
    simp only [Bool.or_eq_true, beq_iff_eq, not_or] at special
    refine of_firstPiece special.2 fun rest => ?_
    have noHole : (interpolated && isBrace c) = false := by
      cases interpolated with
      | false => rfl
      | true => rw [plain rfl, Bool.and_false]
    simp [firstPiece, special.1, noHole]

/-- Characters that are no braces are read back from their literal. -/
theorem escaped
    {cs : List Char}
    (plain : interpolated = true → ∀ c ∈ cs, isBrace c = false) :
    Denotes interpolated (cs.flatMap CSharp.escapeChar)
      (cs.map .character) := by
  rw [← List.flatMap_singleton' (cs.map _), List.flatMap_map]
  exact joins.flatMap fun c member =>
    escapeChar fun holes => plain holes c member

theorem doubledBrace {c : Char} (brace : isBrace c = true) :
    Denotes true [c, c] [.character c] := by
  have other : c ≠ '\\' ∧ c ≠ '"' := by
    constructor <;> rintro rfl <;> cases brace
  refine of_firstPiece other.2 fun rest => ?_
  simp [firstPiece, other.1, brace]

theorem hole {name : List Char} (plain : ∀ c ∈ name, isHoleChar c = true) :
    Denotes true ('\x7b' :: (name ++ ['\x7d']))
      [.hole (String.ofList name)] := by
  refine of_firstPiece (by decide) fun rest => ?_
  have closed : isHoleChar '\x7d' = false := by decide
  have behind :
      name ++ ['\x7d'] ++ rest = name ++ '\x7d' :: rest := by
    rw [List.append_assoc, List.singleton_append]
  have taken :
      (name ++ '\x7d' :: rest).takeWhile isHoleChar = name := by
    rw [List.takeWhile_append_of_pos plain,
      List.takeWhile_cons_of_neg (by rw [closed]; decide), List.append_nil]
  have single :
      ((name ++ '\x7d' :: rest).head? == some '\x7b') = false := by
    rw [beq_eq_false_iff_ne]
    cases name with
    | nil => simp
    | cons c others =>
        have inName := plain c List.mem_cons_self
        rw [List.cons_append, List.head?_cons]
        rintro ⟨⟩
        cases inName
  rw [behind, firstPiece, taken, single]
  simp [isBrace]

private theorem readInside
    {text : List Char} {pieces : List Piece}
    (denotes : Denotes interpolated text pieces) :
    CSharp.readInside interpolated (text ++ ['"']) = some pieces := by
  have closed : scan interpolated 0 ['"'] = some ([], []) := by
    cases interpolated <;> decide
  rw [CSharp.readInside, denotes, closed]
  simp only [Option.map_some, List.append_nil]

end Denotes

/-- Whatever a text holds, it is read back from its literal. -/
theorem denotes_literal (text : String) :
    Denotes false (literal text).toList (text.toList.map .character) := by
  simpa using .escaped fun contradiction => by cases contradiction

theorem readLiteral?_plain
    {inside : String} {pieces : List Piece}
    (denotes : Denotes false inside.toList pieces) :
    readLiteral? ("\"" ++ inside ++ "\"") = some pieces := by
  have chars :
      ("\"" ++ inside ++ "\"").toList = '"' :: (inside.toList ++ ['"']) := by
    rw [String.toList_append, String.toList_append]
    rfl
  rw [readLiteral?, chars]
  exact denotes.readInside

theorem readLiteral?_interpolated
    {inside : String} {pieces : List Piece}
    (denotes : Denotes true inside.toList pieces) :
    readLiteral? ("$\"" ++ inside ++ "\"") = some pieces := by
  have chars :
      ("$\"" ++ inside ++ "\"").toList =
        '$' :: '"' :: (inside.toList ++ ['"']) := by
    rw [String.toList_append, String.toList_append]
    rfl
  rw [readLiteral?, chars]
  exact denotes.readInside

/-! ## The closing quote -/

def readBefore (c : Char) : List Char × List Char → List Char × List Char
  | (read, behind) => (c :: read, behind)

/-- The characters up to the first quote that is not escaped, and the text behind
that quote.  A backslash in front of any other character stands for itself. -/
def readString : List Char → Option (List Char × List Char)
  | [] => none
  | '\\' :: '\\' :: rest => (readString rest).map (readBefore '\\')
  | '\\' :: '"' :: rest => (readString rest).map (readBefore '"')
  | '"' :: rest => some ([], rest)
  | c :: rest => (readString rest).map (readBefore c)

theorem readString_cons
    {c : Char} (noBackslash : c ≠ '\\') (noQuote : c ≠ '"')
    (rest : List Char) :
    readString (c :: rest) = (readString rest).map (readBefore c) :=
  readString.eq_5 c rest (fun _ same _ => noBackslash same)
    (fun _ same _ => noBackslash same) noQuote

/-- Where the reader has stopped does not depend on how the text goes on. -/
theorem readString_append
    {cs read behind : List Char} (stopped : readString cs = some (read, behind))
    (more : List Char) :
    readString (cs ++ more) = some (read, behind ++ more) := by
  induction cs using readString.induct generalizing read with
  | case1 => cases stopped
  | case2 rest inductionHypothesis =>
      obtain ⟨⟨inner, _⟩, again, same⟩ := Option.map_eq_some_iff.1 stopped
      cases same
      change Option.map _ (readString (rest ++ more)) = _
      rw [inductionHypothesis again]
      rfl
  | case3 rest inductionHypothesis =>
      obtain ⟨⟨inner, _⟩, again, same⟩ := Option.map_eq_some_iff.1 stopped
      cases same
      change Option.map _ (readString (rest ++ more)) = _
      rw [inductionHypothesis again]
      rfl
  | case4 rest =>
      cases stopped
      rfl
  | case5 c rest noBackslash noQuote other inductionHypothesis =>
      rw [readString.eq_5 c rest noBackslash noQuote other] at stopped
      obtain ⟨⟨inner, _⟩, again, same⟩ := Option.map_eq_some_iff.1 stopped
      cases same
      cases rest with
      | nil => cases again
      | cons d others =>
          have backslash :
              ∀ inside, c = '\\' → d :: (others ++ more) ≠ '\\' :: inside := by
            intro _ escape equal
            rw [(List.cons.inj equal).1] at noBackslash
            exact noBackslash others escape rfl
          have quote :
              ∀ inside, c = '\\' → d :: (others ++ more) ≠ '"' :: inside := by
            intro _ escape equal
            rw [(List.cons.inj equal).1] at noQuote
            exact noQuote others escape rfl
          rw [List.cons_append, List.cons_append,
            readString.eq_5 c _ backslash quote other, ← List.cons_append,
            inductionHypothesis again]
          rfl

@[simp]
private theorem readString_escapeChar (c : Char) (rest : List Char) :
    readString (escapeChar c ++ rest) =
      (readString rest).map (readBefore c) := by
  by_cases backslash : c = '\\'
  · subst backslash
    rfl
  · by_cases quote : c = '"'
    · subst quote
      rfl
    · have plain : escapeChar c = [c] := by
        simp [escapeChar, backslash, quote]
      rw [plain, List.singleton_append, readString_cons backslash quote]

/-- Escaped text is read as the text, whatever stands behind it. -/
@[simp]
private theorem readString_escaped (cs rest : List Char) :
    readString (cs.flatMap escapeChar ++ rest) =
      (readString rest).map fun (read, behind) => (cs ++ read, behind) := by
  induction cs with
  | nil =>
      rw [List.flatMap_nil, List.nil_append]
      exact Option.map_id_apply.symm
  | cons c others inductionHypothesis =>
      rw [List.flatMap_cons, List.append_assoc, readString_escapeChar,
        inductionHypothesis, Option.map_map]
      rfl

private theorem readString_literal (text : String) (rest : List Char) :
    readString ((literal text).toList ++ '"' :: rest) =
      some (text.toList, rest) := by
  have quote : readString ('"' :: rest) = some ([], rest) := rfl
  rw [toList_literal, readString_escaped, quote, Option.map_some]
  simp only [List.append_nil]

/-- The reader stops at no beginning of a literal. -/
private theorem readString_eq_none_of_prefix
    {text : String} {front : List Char}
    (beginning : front <+: (literal text).toList) :
    readString front = none := by
  obtain ⟨back, whole⟩ := beginning
  have closed := readString_literal text []
  rw [← whole, List.append_assoc] at closed
  cases stopped : readString front with
  | none => rfl
  | some result =>
      rw [readString_append stopped (back ++ ['"']), Option.some_inj,
        Prod.mk.injEq] at closed
      simp at closed

/-- A text in a literal is read up to the quote behind it and comes out as it
is.  So different texts have different literals, none is closed before its end,
and none takes its closing quote for a part of the text. -/
theorem literal_ends_at_closing_quote :
    (∀ text rest : String,
      readString (literal text ++ "\"" ++ rest).toList =
        some (text.toList, rest.toList)) ∧
      Function.Injective literal ∧
      ∀ (text : String) (front : List Char),
        front <+: (literal text).toList → readString front = none := by
  refine ⟨?_, ?_, fun _ _ => readString_eq_none_of_prefix⟩
  · intro text rest
    have quote : "\"".toList = ['"'] := rfl
    rw [String.toList_append, String.toList_append, quote, List.append_assoc,
      List.singleton_append, readString_literal]
  · intro text text' same
    have reading := readString_literal text []
    rw [same, readString_literal, Option.some_inj, Prod.mk.injEq] at reading
    exact String.toList_inj.1 reading.1.symm

end OpenApiSharp.CSharp
