import Mathlib.Data.List.TakeWhile
import OpenApiSharp.Proofs.CSharp.Comment
import OpenApiSharp.Proofs.CSharp.Literal

/-!
# The lines of a source text

A compiler divides a source text at every character that ends a line, whoever put it
there.  In the text of a literal there is no quote that closes it, so only an end of
the line inside of the text leaves the literal open.
-/

namespace OpenApiSharp.CSharp

open Text

private theorem isBreak_of_isLineEnd {c : Char} (ends : isLineEnd c = true) :
    isBreak c = true := by
  have breaks :
      ∀ d ∈ ['\n', '\r', '\x85', '\u2028', '\u2029'], isBreak d = true :=
    List.all_eq_true.1 (by decide)
  exact breaks c (List.contains_iff_mem.1 ends)

theorem onOneLine_of_unbroken {cs : List Char} (unbroken : Unbroken cs) :
    OnOneLine cs := by
  intro c member
  by_contra ends
  have breaks := isBreak_of_isLineEnd (eq_true_of_ne_false ends)
  rw [unbroken c member] at breaks
  cases breaks

@[simp]
theorem onOneLine_indented {line : String} :
    OnOneLine (indented line).toList ↔ OnOneLine line.toList := by
  have margin : OnOneLine "    ".toList := by decide
  simp only [indented, String.toList_append, throughout_append, margin,
    true_and]

/-- The lines of a text, without the characters that end them.  A carriage
return leaves the end of its line to a line feed behind it, and the last end
opens no further line. -/
def sourceLinesOf : List Char → List (List Char)
  | [] => []
  | c :: rest =>
      if c == '\r' && rest.head? == some '\n' then sourceLinesOf rest
      else if isLineEnd c then [] :: sourceLinesOf rest
      else extendFirst c (sourceLinesOf rest)

/-- The lines into which a compiler divides a source text. -/
def sourceLines (text : String) : List String :=
  (sourceLinesOf text.toList).map String.ofList

private theorem sourceLinesOf_cons_of_not_isLineEnd
    {c : Char} (continues : isLineEnd c = false) (rest : List Char) :
    sourceLinesOf (c :: rest) = extendFirst c (sourceLinesOf rest) := by
  have noReturn : (c == '\r') = false := by
    rw [beq_eq_false_iff_ne]
    intro carriageReturn
    rw [carriageReturn] at continues
    cases continues
  rw [sourceLinesOf, noReturn, continues]
  rfl

/-- Behind a line feed the division starts anew. -/
private theorem sourceLinesOf_lineFeed
    {line : List Char} (oneLine : OnOneLine line) (rest : List Char) :
    sourceLinesOf (line ++ '\n' :: rest) = line :: sourceLinesOf rest := by
  induction line with
  | nil => rfl
  | cons c others inductionHypothesis =>
      obtain ⟨continues, behind⟩ := throughout_cons.1 oneLine
      rw [List.cons_append, sourceLinesOf_cons_of_not_isLineEnd continues,
        inductionHypothesis behind]
      rfl

private theorem onOneLine_of_mem_extendFirst
    {c : Char} (continues : isLineEnd c = false) {lines : List (List Char)}
    (each : ∀ line ∈ lines, OnOneLine line) :
    ∀ line ∈ extendFirst c lines, OnOneLine line := by
  cases lines with
  | nil =>
      intro line member
      rw [List.mem_singleton.1 member]
      exact throughout_cons.2 ⟨continues, throughout_nil⟩
  | cons first more =>
      rw [List.forall_mem_cons] at each
      exact List.forall_mem_cons.2
        ⟨throughout_cons.2 ⟨continues, each.1⟩, each.2⟩

private theorem onOneLine_of_mem_sourceLinesOf (cs : List Char) :
    ∀ line ∈ sourceLinesOf cs, OnOneLine line := by
  induction cs with
  | nil =>
      intro line member
      cases member
  | cons c rest inductionHypothesis =>
      rw [sourceLinesOf]
      by_cases joined : (c == '\r' && rest.head? == some '\n') = true
      · rw [if_pos joined]
        exact inductionHypothesis
      · rw [if_neg joined]
        by_cases ends : isLineEnd c = true
        · rw [if_pos ends]
          exact List.forall_mem_cons.2
            ⟨throughout_nil, inductionHypothesis⟩
        · rw [if_neg ends]
          exact onOneLine_of_mem_extendFirst (eq_false_of_ne_true ends)
            inductionHypothesis

private theorem onOneLine_of_mem_sourceLines
    {text line : String} (member : line ∈ sourceLines text) :
    OnOneLine line.toList := by
  obtain ⟨chars, divided, rfl⟩ := List.mem_map.1 member
  rw [String.toList_ofList]
  exact onOneLine_of_mem_sourceLinesOf text.toList chars divided

@[simp]
theorem textOfLines_append (front back : List String) :
    textOfLines (front ++ back) = textOfLines front ++ textOfLines back := by
  rw [textOfLines, List.map_append, String.join_append]
  rfl

/-- Besides the lines of its groups a separated list has empty lines only. -/
theorem forall_mem_separated
    {P : String → Prop} (empty : P "") (groups : List (List String)) :
    (∀ line ∈ separated groups, P line) ↔
      ∀ group ∈ groups, ∀ line ∈ group, P line := by
  induction groups with
  | nil => simp [separated]
  | cons group rest inductionHypothesis =>
      cases rest with
      | nil => simp [separated]
      | cons next more =>
          change (∀ line ∈ group ++ "" :: separated (next :: more), P line) ↔ _
          rw [List.forall_mem_append, List.forall_mem_cons,
            inductionHypothesis, List.forall_mem_cons (a := group)]
          exact and_congr_right fun _ => and_iff_right empty

theorem toList_textOfLines_cons (line : String) (rest : List String) :
    (textOfLines (line :: rest)).toList =
      line.toList ++ '\n' :: (textOfLines rest).toList := by
  rw [textOfLines_cons, String.toList_append, String.toList_append,
    List.append_assoc]
  rfl

theorem sourceLines_textOfLines_cons
    {line : String} (oneLine : OnOneLine line.toList) (rest : List String) :
    sourceLines (textOfLines (line :: rest)) =
      line :: sourceLines (textOfLines rest) := by
  rw [sourceLines, toList_textOfLines_cons, sourceLinesOf_lineFeed oneLine,
    List.map_cons, String.ofList_toList]
  rfl

theorem sourceLines_textOfLines
    {lines : List String} (oneLine : ∀ line ∈ lines, OnOneLine line.toList) :
    sourceLines (textOfLines lines) = lines := by
  induction lines with
  | nil => rfl
  | cons line rest inductionHypothesis =>
      rw [List.forall_mem_cons] at oneLine
      rw [sourceLines_textOfLines_cons oneLine.1,
        inductionHypothesis oneLine.2]

/-- The lines that a text was made of are its lines exactly if none of them ends
early. -/
theorem sourceLines_textOfLines_iff (lines : List String) :
    sourceLines (textOfLines lines) = lines ↔
      ∀ line ∈ lines, OnOneLine line.toList := by
  constructor
  · intro same line member
    rw [← same] at member
    exact onOneLine_of_mem_sourceLines member
  · exact sourceLines_textOfLines

theorem map_sourceLines_textOfLines_iff (layouts : List (List String)) :
    (layouts.map fun lines => sourceLines (textOfLines lines)) = layouts ↔
      ∀ lines ∈ layouts, ∀ line ∈ lines, OnOneLine line.toList := by
  conv_lhs => rhs; rw [← List.map_id layouts]
  rw [List.map_inj_left]
  exact forall₂_congr fun lines _ => sourceLines_textOfLines_iff lines

example :
    sourceLines "one\r\ntwo\u2028\rthree" = ["one", "two", "", "three"] := by
  decide

/-! ## Literals that are left open -/

/-- Where the reader of a line is: in code, behind a slash in code, in a comment,
in a literal, or behind a backslash in a literal. -/
inductive Place where
  | code
  | slash
  | comment
  | literal
  | escape
  deriving DecidableEq, Repr

namespace Place

/-- The place behind one more character.  The braces of an interpolated literal
are not looked at: what stands between them is still inside of the literal. -/
def next (place : Place) (c : Char) : Place :=
  match place with
  | code => if c == '"' then literal else if c == '/' then slash else code
  | slash => if c == '"' then literal else if c == '/' then comment else code
  | comment => comment
  | literal => if c == '\\' then escape else if c == '"' then code else literal
  | escape => literal

def behind (place : Place) (cs : List Char) : Place :=
  cs.foldl next place

def isOpen : Place → Bool
  | literal => true
  | escape => true
  | _ => false

@[simp]
theorem behind_append (place : Place) (front back : List Char) :
    place.behind (front ++ back) = (place.behind front).behind back :=
  List.foldl_append

@[simp]
theorem behind_cons (place : Place) (c : Char) (rest : List Char) :
    place.behind (c :: rest) = (place.next c).behind rest :=
  rfl

private theorem isOpen_next
    {place : Place} (closed : place.isOpen = false) {c : Char}
    (noQuote : c ≠ '"') : (place.next c).isOpen = false := by
  cases place with
  | literal => cases closed
  | escape => cases closed
  | comment => rfl
  | _ =>
      simp only [next, beq_iff_eq, if_neg noQuote]
      split <;> rfl

private theorem isOpen_behind
    {place : Place} (closed : place.isOpen = false) {cs : List Char}
    (noQuote : '"' ∉ cs) : (place.behind cs).isOpen = false := by
  induction cs generalizing place with
  | nil => exact closed
  | cons c rest inductionHypothesis =>
      rw [List.mem_cons, not_or] at noQuote
      rw [behind_cons]
      exact
        inductionHypothesis (isOpen_next closed (Ne.symm noQuote.1)) noQuote.2

theorem behind_code
    {cs : List Char} (noQuote : '"' ∉ cs) (noSlash : '/' ∉ cs) :
    code.behind cs = code := by
  induction cs with
  | nil => rfl
  | cons c rest inductionHypothesis =>
      rw [List.mem_cons, not_or] at noQuote noSlash
      have same : code.next c = code := by
        simp [next, Ne.symm noQuote.1, Ne.symm noSlash.1]
      simpa [same] using inductionHypothesis noQuote.2 noSlash.2

@[simp]
private theorem behind_comment
    (cs : List Char) : comment.behind cs = comment := by
  induction cs with
  | nil => rfl
  | cons c rest inductionHypothesis => exact inductionHypothesis

@[simp]
private theorem behind_escapeChar (c : Char) :
    literal.behind (escapeChar c) = literal := by
  rw [escapeChar]
  by_cases special : (c == '\\' || c == '"') = true
  · rw [if_pos special]
    rfl
  · rw [if_neg special]
    simp only [Bool.or_eq_true, beq_iff_eq, not_or] at special
    simp [behind, next, special]

@[simp]
private theorem behind_escaped (cs : List Char) :
    literal.behind (cs.flatMap escapeChar) = literal := by
  induction cs with
  | nil => rfl
  | cons c rest inductionHypothesis =>
      simp [inductionHypothesis]

private theorem isOpen_behind_of_prefix_escapeChar
    {front : List Char} {c : Char} (beginning : front <+: escapeChar c) :
    (literal.behind front).isOpen = true := by
  by_cases shorter : front = escapeChar c
  · rw [shorter, behind_escapeChar]
    rfl
  · rw [escapeChar] at beginning shorter
    by_cases special : (c == '\\' || c == '"') = true
    · rw [if_pos special] at beginning shorter
      rcases List.prefix_cons_iff.1 beginning with rfl | ⟨rest, rfl, inner⟩
      · rfl
      · rcases List.prefix_cons_iff.1 inner with rfl | ⟨more, rfl, last⟩
        · rfl
        · rw [List.prefix_nil.1 last] at shorter
          exact absurd rfl shorter
    · rw [if_neg special] at beginning shorter
      rcases List.prefix_cons_iff.1 beginning with rfl | ⟨rest, rfl, last⟩
      · rfl
      · rw [List.prefix_nil.1 last] at shorter
        exact absurd rfl shorter

private theorem isOpen_behind_prefix
    {front cs : List Char} (beginning : front <+: cs.flatMap escapeChar) :
    (literal.behind front).isOpen = true := by
  induction cs generalizing front with
  | nil =>
      rw [List.prefix_nil.1 beginning]
      rfl
  | cons c rest inductionHypothesis =>
      rw [List.flatMap_cons] at beginning
      rcases List.prefix_or_prefix_of_prefix beginning
        (List.prefix_append (escapeChar c) _) with part | ⟨others, parts⟩
      · exact isOpen_behind_of_prefix_escapeChar part
      · rw [← parts, List.prefix_append_right_inj] at beginning
        rw [← parts, behind_append, behind_escapeChar]
        exact inductionHypothesis beginning

end Place

/-- Whether all literals of a line are closed where it ends. -/
def closesLiterals (line : List Char) : Bool :=
  !(Place.code.behind line).isOpen

/-- The characters of a text before the first that ends a line. -/
def firstLine (cs : List Char) : List Char :=
  cs.takeWhile fun c => !isLineEnd c

theorem firstLine_append
    {front : List Char} (oneLine : OnOneLine front) (back : List Char) :
    firstLine (front ++ back) = front ++ firstLine back := by
  rw [firstLine, List.takeWhile_append_of_pos]
  · rfl
  · intro c member
    rw [oneLine c member]
    rfl

theorem firstLine_eq_self {cs : List Char} (oneLine : OnOneLine cs) :
    firstLine cs = cs := by
  have whole := firstLine_append oneLine []
  have nothing : firstLine [] = [] := rfl
  rwa [nothing, List.append_nil] at whole

/-- What stands behind the end of a line does not matter in front of it. -/
private theorem firstLine_append_of_not_onOneLine
    {front : List Char} (broken : ¬ OnOneLine front) (back : List Char) :
    firstLine (front ++ back) = firstLine front := by
  induction front with
  | nil => exact absurd throughout_nil broken
  | cons c rest inductionHypothesis =>
      simp only [throughout_cons, not_and] at broken
      by_cases ends : isLineEnd c = true
      · simp [firstLine, ends]
      · have continues : isLineEnd c = false := eq_false_of_ne_true ends
        have later := inductionHypothesis (broken continues)
        simp only [firstLine, List.cons_append, List.takeWhile_cons,
          continues] at later ⊢
        rw [later]

/-- A character that ends a line ends the first line where it stands. -/
theorem exists_sourceLinesOf_eq_nil_cons
    {c : Char} (ends : isLineEnd c = true) (rest : List Char) :
    ∃ more, sourceLinesOf (c :: rest) = [] :: more := by
  rw [sourceLinesOf]
  by_cases joined : (c == '\r' && rest.head? == some '\n') = true
  · rw [Bool.and_eq_true, beq_iff_eq, beq_iff_eq] at joined
    obtain ⟨others, parts⟩ := List.head?_eq_some_iff.1 joined.2
    refine ⟨sourceLinesOf others, ?_⟩
    rw [joined.1, parts]
    rfl
  · rw [if_neg joined, if_pos ends]
    exact ⟨_, rfl⟩

theorem exists_sourceLinesOf_eq_firstLine_cons (line rest : List Char) :
    ∃ more, sourceLinesOf (line ++ '\n' :: rest) = firstLine line :: more := by
  induction line with
  | nil => exact ⟨sourceLinesOf rest, rfl⟩
  | cons c others inductionHypothesis =>
      by_cases ends : isLineEnd c = true
      · have first : firstLine (c :: others) = [] := by
          simp [firstLine, ends]
        rw [first]
        exact exists_sourceLinesOf_eq_nil_cons ends _
      · have continues : isLineEnd c = false := eq_false_of_ne_true ends
        obtain ⟨more, divided⟩ := inductionHypothesis
        refine ⟨more, ?_⟩
        rw [List.cons_append, sourceLinesOf_cons_of_not_isLineEnd continues,
          divided]
        simp [extendFirst, firstLine, continues]

/-- A line that leaves a literal open exactly if it ends too early. -/
def Telling (line : String) : Prop :=
  closesLiterals (firstLine line.toList) = true ↔ OnOneLine line.toList

private theorem telling_of_closesLiterals
    {line : String} (oneLine : OnOneLine line.toList)
    (closes : closesLiterals line.toList = true) : Telling line := by
  rw [Telling, firstLine_eq_self oneLine]
  exact iff_of_true closes oneLine

theorem telling_of_no_quote
    {line : String} (oneLine : OnOneLine line.toList)
    (noQuote : '"' ∉ line.toList) : Telling line := by
  apply telling_of_closesLiterals oneLine
  rw [closesLiterals, Place.isOpen_behind rfl noQuote]
  rfl

theorem telling_of_commentLine
    {line : String} (comment : CommentLine line) : Telling line := by
  obtain ⟨unbroken, documentation⟩ := comment
  apply telling_of_closesLiterals (onOneLine_of_unbroken unbroken)
  rw [isDocumentation, List.isPrefixOf_iff_prefix] at documentation
  obtain ⟨rest, parts⟩ := documentation
  have blanks :
      ∀ c ∈ line.toList.takeWhile isBlank, c ≠ '"' ∧ c ≠ '/' := by
    intro c member
    have blank : isBlank c = true := List.mem_takeWhile_imp member
    constructor
    · rintro rfl
      cases blank
    · rintro rfl
      cases blank
  have margin :
      Place.code.behind (line.toList.takeWhile isBlank) = .code :=
    Place.behind_code (fun member => (blanks _ member).1 rfl)
      (fun member => (blanks _ member).2 rfl)
  have slashes : Place.code.behind "///".toList = .comment := by decide
  rw [closesLiterals, ← List.takeWhile_append_dropWhile (l := line.toList),
    ← parts, Place.behind_append, margin, Place.behind_append, slashes,
    Place.behind_comment]
  rfl

theorem telling_indented {line : String} (telling : Telling line) :
    Telling (indented line) := by
  have margin : OnOneLine "    ".toList := by decide
  have code : Place.code.behind "    ".toList = .code := by decide
  have same :
      closesLiterals (firstLine (indented line).toList) =
        closesLiterals (firstLine line.toList) := by
    rw [indented, String.toList_append, firstLine_append margin,
      closesLiterals, Place.behind_append, code, closesLiterals]
  simpa [Telling, same] using telling

section Literal

variable {front text back : String}
  (frontOneLine : OnOneLine front.toList)
  (code : Place.code.behind front.toList = .code)

theorem toList_around_literal (front inside back : String) :
    (front ++ "\"" ++ inside ++ "\"" ++ back).toList =
      (front ++ "\"").toList ++
        (inside.toList ++ ("\"" ++ back).toList) := by
  simp only [String.toList_append, List.append_assoc]

include code

private theorem behind_opening :
    Place.code.behind (front ++ "\"").toList = .literal := by
  rw [String.toList_append, Place.behind_append, code]
  rfl

private theorem closesLiterals_around_literal (noQuote : '"' ∉ back.toList) :
    closesLiterals (front ++ "\"" ++ literal text ++ "\"" ++ back).toList =
      true := by
  have inside : Place.literal.behind (literal text).toList = .literal := by
    rw [toList_literal]
    exact Place.behind_escaped text.toList
  have closed : (Place.literal.next '"').isOpen = false := rfl
  have chars : ("\"" ++ back).toList = '"' :: back.toList :=
    String.toList_append
  rw [closesLiterals, toList_around_literal, Place.behind_append,
    behind_opening code, Place.behind_append, inside, chars,
    Place.behind_cons, Place.isOpen_behind closed noQuote]
  rfl

include frontOneLine

private theorem not_closesLiterals_firstLine
    (broken : ¬ OnOneLine (literal text).toList) :
    closesLiterals
        (firstLine
          (front ++ "\"" ++ literal text ++ "\"" ++ back).toList) =
      false := by
  have opening : OnOneLine (front ++ "\"").toList :=
    frontOneLine.append (by decide)
  have stillOpen :
      (Place.literal.behind (firstLine (literal text).toList)).isOpen =
        true := by
    have beginning :
        firstLine (literal text).toList <+:
          text.toList.flatMap escapeChar := by
      rw [toList_literal]
      exact List.takeWhile_prefix _
    exact Place.isOpen_behind_prefix beginning
  rw [toList_around_literal, firstLine_append opening,
    firstLine_append_of_not_onOneLine broken, closesLiterals,
    Place.behind_append, behind_opening code, stillOpen]
  rfl

/-- A literal of escaped text is left open exactly if a line ends in the
text. -/
theorem telling_of_literal
    (backOneLine : OnOneLine back.toList) (noQuote : '"' ∉ back.toList) :
    Telling (front ++ "\"" ++ literal text ++ "\"" ++ back) := by
  have quote : OnOneLine "\"".toList := by decide
  by_cases oneLine : OnOneLine (literal text).toList
  · apply telling_of_closesLiterals
    · exact
        (((frontOneLine.append quote).append oneLine).append quote).append
          backOneLine
    · exact closesLiterals_around_literal code noQuote
  · rw [Telling, not_closesLiterals_firstLine frontOneLine code oneLine]
    refine iff_of_false Bool.false_ne_true fun all => ?_
    simp only [String.toList_append, throughout_append] at all
    exact oneLine all.1.1.2

end Literal

/-- Every literal of a text made of telling lines is closed on its line exactly if
none of the lines ends too early. -/
theorem forall_closesLiterals_iff
    {lines : List String} (telling : ∀ line ∈ lines, Telling line) :
    (∀ line ∈ sourceLines (textOfLines lines),
        closesLiterals line.toList = true) ↔
      ∀ line ∈ lines, OnOneLine line.toList := by
  constructor
  · intro closed
    induction lines with
    | nil =>
        intro line member
        cases member
    | cons line rest inductionHypothesis =>
        rw [List.forall_mem_cons] at telling ⊢
        obtain ⟨more, divided⟩ :=
          exists_sourceLinesOf_eq_firstLine_cons line.toList
            (textOfLines rest).toList
        have first :
            String.ofList (firstLine line.toList) ∈
              sourceLines (textOfLines (line :: rest)) := by
          rw [sourceLines, toList_textOfLines_cons, divided, List.map_cons]
          exact List.mem_cons_self
        have firstClosed := closed _ first
        rw [String.toList_ofList] at firstClosed
        have oneLine := telling.1.1 firstClosed
        rw [sourceLines_textOfLines_cons oneLine, List.forall_mem_cons]
          at closed
        exact ⟨oneLine, inductionHypothesis telling.2 closed.2⟩
  · intro oneLine line member
    rw [sourceLines_textOfLines oneLine] at member
    have here := oneLine line member
    have closes := (telling line member).2 here
    rwa [firstLine_eq_self here] at closes

end OpenApiSharp.CSharp
