import Mathlib.Data.List.Basic
import Mathlib.Data.List.TakeWhile
import OpenApiSharp.Text.Search

namespace OpenApiSharp.Text

/-- Every one of these elements has a property. -/
def Throughout {α : Type} (P : α → Prop) (elements : List α) : Prop :=
  ∀ element ∈ elements, P element

instance {α : Type} (P : α → Prop) [DecidablePred P] (elements : List α) :
    Decidable (Throughout P elements) :=
  List.decidableBAll P elements

section Throughout

variable {α : Type} {P : α → Prop}

@[simp]
theorem throughout_nil : Throughout P [] :=
  List.forall_mem_nil P

@[simp]
theorem throughout_cons {element : α} {rest : List α} :
    Throughout P (element :: rest) ↔ P element ∧ Throughout P rest :=
  List.forall_mem_cons

@[simp]
theorem throughout_append {front back : List α} :
    Throughout P (front ++ back) ↔ Throughout P front ∧ Throughout P back :=
  List.forall_mem_append

@[simp]
theorem throughout_flatMap
    {β : Type} {sources : List β} {image : β → List α} :
    Throughout P (sources.flatMap image) ↔
      ∀ source ∈ sources, Throughout P (image source) :=
  List.forall_mem_flatMap

theorem throughout_intercalate
    {separator : List α} (between : Throughout P separator)
    {pieces : List (List α)} :
    Throughout P (separator.intercalate pieces) ↔
      ∀ piece ∈ pieces, Throughout P piece := by
  induction pieces with
  | nil => simp
  | cons piece rest inductionHypothesis =>
      cases rest with
      | nil => simp
      | cons next more =>
          rw [List.intercalate_cons_cons, throughout_append,
            throughout_append, inductionHypothesis, and_iff_left between,
            List.forall_mem_cons (a := piece)]

theorem Throughout.of_subset
    {elements larger : List α} (all : Throughout P larger)
    (within : elements ⊆ larger) : Throughout P elements :=
  fun element member => all element (within member)

end Throughout

section Characters

variable {P : Char → Prop}

theorem Throughout.append
    {front back : String} (first : Throughout P front.toList)
    (second : Throughout P back.toList) :
    Throughout P (front ++ back).toList := by
  rw [String.toList_append]
  exact throughout_append.2 ⟨first, second⟩

theorem Throughout.intercalate
    {separator : String} (between : Throughout P separator.toList)
    {pieces : List String} (each : ∀ piece ∈ pieces, Throughout P piece.toList) :
    Throughout P (separator.intercalate pieces).toList := by
  rw [String.toList_intercalate]
  exact (throughout_intercalate between).2 (List.forall_mem_map.2 each)

end Characters

/-- No line ends among these characters. -/
abbrev Unbroken (cs : List Char) : Prop :=
  Throughout (fun c => isBreak c = false) cs

private theorem trimChars_subset (cs : List Char) : trimChars cs ⊆ cs := by
  intro c member
  rw [trimChars, List.mem_reverse] at member
  have behind := (List.dropWhile_sublist isBlank).subset member
  rw [List.mem_reverse] at behind
  exact (List.dropWhile_sublist isBlank).subset behind

private theorem unbroken_of_mem_splitLines
    {cs line : List Char} (member : line ∈ splitLines cs) :
    Unbroken line := by
  induction cs using splitLines.induct generalizing line with
  | case1 =>
      cases member
  | case2 rest inductionHypothesis =>
      rw [splitLines] at member
      rcases List.mem_cons.1 member with rfl | later
      · exact throughout_nil
      · exact inductionHypothesis later
  | case3 c rest noPair breaks inductionHypothesis =>
      rw [splitLines.eq_3 _ _ noPair, if_pos breaks] at member
      rcases List.mem_cons.1 member with rfl | later
      · exact throughout_nil
      · exact inductionHypothesis later
  | case4 c rest noPair continues last inductionHypothesis =>
      rw [splitLines.eq_3 _ _ noPair, if_neg continues, last] at member
      rw [List.mem_singleton.1 member]
      intro d present
      rw [List.mem_singleton.1 present]
      exact eq_false_of_ne_true continues
  | case5 c rest noPair continues first more split inductionHypothesis =>
      rw [splitLines.eq_3 _ _ noPair, if_neg continues, split] at member
      rcases List.mem_cons.1 member with rfl | later
      · intro d present
        rcases List.mem_cons.1 present with rfl | inside
        · exact eq_false_of_ne_true continues
        · exact inductionHypothesis (by rw [split]; exact List.mem_cons_self)
            d inside
      · exact inductionHypothesis
          (by rw [split]; exact List.mem_cons_of_mem _ later)

theorem unbroken_of_mem_trimmedLines
    {text line : String} (member : line ∈ trimmedLines text) :
    Unbroken line.toList := by
  obtain ⟨piece, part, rfl⟩ := List.mem_map.1 member
  rw [String.toList_ofList]
  exact (unbroken_of_mem_splitLines part).of_subset (trimChars_subset piece)

/-- Whether a line ends with a character, in view of those behind it: a
carriage return before a line feed leaves the end to the line feed. -/
def endsLine (c : Char) (rest : List Char) : Bool :=
  isBreak c && !(c == '\r' && rest.head? == some '\n')

def extendFirst (c : Char) : List (List Char) → List (List Char)
  | [] => [[c]]
  | line :: more => (c :: line) :: more

/-- The lines of a list of characters, each together with the break at its
end. -/
def fullLines : List Char → List (List Char)
  | [] => []
  | c :: rest =>
      if endsLine c rest then [c] :: fullLines rest
      else extendFirst c (fullLines rest)

@[simp]
private theorem flatten_extendFirst (c : Char) (lines : List (List Char)) :
    (extendFirst c lines).flatten = c :: lines.flatten := by
  cases lines <;> rfl

@[simp]
private theorem flatten_fullLines
    (cs : List Char) : (fullLines cs).flatten = cs := by
  induction cs with
  | nil =>
      rfl
  | cons c rest inductionHypothesis =>
      by_cases ends : endsLine c rest = true
      · rw [fullLines, if_pos ends, List.flatten_cons, inductionHypothesis]
        rfl
      · simp [fullLines, ends, inductionHypothesis]

theorem extendFirst_append
    (c : Char) {lines : List (List Char)} (filled : lines ≠ [])
    (more : List (List Char)) :
    extendFirst c (lines ++ more) = extendFirst c lines ++ more := by
  cases lines with
  | nil => exact absurd rfl filled
  | cons line rest => rfl

theorem fullLines_ne_nil {cs : List Char} (filled : cs ≠ []) :
    fullLines cs ≠ [] := by
  intro empty
  rw [← flatten_fullLines cs, empty] at filled
  exact filled rfl

/-- Behind a line feed a new line begins. -/
theorem fullLines_lineFeed (front rest : List Char) :
    fullLines (front ++ '\n' :: rest) =
      fullLines (front ++ ['\n']) ++ fullLines rest := by
  induction front with
  | nil =>
      have ends : ∀ behind, endsLine '\n' behind = true := fun _ => rfl
      rw [List.nil_append, List.nil_append, fullLines, fullLines,
        if_pos (ends rest), if_pos (ends [])]
      rfl
  | cons c front inductionHypothesis =>
      have sameEnd :
          endsLine c (front ++ '\n' :: rest) =
            endsLine c (front ++ ['\n']) := by
        cases front <;> rfl
      have filled : fullLines (front ++ ['\n']) ≠ [] :=
        fullLines_ne_nil (by simp)
      rw [List.cons_append, List.cons_append, fullLines, fullLines, sameEnd,
        inductionHypothesis]
      by_cases ends : endsLine c (front ++ ['\n']) = true
      · rw [if_pos ends, if_pos ends, List.cons_append]
      · rw [if_neg ends, if_neg ends, extendFirst_append c filled]

/-- Characters on one line before a line feed are a full line with it. -/
theorem fullLines_of_unbroken {front : List Char} (unbroken : Unbroken front) :
    fullLines (front ++ ['\n']) = [front ++ ['\n']] := by
  induction front with
  | nil =>
      rfl
  | cons c front inductionHypothesis =>
      have continues : isBreak c = false := unbroken c List.mem_cons_self
      have restUnbroken : Unbroken front :=
        unbroken.of_subset (List.subset_cons_self c front)
      rw [List.cons_append, fullLines, inductionHypothesis restUnbroken,
        if_neg (by simp [endsLine, continues])]
      rfl

private theorem isBlank_of_isBreak {c : Char} (breaks : isBreak c = true) :
    isBlank c = true := by
  simp only [isBreak, breakRanges, inRanges] at breaks
  simp only [isBlank, blankRanges, inRanges]
  grind

/-- What stands behind the leading white space is blank only if all is. -/
private theorem forall_mem_dropWhile_isBlank {cs : List Char} :
    (∀ c ∈ cs.dropWhile isBlank, isBlank c = true) ↔
      ∀ c ∈ cs, isBlank c = true := by
  have parts := List.takeWhile_append_dropWhile (p := isBlank) (l := cs)
  constructor
  · intro behind c member
    rw [← parts] at member
    rcases List.mem_append.1 member with leading | later
    · exact List.mem_takeWhile_imp leading
    · exact behind c later
  · intro all c member
    exact all c ((List.dropWhile_sublist isBlank).subset member)

@[simp]
theorem trimChars_eq_nil_iff {cs : List Char} :
    trimChars cs = [] ↔ ∀ c ∈ cs, isBlank c = true := by
  rw [trimChars, List.reverse_eq_nil_iff, List.dropWhile_eq_nil_iff]
  simp only [List.mem_reverse]
  exact forall_mem_dropWhile_isBlank

/-- The lines of a text have all of its characters but those at which a line
ends. -/
private theorem flatten_splitLines (cs : List Char) :
    (splitLines cs).flatten = cs.filter fun c => !isBreak c := by
  induction cs using splitLines.induct with
  | case1 => rfl
  | case2 rest inductionHypothesis =>
      have carriageReturn : isBreak '\r' = true := by decide
      have lineFeed : isBreak '\n' = true := by decide
      rw [splitLines, List.flatten_cons, inductionHypothesis,
        List.filter_cons_of_neg (by simp [carriageReturn]),
        List.filter_cons_of_neg (by simp [lineFeed])]
      rfl
  | case3 c rest noPair breaks inductionHypothesis =>
      rw [splitLines.eq_3 _ _ noPair, if_pos breaks, List.flatten_cons,
        inductionHypothesis, List.filter_cons_of_neg (by simp [breaks])]
      rfl
  | case4 c rest noPair continues last inductionHypothesis =>
      rw [splitLines.eq_3 _ _ noPair, if_neg continues,
        List.filter_cons_of_pos (by simp [continues]), ← inductionHypothesis,
        last]
      rfl
  | case5 c rest noPair continues first more split inductionHypothesis =>
      rw [splitLines.eq_3 _ _ noPair, if_neg continues,
        List.filter_cons_of_pos (by simp [continues]), ← inductionHypothesis,
        split]
      rfl

/-- A text is blank if trimming leaves nothing of any line. -/
theorem allBlank_iff_trimmedLines {text : String} :
    allBlank text = true ↔ ∀ line ∈ trimmedLines text, line = "" := by
  rw [trimmedLines, List.forall_mem_map, allBlank, List.all_eq_true]
  simp only [String.ofList_eq_empty_iff, trimChars_eq_nil_iff]
  constructor
  · intro blank line listed c member
    have kept := List.mem_flatten_of_mem listed member
    rw [flatten_splitLines] at kept
    exact blank c (List.mem_filter.1 kept).1
  · intro blank c member
    by_cases breaks : isBreak c = true
    · exact isBlank_of_isBreak breaks
    · have kept : c ∈ (splitLines text.toList).flatten := by
        rw [flatten_splitLines]
        exact List.mem_filter.2 ⟨member, by simp [breaks]⟩
      obtain ⟨line, listed, inside⟩ := List.mem_flatten.1 kept
      exact blank line listed c inside

end OpenApiSharp.Text
