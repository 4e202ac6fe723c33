import Mathlib.Data.List.Basic
import Mathlib.Data.List.Infix
import OpenApiSharp.Text.Search

namespace OpenApiSharp.Text

theorem indexOf?_of_prefix
    {pattern cs : List Char} (found : pattern <+: cs) :
    indexOf? pattern cs = some 0 := by
  cases cs with
  | nil =>
      rw [List.prefix_nil.1 found]
      rfl
  | cons c rest =>
      rw [indexOf?, if_pos (List.isPrefixOf_iff_prefix.2 found)]

theorem indexOf?_cons_of_unfound
    {pattern rest : List Char} {c : Char} (unfound : ¬ pattern <+: c :: rest) :
    indexOf? pattern (c :: rest) = (indexOf? pattern rest).map (· + 1) := by
  rw [indexOf?, if_neg (mt List.isPrefixOf_iff_prefix.1 unfound)]

theorem isSome_indexOf?_iff {pattern cs : List Char} :
    (indexOf? pattern cs).isSome = true ↔ pattern <:+: cs := by
  induction cs with
  | nil =>
      cases pattern <;> simp [indexOf?]
  | cons c rest inductionHypothesis =>
      rw [indexOf?, List.infix_cons_iff]
      by_cases here : pattern.isPrefixOf (c :: rest) = true
      · rw [if_pos here]
        exact iff_of_true rfl (Or.inl (List.isPrefixOf_iff_prefix.1 here))
      · rw [if_neg here, Option.isSome_map, inductionHypothesis]
        rw [List.isPrefixOf_iff_prefix] at here
        exact (or_iff_right here).symm

@[simp]
theorem isSome_indexOf?_singleton (c : Char) (cs : List Char) :
    (indexOf? [c] cs).isSome = true ↔ c ∈ cs := by
  rw [isSome_indexOf?_iff, List.singleton_infix_iff]

theorem occursIn_iff {pattern text : String} :
    occursIn pattern text = true ↔ pattern.toList <:+: text.toList :=
  isSome_indexOf?_iff

theorem beginsWith_iff_prefix {opening text : String} :
    beginsWith opening text = true ↔ opening.toList <+: text.toList :=
  List.isPrefixOf_iff_prefix

/-- Every occurrence of a single character is replaced. -/
theorem replaceFrom_singleton (c : Char) (replacement cs : List Char) :
    replaceFrom [c] replacement 0 cs =
      cs.flatMap fun d => if d = c then replacement else [d] := by
  induction cs with
  | nil => rfl
  | cons d rest inductionHypothesis =>
      have here : [c].isPrefixOf (d :: rest) = true ↔ c = d := by
        simp [List.isPrefixOf]
      rw [replaceFrom, List.flatMap_cons, ← inductionHypothesis]
      by_cases same : c = d
      · rw [if_pos (here.2 same), if_pos same.symm]
        rfl
      · rw [if_neg (mt here.1 same), if_neg (Ne.symm same)]
        rfl

variable {separator : Char}

theorem pieces_ne_nil (cs : List Char) : pieces separator cs ≠ [] := by
  cases cs with
  | nil =>
      simp [pieces]
  | cons c rest =>
      rw [pieces]
      split
      · simp
      · split <;> simp

@[simp]
private theorem pieces_cons_separator (rest : List Char) :
    pieces separator (separator :: rest) = [] :: pieces separator rest := by
  cases found : pieces separator rest with
  | nil =>
      exact absurd found (pieces_ne_nil rest)
  | cons piece more =>
      rw [pieces, found]
      simp

/-- A character other than the separator belongs to the first piece of what
stands behind it. -/
private theorem pieces_cons_of_ne
    {c : Char} (different : c ≠ separator) {rest piece : List Char}
    {more : List (List Char)} (split : pieces separator rest = piece :: more) :
    pieces separator (c :: rest) = (c :: piece) :: more := by
  have noSeparator : ¬ (c == separator) = true :=
    fun same => different (eq_of_beq same)
  simp only [pieces, split]
  rw [if_neg noSeparator]

@[simp]
theorem pieces_append_separator (front back : List Char) :
    pieces separator (front ++ separator :: back) =
      pieces separator front ++ pieces separator back := by
  induction front with
  | nil =>
      exact pieces_cons_separator back
  | cons c rest inductionHypothesis =>
      rw [List.cons_append]
      cases split : pieces separator rest with
      | nil =>
          exact absurd split (pieces_ne_nil rest)
      | cons piece more =>
          rw [split, List.cons_append] at inductionHypothesis
          by_cases same : c = separator
          · simp [same, inductionHypothesis, split]
          · rw [pieces_cons_of_ne same inductionHypothesis,
              pieces_cons_of_ne same split, List.cons_append]

theorem pieces_of_not_mem
    {cs : List Char} (whole : separator ∉ cs) :
    pieces separator cs = [cs] := by
  induction cs with
  | nil =>
      rfl
  | cons c rest inductionHypothesis =>
      rw [List.mem_cons, not_or] at whole
      exact pieces_cons_of_ne (Ne.symm whole.1) (inductionHypothesis whole.2)

theorem not_mem_of_mem_pieces
    {cs piece : List Char} (member : piece ∈ pieces separator cs) :
    separator ∉ piece := by
  induction cs generalizing piece with
  | nil =>
      rw [pieces, List.mem_singleton] at member
      rw [member]
      exact List.not_mem_nil
  | cons c rest inductionHypothesis =>
      cases split : pieces separator rest with
      | nil =>
          exact absurd split (pieces_ne_nil rest)
      | cons first more =>
          rw [split] at inductionHypothesis
          by_cases same : c = separator
          · rw [same, pieces_cons_separator, split] at member
            rcases List.mem_cons.1 member with rfl | later
            · exact List.not_mem_nil
            · exact inductionHypothesis later
          · rw [pieces_cons_of_ne same split] at member
            rcases List.mem_cons.1 member with rfl | later
            · rw [List.mem_cons, not_or]
              exact ⟨Ne.symm same, inductionHypothesis List.mem_cons_self⟩
            · exact inductionHypothesis (List.mem_cons_of_mem _ later)

theorem pieces_intercalate
    {parts : List (List Char)} (filled : parts ≠ [])
    (whole : ∀ part ∈ parts, separator ∉ part) :
    pieces separator ([separator].intercalate parts) = parts := by
  induction parts with
  | nil =>
      exact absurd rfl filled
  | cons part rest inductionHypothesis =>
      have first := pieces_of_not_mem (whole part List.mem_cons_self)
      cases rest with
      | nil =>
          rw [List.intercalate_singleton]
          exact first
      | cons next more =>
          rw [List.intercalate_cons_cons, List.append_assoc,
            List.singleton_append, pieces_append_separator, first,
            inductionHypothesis (List.cons_ne_nil _ _)
              fun other member => whole other (List.mem_cons_of_mem _ member)]
          rfl

/-- Texts without slashes can be read off the path that they make. -/
theorem intercalate_slash_injective
    {parts others : List String} (filled : parts ≠ []) (filled' : others ≠ [])
    (whole : ∀ part ∈ parts, '/' ∉ part.toList)
    (whole' : ∀ other ∈ others, '/' ∉ other.toList)
    (same : "/".intercalate parts = "/".intercalate others) :
    parts = others := by
  have slash : "/".toList = ['/'] := rfl
  have lists := congrArg (fun text => pieces '/' text.toList) same
  simp only [String.toList_intercalate, slash] at lists
  rw [pieces_intercalate (by simpa using filled) (by simpa using whole),
    pieces_intercalate (by simpa using filled') (by simpa using whole')]
    at lists
  exact List.map_injective_iff.2 (fun _ _ => String.toList_inj.1) lists

end OpenApiSharp.Text
