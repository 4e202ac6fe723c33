import Mathlib.Data.Set.Operations
import OpenApiSharp.Model.Inventory
import OpenApiSharp.Naming.Identifier
import OpenApiSharp.Naming.ServiceName
import OpenApiSharp.Proofs.Naming.Fresh
import OpenApiSharp.Proofs.Text.LowerCase
import OpenApiSharp.Text.Search

namespace OpenApiSharp.Naming

open Text

theorem exists_letter_typeName (raw : String) :
    ∃ c rest, (typeName raw).toList = c :: rest ∧ isLetter c = true := by
  have unknown : isLetter 'U' = true := by decide
  have model : isLetter 'M' = true := by decide
  rw [typeName]
  cases words : wordChars raw with
  | nil =>
      exact ⟨'U', "nknownModel".toList, rfl, unknown⟩
  | cons c rest =>
      by_cases letter : isLetter c = true
      · refine ⟨c, rest, ?_, letter⟩
        simp only [letter, if_true, String.toList_ofList]
      · refine ⟨'M', "odel".toList ++ c :: rest, ?_, model⟩
        simp only [letter, Bool.false_eq_true, if_false,
          String.toList_append, String.toList_ofList]
        rfl

/-- What is written in front of word characters that do not begin with a letter. -/
def typePrefix : List Char → String
  | [] => "UnknownModel"
  | c :: _ => if isLetter c then "" else "Model"

/-- A type name is made of word characters behind their prefix. -/
theorem typeName_eq_append (raw : String) :
    typeName raw =
      typePrefix (wordChars raw) ++ String.ofList (wordChars raw) := by
  rw [typeName]
  cases wordChars raw with
  | nil => rfl
  | cons c rest =>
      by_cases letter : isLetter c = true
      · simp only [typePrefix, letter, if_true, String.empty_append]
      · simp only [typePrefix, letter, Bool.false_eq_true, if_false]

theorem typePrefix_mem (words : List Char) :
    typePrefix words ∈ ["UnknownModel", "", "Model"] := by
  cases words with
  | nil => exact List.mem_cons_self
  | cons c rest =>
      rw [typePrefix]
      split <;> simp

theorem isWordChar_of_mem_typeName
    {raw : String} {c : Char} (member : c ∈ (typeName raw).toList) :
    isWordChar c = true := by
  have prefixes :
      ∀ front ∈ ["UnknownModel", "", "Model"],
        front.toList.all isWordChar = true := by
    decide
  rw [typeName_eq_append, String.toList_append, String.toList_ofList] at member
  rcases List.mem_append.1 member with front | own
  · exact List.all_eq_true.1 (prefixes _ (typePrefix_mem _)) c front
  · exact (List.mem_filter.1 own).2

/-- A text that can name a type: word characters that begin with a letter. -/
structure IsTypeName (text : String) : Prop where
  first : ∃ c rest, text.toList = c :: rest ∧ isLetter c = true
  words : ∀ c ∈ text.toList, isWordChar c = true

theorem isTypeName_typeName (raw : String) : IsTypeName (typeName raw) where
  first := exists_letter_typeName raw
  words _ := isWordChar_of_mem_typeName

namespace IsTypeName

variable {text : String} (named : IsTypeName text)

include named

/-- Word characters that begin with a letter stay as they are. -/
theorem typeName_eq : typeName text = text := by
  obtain ⟨c, rest, spelling, letter⟩ := named.first
  have kept : wordChars text = c :: rest := by
    rw [wordChars, List.filter_eq_self.2 named.words, spelling]
  rw [typeName, kept]
  simp only [letter, if_true]
  rw [← spelling, String.ofList_toList]

theorem append_counter (counter : Nat) :
    IsTypeName (text ++ toString counter) where
  first := by
    obtain ⟨c, rest, spelling, letter⟩ := named.first
    refine ⟨c, rest ++ (toString counter).toList, ?_, letter⟩
    rw [String.toList_append, spelling, List.cons_append]
  words := by
    have digits : asciiDigits.all isWordChar = true := by
      decide
    intro c member
    rw [String.toList_append] at member
    rcases List.mem_append.1 member with own | digit
    · exact named.words c own
    · exact
        List.all_eq_true.1 digits c (mem_asciiDigits_of_mem_toString digit)

theorem slash_not_mem : '/' ∉ text.toList := by
  have slash : isWordChar '/' = false := by decide
  intro member
  rw [named.words _ member] at slash
  cases slash

end IsTypeName

@[simp]
theorem typeName_typeName (raw : String) :
    typeName (typeName raw) = typeName raw :=
  (isTypeName_typeName raw).typeName_eq

/-- The texts that can name a type are those that are made as type names. -/
theorem range_typeNameOf :
    Set.range typeNameOf = {text | IsTypeName text} := by
  ext text
  constructor
  · rintro ⟨raw, rfl⟩
    exact isTypeName_typeName (raw.getD "")
  · intro named
    exact ⟨some text, IsTypeName.typeName_eq named⟩

/-- The characters that divide a path, begin an extension or end a name. -/
def pathMarks : List Char :=
  ['/', '\\', '.', '\x00']

/-- A character that neither has a meaning in a path nor is blank. -/
def isSegmentChar (c : Char) : Bool :=
  !isBlank c && !pathMarks.contains c

/-- The name of one step in a path. -/
structure IsSegment (text : String) : Prop where
  filled : text ≠ ""
  plain : ∀ c ∈ text.toList, isSegmentChar c = true

instance (text : String) : Decidable (IsSegment text) :=
  decidable_of_iff (text ≠ "" ∧ text.toList.all isSegmentChar = true)
    ⟨fun parts => ⟨parts.1, List.all_eq_true.1 parts.2⟩,
      fun segment => ⟨segment.filled, List.all_eq_true.2 segment.plain⟩⟩

/-- The code points that do not belong in a segment. -/
def barredCodes : List Nat :=
  pathMarks.map Char.toNat ++
    blankRanges.flatMap fun range =>
      List.range' range.1 (range.2 + 1 - range.1)

theorem mem_flatMap_range'_of_inRanges
    {ranges : List (Nat × Nat)} {code : Nat}
    (inside : inRanges ranges code = true) :
    code ∈ ranges.flatMap fun range =>
      List.range' range.1 (range.2 + 1 - range.1) := by
  induction ranges with
  | nil =>
      cases inside
  | cons range rest inductionHypothesis =>
      rw [inRanges] at inside
      rw [List.flatMap_cons, List.mem_append]
      by_cases before : code < range.1
      · rw [if_pos before] at inside
        cases inside
      · rw [if_neg before, Bool.or_eq_true, decide_eq_true_eq] at inside
        rcases inside with here | later
        · exact Or.inl (List.mem_range'_1.2 (by omega))
        · exact Or.inr (inductionHypothesis later)

theorem isSegmentChar_iff (c : Char) :
    isSegmentChar c = true ↔ c.toNat ∉ barredCodes := by
  constructor
  · intro plain member
    have barred :
        ∀ code ∈ barredCodes, isSegmentChar (Char.ofNat code) = false := by
      decide +kernel
    have refused := barred _ member
    rw [Char.ofNat_toNat, plain] at refused
    cases refused
  · intro free
    rw [barredCodes, List.mem_append, not_or] at free
    have unblank : isBlank c = false := by
      by_contra blank
      exact free.2
        (mem_flatMap_range'_of_inRanges (eq_true_of_ne_false blank))
    have unmarked : pathMarks.contains c = false := by
      rw [List.contains_eq_mem, decide_eq_false_iff_not]
      exact fun member => free.1 (List.mem_map_of_mem member)
    rw [isSegmentChar, unblank, unmarked]
    rfl

private theorem isSegmentChar_of_isWordChar
    {c : Char} (word : isWordChar c = true) : isSegmentChar c = true :=
  (isSegmentChar_iff c).2
    (not_mem_of_isWordChar (by decide +kernel) (by decide +kernel)
      (by decide +kernel) word)

private theorem isSegmentChar_of_mem_asciiDigits
    {c : Char} (digit : c ∈ asciiDigits) : isSegmentChar c = true := by
  have all : asciiDigits.all isSegmentChar = true := by
    decide +kernel
  exact List.all_eq_true.1 all c digit

private theorem isSegmentChar_of_mem_capitalChar
    {c d : Char} (plain : isSegmentChar c = true)
    (capital : d ∈ capitalChar c) : isSegmentChar d = true := by
  rw [isSegmentChar_iff] at plain ⊢
  exact
    toNat_not_mem_of_mem_capitalChar (by decide +kernel) (by decide +kernel)
      plain capital

namespace IsSegment

private theorem ofList
    {cs : List Char} (filled : cs ≠ [])
    (plain : ∀ c ∈ cs, isSegmentChar c = true) :
    IsSegment (String.ofList cs) where
  filled := by
    intro empty
    exact filled (by simpa using congrArg String.toList empty)
  plain := by
    rw [String.toList_ofList]
    exact plain

private theorem append
    {front back : String} (segment : IsSegment front)
    (plain : ∀ c ∈ back.toList, isSegmentChar c = true) :
    IsSegment (front ++ back) where
  filled := by
    intro empty
    have lists := congrArg String.toList empty
    rw [String.toList_append] at lists
    have front_nil : front.toList = [] := (List.append_eq_nil_iff.1 lists).1
    exact segment.filled (String.toList_eq_nil_iff.1 front_nil)
  plain := by
    intro c member
    rw [String.toList_append] at member
    rcases List.mem_append.1 member with inFront | inBack
    · exact segment.plain c inFront
    · exact plain c inBack

private theorem capitalize
    {c : Char} {rest : List Char}
    (plain : ∀ d ∈ c :: rest, isSegmentChar d = true) :
    IsSegment (String.ofList (capitalChar c ++ rest)) := by
  apply ofList
  · intro empty
    exact capitalChar_ne_nil c (List.append_eq_nil_iff.1 empty).1
  · intro d member
    rcases List.mem_append.1 member with capital | behind
    · exact isSegmentChar_of_mem_capitalChar
        (plain c List.mem_cons_self) capital
    · exact plain d (List.mem_cons_of_mem _ behind)

theorem not_mem
    {text : String} (segment : IsSegment text) {c : Char}
    (special : isSegmentChar c = false) : c ∉ text.toList := by
  intro member
  rw [segment.plain c member] at special
  cases special

end IsSegment

theorem isSegment_typeName (raw : String) : IsSegment (typeName raw) where
  filled := by
    obtain ⟨c, rest, spelling, _⟩ := exists_letter_typeName raw
    intro empty
    rw [empty] at spelling
    cases spelling
  plain _ member :=
    isSegmentChar_of_isWordChar (isWordChar_of_mem_typeName member)

private theorem isSegment_capitalizeFirst
    {text : String} (segment : IsSegment text) :
    IsSegment (capitalizeFirst text) := by
  have plain := segment.plain
  rw [capitalizeFirst]
  cases chars : text.toList with
  | nil =>
      exact absurd (String.toList_eq_nil_iff.1 chars) segment.filled
  | cons c rest =>
      rw [chars] at plain
      exact .capitalize plain

-- A category and its plural may be empty or hold any character: that the plural
-- is made a type name is what makes the folder safe.
theorem isSegment_categoryFolder (category : String) :
    IsSegment (Model.categoryFolder category) :=
  isSegment_capitalizeFirst (isSegment_typeName _)

theorem isSegment_uniqueNameIgnoringCase
    {name : String} (segment : IsSegment name) (used : List String) :
    IsSegment (uniqueNameIgnoringCase name used) := by
  rw [uniqueNameIgnoringCase]
  rcases firstFree_eq (fun candidate => used.contains (lower candidate))
    used.length name with kept | counted
  · rw [kept]
    exact segment
  · obtain ⟨counter, _, equal⟩ := counted
    rw [equal, numbered]
    exact segment.append fun c member =>
      isSegmentChar_of_mem_asciiDigits
        (mem_asciiDigits_of_mem_toString member)

/-- A class name without word characters is the general one, and else it is made
of them. -/
theorem className_eq_or (raw : String) :
    className raw = "General" ∨
      ∃ c rest, (∀ d ∈ c :: rest, isWordChar d = true) ∧
        className raw = String.ofList (capitalChar c ++ rest) := by
  rw [className]
  cases chars : raw.toList.filter isAlphanumeric with
  | nil => exact Or.inl rfl
  | cons c rest =>
      refine Or.inr ⟨c, rest, fun d member => ?_, rfl⟩
      rw [← chars] at member
      rw [isWordChar, (List.mem_filter.1 member).2, Bool.true_or]

theorem isSegment_className (raw : String) : IsSegment (className raw) := by
  rcases className_eq_or raw with general | ⟨c, rest, words, same⟩
  · rw [general]
    decide +kernel
  · rw [same]
    exact .capitalize fun d member =>
      isSegmentChar_of_isWordChar (words d member)

theorem dropTokens_subset
    (cleanup : Cleanup) (skipped : Nat) (cs : List Char) :
    cleanup.dropTokens skipped cs ⊆ cs := by
  fun_induction cleanup.dropTokens skipped cs with
  | case1 skipped =>
      exact List.Subset.refl _
  | case2 skipped c rest inductionHypothesis =>
      exact List.subset_cons_of_subset _ inductionHypothesis
  | case3 c rest none inductionHypothesis =>
      exact List.cons_subset_cons _ inductionHypothesis
  | case4 c rest length token inductionHypothesis =>
      exact List.subset_cons_of_subset _ inductionHypothesis

theorem isSegment_serviceBaseName (tag : String) (cleanup : Cleanup) :
    IsSegment (serviceBaseName tag cleanup) := by
  have segment := isSegment_className tag
  have plain := segment.plain
  have cleaned :
      IsSegment (cleanInterfaceName (className tag) cleanup) := by
    rw [cleanInterfaceName]
    cases chars : (className tag).toList with
    | nil =>
        exact absurd (String.toList_eq_nil_iff.1 chars) segment.filled
    | cons c rest =>
        rw [chars] at plain
        refine .ofList (by simp) fun d member => plain d ?_
        exact List.cons_subset_cons c (dropTokens_subset cleanup 0 rest) member
  rw [serviceBaseName]
  split
  · have general : IsSegment "General" := by decide +kernel
    exact general
  · exact cleaned

end OpenApiSharp.Naming
