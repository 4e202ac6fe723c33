import OpenApiSharp.CSharp.Source
import OpenApiSharp.Proofs.Text.Lines
import OpenApiSharp.Proofs.Text.Search

/-!
# Texts are read back from their comments

The lines between the tags of a summary are those of the description: without the
slashes and with the entities read they are its trimmed lines, in order.  A line
about a parameter is known by its tag, which no line of a summary can have, as no
angle bracket of a text gets into a comment.
-/

namespace OpenApiSharp.CSharp

open Text

/-- Whether the first characters of a line that are not blank are three
slashes. -/
def isDocumentation (line : List Char) : Bool :=
  "///".toList.isPrefixOf (line.dropWhile isBlank)

/-- A text without its lines of documentation. -/
def codeText (text : String) : String :=
  String.ofList
    ((fullLines text.toList).filter fun line =>
      !isDocumentation line).flatten

private theorem codeText_lineFeed (line : String) (rest : String) :
    codeText (line ++ "\n" ++ rest) = codeText (line ++ "\n") ++ codeText rest := by
  have split :
      (line ++ "\n" ++ rest).toList = line.toList ++ '\n' :: rest.toList := by
    simp
  have front : (line ++ "\n").toList = line.toList ++ ['\n'] := by
    simp
  rw [codeText, codeText, codeText, split, front, fullLines_lineFeed,
    List.filter_append, List.flatten_append, String.ofList_append]

/-- A line of a file that belongs to its documentation. -/
def CommentLine (line : String) : Prop :=
  Unbroken line.toList ∧ isDocumentation line.toList = true

instance (line : String) : Decidable (CommentLine line) :=
  instDecidableAnd

theorem isDocumentation_append
    {line : List Char} (comment : isDocumentation line = true)
    (rest : List Char) : isDocumentation (line ++ rest) = true := by
  rw [isDocumentation, List.isPrefixOf_iff_prefix] at comment ⊢
  obtain ⟨behind, equal⟩ := comment
  have visible : ¬ (line.dropWhile isBlank).isEmpty = true := by
    rw [← equal]
    simp
  rw [List.dropWhile_append, if_neg visible, ← equal, List.append_assoc]
  exact List.prefix_append _ _

private theorem codeText_of_commentLine
    {line : String} (comment : CommentLine line) :
    codeText (line ++ "\n") = "" := by
  have front : (line ++ "\n").toList = line.toList ++ ['\n'] := by
    simp
  rw [codeText, front, fullLines_of_unbroken comment.1,
    List.filter_cons_of_neg (by simp [isDocumentation_append comment.2])]
  rfl

def codeLines (lines : List String) : List String :=
  lines.filter fun line => !decide (CommentLine line)

@[simp]
theorem codeLines_append (front rest : List String) :
    codeLines (front ++ rest) = codeLines front ++ codeLines rest :=
  List.filter_append ..

private theorem codeLines_cons_of_commentLine
    {line : String} (comment : CommentLine line) (rest : List String) :
    codeLines (line :: rest) = codeLines rest := by
  simp [codeLines, comment]

theorem codeLines_cons_of_not_commentLine
    {line : String} (code : ¬ CommentLine line) (rest : List String) :
    codeLines (line :: rest) = line :: codeLines rest := by
  simp [codeLines, code]

@[simp]
theorem codeLines_cons_empty (rest : List String) :
    codeLines ("" :: rest) = "" :: codeLines rest :=
  codeLines_cons_of_not_commentLine (by decide) rest

theorem codeLines_eq_nil
    {lines : List String} (comments : ∀ line ∈ lines, CommentLine line) :
    codeLines lines = [] := by
  rw [codeLines, List.filter_eq_nil_iff]
  intro line member
  simp [comments line member]

theorem codeLines_append_of_comments
    {comments : List String} (documented : ∀ line ∈ comments, CommentLine line)
    (rest : List String) : codeLines (comments ++ rest) = codeLines rest := by
  simp [codeLines_eq_nil documented]

@[simp]
theorem codeLines_separated (groups : List (List String)) :
    codeLines (separated groups) = separated (groups.map codeLines) := by
  induction groups with
  | nil =>
      rfl
  | cons group rest inductionHypothesis =>
      cases rest with
      | nil => rfl
      | cons next more =>
          change codeLines (group ++ "" :: separated (next :: more)) = _
          rw [codeLines_append, codeLines_cons_empty, inductionHypothesis]
          rfl

/-- A test that no empty line passes leaves of separated groups what it leaves of
the groups. -/
theorem filter_separated
    {keeps : String → Bool} (empty : keeps "" = false)
    (groups : List (List String)) :
    (separated groups).filter keeps = groups.flatten.filter keeps := by
  induction groups with
  | nil => rfl
  | cons group rest inductionHypothesis =>
      cases rest with
      | nil => rw [List.flatten_singleton, separated]
      | cons next more =>
          change (group ++ "" :: separated (next :: more)).filter keeps = _
          rw [List.flatten_cons, List.filter_append, List.filter_append,
            List.filter_cons_of_neg (by rw [empty]; decide),
            inductionHypothesis]

@[simp]
theorem textOfLines_cons (line : String) (rest : List String) :
    textOfLines (line :: rest) = line ++ "\n" ++ textOfLines rest := by
  rw [textOfLines, List.map_cons, String.join_cons, textOfLines]

theorem codeText_textOfLines (lines : List String) :
    codeText (textOfLines lines) =
      codeText (textOfLines (codeLines lines)) := by
  induction lines with
  | nil =>
      rfl
  | cons line rest inductionHypothesis =>
      rw [textOfLines_cons, codeText_lineFeed, inductionHypothesis]
      by_cases comment : CommentLine line
      · rw [codeText_of_commentLine comment, String.empty_append,
          codeLines_cons_of_commentLine comment]
      · simp [codeLines_cons_of_not_commentLine comment, codeText_lineFeed]

example :
    codeText "  /// one\r\nint two;\n///three" = "int two;\n" := by
  decide

private theorem CommentLine.append
    {front rest : String} (comment : CommentLine front)
    (unbroken : Unbroken rest.toList) : CommentLine (front ++ rest) := by
  rw [CommentLine, String.toList_append]
  exact
    ⟨throughout_append.2 ⟨comment.1, unbroken⟩,
      isDocumentation_append comment.2 rest.toList⟩

private theorem CommentLine.indented
    {line : String} (comment : CommentLine line) :
    CommentLine (indented line) := by
  have margin : Unbroken "    ".toList := by decide
  have blanks : "    ".toList.all isBlank = true := by decide
  rw [CommentLine, CSharp.indented, String.toList_append]
  refine ⟨throughout_append.2 ⟨margin, comment.1⟩, ?_⟩
  rw [isDocumentation, List.dropWhile_append_of_pos (List.all_eq_true.1 blanks)]
  exact comment.2

theorem CommentLine.map_indented
    {lines : List String} (comments : ∀ line ∈ lines, CommentLine line) :
    ∀ line ∈ lines.map CSharp.indented, CommentLine line := by
  intro line member
  obtain ⟨inner, present, rfl⟩ := List.mem_map.1 member
  exact (comments inner present).indented

theorem unbroken_xmlText
    {text : String} (unbroken : Unbroken text.toList) :
    Unbroken (xmlText text).toList := by
  rw [xmlText, String.toList_ofList]
  intro c member
  obtain ⟨d, present, written⟩ := List.mem_flatMap.1 member
  have ampersand : Unbroken "&amp;".toList := by decide
  have less : Unbroken "&lt;".toList := by decide
  have greater : Unbroken "&gt;".toList := by decide
  rw [xmlChar] at written
  split at written
  · exact ampersand c written
  · split at written
    · exact less c written
    · split at written
      · exact greater c written
      · rw [List.mem_singleton.1 written]
        exact unbroken d present

theorem unbroken_singleLine (description : String) :
    Unbroken (singleLine description).toList := by
  rw [singleLine]
  refine Throughout.intercalate (by decide) fun line member => ?_
  exact unbroken_of_mem_trimmedLines (List.mem_filter.1 member).1

private theorem unbroken_withoutAt
    {name : String} (unbroken : Unbroken name.toList) :
    Unbroken (withoutAt name).toList := by
  rw [withoutAt, String.toList_ofList]
  exact unbroken.of_subset (List.dropWhile_sublist _).subset

private theorem commentLine_commentLine
    {line : String} (unbroken : Unbroken line.toList) :
    CommentLine (commentLine line) := by
  rw [commentLine]
  split
  · decide
  · exact CommentLine.append (by decide) (unbroken_xmlText unbroken)

/-- What holds of the tags of a summary and of its inner lines holds of the
block. -/
private theorem forall_mem_summaryBlock
    (P : String → Prop) {description : String}
    (opening : P "/// <summary>") (closing : P "/// </summary>")
    (inner : ∀ line ∈ trimmedLines (trim description), P (commentLine line)) :
    ∀ line ∈ summaryBlock description, P line := by
  rw [summaryBlock]
  split
  · exact List.forall_mem_nil P
  · rw [List.forall_mem_append, List.forall_mem_cons,
      List.forall_mem_singleton, List.forall_mem_map]
    exact ⟨⟨opening, inner⟩, closing⟩

theorem commentLine_of_mem_summaryBlock
    {description line : String} (member : line ∈ summaryBlock description) :
    CommentLine line :=
  forall_mem_summaryBlock CommentLine (by decide) (by decide)
    (fun _ part => commentLine_commentLine (unbroken_of_mem_trimmedLines part))
    line member

private theorem commentLine_parameterLine
    {name description : String} (named : Unbroken name.toList)
    (described : Unbroken description.toList) :
    CommentLine (parameterLine name description) := by
  have front : CommentLine "/// <param name=\"" := by decide
  have between : Unbroken "\">".toList := by decide
  have last : Unbroken "</param>".toList := by decide
  have opened := (front.append (unbroken_withoutAt named)).append between
  exact (opened.append described).append last

theorem commentLine_of_mem_methodComment
    {summary line : String} {parameters : List (String × String)}
    (unbroken : ∀ parameter ∈ parameters,
      Unbroken parameter.1.toList ∧ Unbroken parameter.2.toList)
    (member : line ∈ methodComment summary parameters) :
    CommentLine line := by
  rw [methodComment] at member
  rcases List.mem_append.1 member with summarized | listed
  · exact commentLine_of_mem_summaryBlock summarized
  · obtain ⟨parameter, kept, rfl⟩ := List.mem_map.1 listed
    have onLine := unbroken parameter (List.mem_filter.1 kept).1
    exact commentLine_parameterLine onLine.1 onLine.2

/-! ## Reading comments -/

/-- The text of which some characters are written as entities. -/
def readEntities : List Char → List Char
  | '&' :: 'a' :: 'm' :: 'p' :: ';' :: rest => '&' :: readEntities rest
  | '&' :: 'l' :: 't' :: ';' :: rest => '<' :: readEntities rest
  | '&' :: 'g' :: 't' :: ';' :: rest => '>' :: readEntities rest
  | c :: rest => c :: readEntities rest
  | [] => []

theorem readEntities_cons {c : Char} (other : c ≠ '&') (rest : List Char) :
    readEntities (c :: rest) = c :: readEntities rest :=
  readEntities.eq_4 c rest (fun _ same _ => other same)
    (fun _ same _ => other same) (fun _ same _ => other same)

@[simp]
private theorem readEntities_xmlChar (c : Char) (rest : List Char) :
    readEntities (xmlChar c ++ rest) = c :: readEntities rest := by
  by_cases ampersand : c = '&'
  · subst ampersand
    rfl
  · by_cases less : c = '<'
    · subst less
      rfl
    · by_cases greater : c = '>'
      · subst greater
        rfl
      · have plain : xmlChar c = [c] := by
          simp [xmlChar, ampersand, less, greater]
        rw [plain, List.singleton_append, readEntities_cons ampersand]

/-- Whatever a text holds, it is read back. -/
@[simp]
private theorem readEntities_xmlText (text : String) :
    readEntities (xmlText text).toList = text.toList := by
  rw [xmlText, String.toList_ofList]
  induction text.toList with
  | nil => rfl
  | cons c rest inductionHypothesis =>
      simp [inductionHypothesis]

@[simp]
theorem xmlText_eq_empty_iff {text : String} : xmlText text = "" ↔ text = "" := by
  constructor
  · intro empty
    have read := readEntities_xmlText text
    rw [empty] at read
    exact String.toList_eq_nil_iff.1 read.symm
  · rintro rfl
    rfl

private theorem angle_not_mem_xmlText
    (text : String) : '<' ∉ (xmlText text).toList := by
  rw [xmlText, String.toList_ofList, List.mem_flatMap]
  rintro ⟨c, _, written⟩
  have free : ∀ entity ∈ ["&amp;", "&lt;", "&gt;"], '<' ∉ entity.toList := by
    decide
  simp only [List.forall_mem_cons] at free
  rw [xmlChar] at written
  split at written
  · exact free.1 written
  · split at written
    · exact free.2.1 written
    · split at written
      · exact free.2.2.1 written
      · rename_i noLess _
        obtain rfl := List.mem_singleton.1 written
        exact noLess rfl

/-- The text of a comment line: what stands behind three slashes and a space, if
there is one. -/
def commentedText (line : String) : String :=
  let behind := line.toList.drop 3
  String.ofList
    (readEntities (if behind.head? = some ' ' then behind.tail else behind))

@[simp]
private theorem commentedText_commentLine (line : String) :
    commentedText (commentLine line) = line := by
  by_cases empty : line = ""
  · subst empty
    rfl
  · have written : commentLine line = "/// " ++ xmlText line := by
      rw [commentLine, if_neg (by simpa using empty)]
    have chars :
        (commentLine line).toList.drop 3 = ' ' :: (xmlText line).toList := by
      rw [written, String.toList_append]
      rfl
    rw [commentedText, chars, List.head?_cons, if_pos rfl, List.tail_cons,
      readEntities_xmlText, String.ofList_toList]

theorem beginsWith_append
    {opening front : String} (begins : beginsWith opening front = true)
    (rest : String) : beginsWith opening (front ++ rest) = true := by
  have opens := beginsWith_iff_prefix.1 begins
  refine beginsWith_iff_prefix.2 ?_
  rw [String.toList_append]
  exact opens.trans (List.prefix_append _ _)

@[simp]
private theorem beginsWith_commentLine (line : String) :
    beginsWith "///" (commentLine line) = true := by
  rw [commentLine]
  split
  · decide
  · exact beginsWith_append (by decide +kernel) _

/-- A comment that holds a description: nothing if the description is blank, else
its trimmed lines between the tags of a summary. -/
structure HoldsText (block : List String) (description : String) : Prop where
  empty : block = [] ↔ allBlank description = true
  slashes : ∀ line ∈ block, beginsWith "///" line = true
  unbroken : ∀ line ∈ block, Unbroken line.toList
  content :
    allBlank description = false →
      ∃ inner,
        block = "/// <summary>" :: inner ++ ["/// </summary>"] ∧
          inner.map commentedText = trimmedLines (trim description)

private theorem beginsWith_of_mem_summaryBlock
    {description line : String} (member : line ∈ summaryBlock description) :
    beginsWith "///" line = true :=
  forall_mem_summaryBlock (beginsWith "///" · = true) (by decide +kernel)
    (by decide +kernel) (fun piece _ => beginsWith_commentLine piece)
    line member

theorem summaryBlock_holdsText (description : String) :
    HoldsText (summaryBlock description) description where
  empty := by
    rw [summaryBlock]
    split
    · rename_i blank
      exact iff_of_true rfl blank
    · rename_i visible
      exact iff_of_false (by simp) visible
  slashes := fun _ => beginsWith_of_mem_summaryBlock
  unbroken := fun _ member => (commentLine_of_mem_summaryBlock member).1
  content := by
    intro visible
    refine ⟨(trimmedLines (trim description)).map commentLine, ?_, ?_⟩
    · rw [summaryBlock, visible]
      rfl
    · have read : commentedText ∘ commentLine = id := by
        funext line
        exact commentedText_commentLine line
      rw [List.map_map, read, List.map_id]

example :
    summaryBlock "Find <one>\r\n\u2028& only one " =
      ["/// <summary>", "/// Find &lt;one&gt;", "///", "/// &amp; only one",
       "/// </summary>"] := by
  decide +kernel

def isParameterLine (line : String) : Bool :=
  beginsWith "/// <param " line

@[simp]
private theorem isParameterLine_parameterLine (name description : String) :
    isParameterLine (parameterLine name description) = true := by
  have tag : beginsWith "/// <param " "/// <param name=\"" = true := by
    decide +kernel
  have opened := beginsWith_append (beginsWith_append tag (withoutAt name)) "\">"
  exact beginsWith_append (beginsWith_append opened description) "</param>"

@[simp]
private theorem not_isParameterLine_commentLine (line : String) :
    isParameterLine (commentLine line) = false := by
  rw [commentLine]
  split
  · decide +kernel
  · rw [← Bool.not_eq_true, isParameterLine, beginsWith_iff_prefix,
      String.toList_append]
    intro opens
    have opening : "/// <param ".toList = "/// ".toList ++ "<param ".toList := by
      decide +kernel
    rw [opening, List.prefix_append_right_inj] at opens
    exact angle_not_mem_xmlText line (opens.subset (by decide))

private theorem not_isParameterLine_of_mem_summaryBlock
    {description line : String} (member : line ∈ summaryBlock description) :
    isParameterLine line = false :=
  forall_mem_summaryBlock (isParameterLine · = false) (by decide +kernel)
    (by decide +kernel) (fun piece _ => not_isParameterLine_commentLine piece)
    line member

theorem filter_methodComment
    (summary : String) (parameters : List (String × String)) :
    (methodComment summary parameters).filter isParameterLine =
      (parameters.filter fun parameter => !parameter.2.isEmpty).map
        fun parameter => parameterLine parameter.1 parameter.2 := by
  have summaryLines :
      (summaryBlock summary).filter isParameterLine = [] := by
    rw [List.filter_eq_nil_iff]
    intro line member
    rw [not_isParameterLine_of_mem_summaryBlock member]
    decide
  rw [methodComment, List.filter_append, summaryLines, List.nil_append,
    List.filter_eq_self, List.forall_mem_map]
  exact fun parameter _ => isParameterLine_parameterLine _ _

theorem methodComment_eq
    (summary : String) (parameters : List (String × String)) :
    methodComment summary parameters =
      summaryBlock summary ++
        (methodComment summary parameters).filter isParameterLine := by
  rw [filter_methodComment, methodComment]

theorem beginsWith_of_mem_methodComment
    {summary line : String} {parameters : List (String × String)}
    (member : line ∈ methodComment summary parameters) :
    beginsWith "///" line = true := by
  rw [methodComment_eq, List.mem_append] at member
  rcases member with summarized | listed
  · exact beginsWith_of_mem_summaryBlock summarized
  · have tag := beginsWith_iff_prefix.1 (List.mem_filter.1 listed).2
    have slashes : "///".toList <+: "/// <param ".toList := by
      decide +kernel
    exact beginsWith_iff_prefix.2 (slashes.trans tag)

theorem intercalate_eq_empty_iff
    {separator : String} {lines : List String}
    (filled : ∀ line ∈ lines, line ≠ "") :
    separator.intercalate lines = "" ↔ lines = [] := by
  cases lines with
  | nil => exact iff_of_true rfl rfl
  | cons line rest =>
      have first : line ≠ "" := filled line List.mem_cons_self
      refine iff_of_false ?_ (List.cons_ne_nil line rest)
      cases rest with
      | nil =>
          rw [String.intercalate_singleton]
          exact first
      | cons next more =>
          rw [String.intercalate_cons_cons, String.append_eq_empty_iff,
            String.append_eq_empty_iff]
          exact fun empty => first empty.1.1

/-- Nothing remains of a description if and only if it is blank. -/
@[simp]
theorem singleLine_eq_empty_iff {description : String} :
    singleLine description = "" ↔ allBlank description = true := by
  rw [singleLine, intercalate_eq_empty_iff, List.filter_eq_nil_iff,
    allBlank_iff_trimmedLines]
  · simp
  · intro line member
    simpa using (List.mem_filter.1 member).2

end OpenApiSharp.CSharp
