import Mathlib.Data.List.Forall2
import OpenApiSharp.CSharp.Source
import OpenApiSharp.Proofs.CSharp.Literal
import OpenApiSharp.Proofs.CSharp.SourceLines
import OpenApiSharp.Proofs.CSharp.Using
import OpenApiSharp.Proofs.Naming.Fresh
import OpenApiSharp.Proofs.Naming.ParameterName
import OpenApiSharp.Proofs.Naming.Segment
import OpenApiSharp.Proofs.Schema.Resolve
import OpenApiSharp.Schema

/-!
# Texts that are shown in literals

The lines of a file show certain texts of the document, each inside of a literal
of its own.  Names and types have none of the characters that end a line or have to
do with literals, whatever texts they are made from.  So whether the lines end where
they should depends on the texts that are shown, and on nothing else.
-/

namespace OpenApiSharp.CSharp

open Document Naming Text

/-- The characters that end a line, stand around a literal, or begin an escape or
a comment. -/
def sourceMarks : List Char :=
  ['\n', '\r', '\x85', '\u2028', '\u2029', '"', '\\', '/']

abbrev Markless (text : String) : Prop :=
  Throughout (fun c => c ∉ sourceMarks) text.toList

theorem Markless.indented
    {line : String} (markless : Markless line) :
    Markless (indented line) := by
  have margin : Markless "    " := by decide
  exact margin.append markless

theorem Markless.onOneLine {text : String} (markless : Markless text) :
    OnOneLine text.toList := by
  intro c member
  have free := markless c member
  simp only [sourceMarks, List.mem_cons, not_or] at free
  simp [isLineEnd, free]

theorem areForeign_sourceMarks :
    AreForeign (sourceMarks.map Char.toNat) where
  letters := by decide +kernel
  numerals := by decide +kernel
  lowerForms := by decide +kernel
  added := by decide +kernel

theorem mem_sourceMarks_iff (c : Char) :
    c ∈ sourceMarks ↔ c.toNat ∈ sourceMarks.map Char.toNat := by
  rw [List.mem_map]
  constructor
  · intro member
    exact ⟨c, member, rfl⟩
  · intro image
    obtain ⟨mark, member, same⟩ := image
    rwa [← Char.toNat_inj.1 same]

theorem markless_iff_toNat {text : String} :
    Markless text ↔
      ∀ c ∈ text.toList, c.toNat ∉ sourceMarks.map Char.toNat := by
  simp only [Throughout, mem_sourceMarks_iff]

private theorem not_mem_sourceMarks_of_isWordChar
    {c : Char} (word : isWordChar c = true) : c ∉ sourceMarks := by
  rw [mem_sourceMarks_iff]
  exact
    not_mem_of_isWordChar areForeign_sourceMarks.letters
      areForeign_sourceMarks.numerals
      (areForeign_sourceMarks.not_mem_of_added (by decide)) word

theorem not_mem_sourceMarks_of_mem_capitalChar
    {c d : Char} (free : c ∉ sourceMarks) (image : d ∈ capitalChar c) :
    d ∉ sourceMarks := by
  rw [mem_sourceMarks_iff] at free ⊢
  exact
    toNat_not_mem_of_mem_capitalChar (by decide +kernel) (by decide +kernel)
      free image

private theorem markless_of_wordChars
    {text : String} (words : ∀ c ∈ text.toList, isWordChar c = true) :
    Markless text :=
  fun c member => not_mem_sourceMarks_of_isWordChar (words c member)

private theorem markless_capitalized
    {c : Char} {rest : List Char}
    (words : ∀ d ∈ c :: rest, isWordChar d = true) :
    Markless (String.ofList (capitalChar c ++ rest)) := by
  rw [List.forall_mem_cons] at words
  rw [Markless, String.toList_ofList]
  intro d member
  rcases List.mem_append.1 member with capital | behind
  · exact
      not_mem_sourceMarks_of_mem_capitalChar
        (not_mem_sourceMarks_of_isWordChar words.1) capital
  · exact not_mem_sourceMarks_of_isWordChar (words.2 d behind)

theorem markless_toString (counter : Nat) : Markless (toString counter) := by
  have digits : ∀ c ∈ asciiDigits, c ∉ sourceMarks :=
    List.all_iff_forall_prop.1 (by decide)
  intro c member
  exact digits c (mem_asciiDigits_of_mem_toString member)

private theorem markless_firstFree
    {name : String} (markless : Markless name)
    (isTaken : String → Bool) (inUse : Nat) :
    Markless (firstFree isTaken inUse name) := by
  rcases firstFree_eq isTaken inUse name with same | counted
  · rw [same]
    exact markless
  · obtain ⟨counter, _, equal⟩ := counted
    rw [equal]
    exact markless.append (markless_toString counter)

private theorem markless_uniqueName
    {name : String} (markless : Markless name) (used : List String) :
    Markless (uniqueName name used) :=
  markless_firstFree markless _ _

theorem markless_uniqueNameIgnoringCase
    {name : String} (markless : Markless name) (used : List String) :
    Markless (uniqueNameIgnoringCase name used) :=
  markless_firstFree markless _ _

private theorem markless_escapeIdentifier
    {name : String} (markless : Markless name) :
    Markless (escapeIdentifier name) := by
  rw [markless_iff_toNat] at markless ⊢
  intro c member
  exact
    areForeign_sourceMarks.not_mem_of_mem_escapeIdentifier markless member

theorem markless_typeName (raw : String) : Markless (typeName raw) :=
  markless_of_wordChars fun _ => isWordChar_of_mem_typeName

private theorem markless_capitalizeFirst
    {text : String} (words : ∀ c ∈ text.toList, isWordChar c = true) :
    Markless (capitalizeFirst text) := by
  rw [capitalizeFirst]
  cases chars : text.toList with
  | nil =>
      have empty : Markless "" := by decide
      exact empty
  | cons c rest =>
      rw [chars] at words
      exact markless_capitalized words

theorem markless_categoryFolder (category : String) :
    Markless (Model.categoryFolder category) :=
  markless_capitalizeFirst fun _ => isWordChar_of_mem_typeName

private theorem markless_memberName
    (raw : String) : Markless (memberName raw) := by
  have words : ∀ c ∈ wordChars raw, isWordChar c = true :=
    fun c member => (List.mem_filter.1 member).2
  rw [memberName]
  cases chars : wordChars raw with
  | nil =>
      have unknown : Markless "UnknownProperty" := by decide
      exact unknown
  | cons c rest =>
      rw [chars] at words
      exact markless_capitalized words

theorem markless_memberIdentifier
    (raw owner : String) (used : List String) :
    Markless (memberIdentifier raw owner used) := by
  have within : Markless (memberNameWithin raw owner) := by
    have value : Markless "Value" := by decide
    rw [memberNameWithin]
    split
    · exact (markless_memberName raw).append value
    · exact markless_memberName raw
  rw [memberIdentifier_eq_uniqueName]
  exact markless_uniqueName (markless_escapeIdentifier within) used

private theorem markless_className
    (raw : String) : Markless (className raw) := by
  rcases className_eq_or raw with general | ⟨c, rest, words, same⟩
  · rw [general]
    decide
  · rw [same]
    exact markless_capitalized words

theorem markless_serviceBaseName (tag : String) (cleanup : Cleanup) :
    Markless (serviceBaseName tag cleanup) := by
  have named := markless_className tag
  have cleaned : Markless (cleanInterfaceName (className tag) cleanup) := by
    rw [cleanInterfaceName]
    rw [Markless] at named
    cases chars : (className tag).toList with
    | nil =>
        have empty : Markless "" := by decide
        exact empty
    | cons c rest =>
        rw [chars] at named
        rw [Markless, String.toList_ofList]
        intro d member
        apply named
        exact
          List.cons_subset_cons c (dropTokens_subset cleanup 0 rest) member
  have general : Markless "General" := by decide
  rw [serviceBaseName]
  split
  · exact general
  · exact cleaned

private theorem markless_of_isLeafName
    {name : String} (leaf : IsLeafName name) : Markless name := by
  cases leaf with
  | builtIn member =>
      have plain : ∀ builtIn ∈ schemaTypeNames, Markless builtIn := by
        decide
      exact plain name member
  | model raw => exact markless_typeName raw

private theorem TypeTree.markless_text
    {tree : TypeTree} (formed : tree.IsWellFormed) : Markless tree.text := by
  have closing : Markless ">" := by decide
  induction tree with
  | leaf name =>
      exact markless_of_isLeafName
        (formed name (List.mem_singleton_self name))
  | list element =>
      have opening : Markless "List<" := by decide
      have inner : Markless element :=
        markless_of_isLeafName
          (formed element (List.mem_singleton_self element))
      exact (opening.append inner).append closing
  | dictionary value inductionHypothesis =>
      have opening : Markless "Dictionary<string, " := by decide
      exact (opening.append (inductionHypothesis formed)).append closing

theorem markless_typeText (schema : Value) :
    Markless (Schema.typeText schema) :=
  TypeTree.markless_text (Schema.isWellFormed_resolve schema)

theorem markless_returnTypeText (operation : Value) :
    Markless (Schema.returnTypeText operation) := by
  rw [Schema.returnTypeText]
  split
  · exact markless_typeText _
  · decide

/-! ## Texts that are shown -/

def IsEscaped (inside : List Char) : Prop :=
  ∃ cs : List Char, inside = cs.flatMap escapeChar

namespace IsEscaped

theorem nil : IsEscaped [] :=
  ⟨[], rfl⟩

theorem append
    {front back : List Char} (first : IsEscaped front)
    (second : IsEscaped back) : IsEscaped (front ++ back) := by
  obtain ⟨cs, rfl⟩ := first
  obtain ⟨ds, rfl⟩ := second
  exact ⟨cs ++ ds, by rw [List.flatMap_append]⟩

theorem flatMap
    {α : Type} {elements : List α} {text : α → List Char}
    (each : ∀ element ∈ elements, IsEscaped (text element)) :
    IsEscaped (elements.flatMap text) := by
  induction elements with
  | nil => exact nil
  | cons element rest inductionHypothesis =>
      rw [List.forall_mem_cons] at each
      rw [List.flatMap_cons]
      exact each.1.append (inductionHypothesis each.2)

theorem intercalate
    {separator : List Char} (between : IsEscaped separator)
    {pieces : List (List Char)} (each : ∀ piece ∈ pieces, IsEscaped piece) :
    IsEscaped (separator.intercalate pieces) := by
  induction pieces with
  | nil => exact nil
  | cons piece rest inductionHypothesis =>
      rw [List.forall_mem_cons] at each
      cases rest with
      | nil =>
          rw [List.intercalate_singleton]
          exact each.1
      | cons next more =>
          rw [List.intercalate_cons_cons]
          exact (each.1.append between).append (inductionHypothesis each.2)

theorem of_literal (text : String) : IsEscaped (literal text).toList :=
  ⟨text.toList, toList_literal text⟩

theorem of_unescaped
    {cs : List Char} (noQuote : '"' ∉ cs) (noBackslash : '\\' ∉ cs) :
    IsEscaped cs :=
  ⟨cs, (flatMap_escapeChar_eq_self noQuote noBackslash).symm⟩

private theorem exists_literal
    {inside : String} (escaped : IsEscaped inside.toList) :
    ∃ text, inside = literal text := by
  obtain ⟨cs, equal⟩ := escaped
  refine ⟨String.ofList cs, String.toList_inj.1 ?_⟩
  simp [equal]

end IsEscaped

/-- A text on one line, which has neither quotes nor backslashes as long as the
names that a user chooses have none. -/
structure Plain (unquoted : Prop) (text : String) : Prop where
  oneLine : OnOneLine text.toList
  noQuote : unquoted → '"' ∉ text.toList
  noBackslash : unquoted → '\\' ∉ text.toList

private theorem Markless.not_mem
    {text : String} (markless : Markless text) {c : Char}
    (mark : c ∈ sourceMarks) : c ∉ text.toList :=
  fun member => markless c member mark

theorem Markless.plain
    {text : String} (markless : Markless text) (unquoted : Prop) :
    Plain unquoted text where
  oneLine := markless.onOneLine
  noQuote := fun _ => markless.not_mem (by decide)
  noBackslash := fun _ => markless.not_mem (by decide)

theorem Plain.append
    {unquoted : Prop} {front back : String} (first : Plain unquoted front)
    (second : Plain unquoted back) : Plain unquoted (front ++ back) where
  oneLine := first.oneLine.append second.oneLine
  noQuote := by
    intro chosen
    rw [String.toList_append, List.mem_append, not_or]
    exact ⟨first.noQuote chosen, second.noQuote chosen⟩
  noBackslash := by
    intro chosen
    rw [String.toList_append, List.mem_append, not_or]
    exact ⟨first.noBackslash chosen, second.noBackslash chosen⟩

theorem Plain.indented
    {unquoted : Prop} {line : String} (plain : Plain unquoted line) :
    Plain unquoted (indented line) := by
  have margin : Markless "    " := by decide
  exact (margin.plain unquoted).append plain

theorem Plain.isEscaped
    {unquoted : Prop} {text : String} (plain : Plain unquoted text)
    (chosen : unquoted) : IsEscaped text.toList :=
  .of_unescaped (plain.noQuote chosen) (plain.noBackslash chosen)

/-- Lines that end where they should exactly if certain texts are on one line
each.  If not, then a literal is left open. -/
structure Shows (unquoted : Prop) (lines texts : List String) : Prop where
  oneLine :
    (∀ line ∈ lines, OnOneLine line.toList) ↔
      ∀ text ∈ texts, OnOneLine text.toList
  telling : unquoted → ∀ line ∈ lines, Telling line

namespace Shows

variable {unquoted : Prop}

theorem nil : Shows unquoted [] [] where
  oneLine := by simp
  telling := fun _ line member => by cases member

theorem append
    {lines lines' texts texts' : List String}
    (first : Shows unquoted lines texts)
    (second : Shows unquoted lines' texts') :
    Shows unquoted (lines ++ lines') (texts ++ texts') where
  oneLine := by
    rw [List.forall_mem_append, List.forall_mem_append]
    exact and_congr first.oneLine second.oneLine
  telling := by
    intro chosen
    exact List.forall_mem_append.2
      ⟨first.telling chosen, second.telling chosen⟩

theorem append_none
    {lines lines' texts : List String} (shows : Shows unquoted lines texts)
    (none : Shows unquoted lines' []) :
    Shows unquoted (lines ++ lines') texts := by
  have both := shows.append none
  rwa [List.append_nil] at both

private theorem joins : Related.Joins (Shows unquoted) where
  nil := nil
  append := append

theorem flatMap
    {α : Type} {elements : List α} {lines texts : α → List String}
    (each : ∀ element ∈ elements,
      Shows unquoted (lines element) (texts element)) :
    Shows unquoted (elements.flatMap lines) (elements.flatMap texts) :=
  joins.flatMap each

theorem plain
    {lines : List String} (each : ∀ line ∈ lines, Plain unquoted line) :
    Shows unquoted lines [] where
  oneLine := by
    refine iff_of_true (fun line member => (each line member).oneLine) ?_
    simp
  telling := by
    intro chosen line member
    have here := each line member
    exact telling_of_no_quote here.oneLine (here.noQuote chosen)

theorem line {line : String} (plain : Plain unquoted line) :
    Shows unquoted [line] [] :=
  .plain (List.forall_mem_singleton.2 plain)

theorem comments
    {lines : List String} (each : ∀ line ∈ lines, CommentLine line) :
    Shows unquoted lines [] where
  oneLine := by
    refine iff_of_true ?_ (by simp)
    intro line member
    exact onOneLine_of_unbroken (each line member).1
  telling := fun _ line member => telling_of_commentLine (each line member)

theorem map_indented
    {lines texts : List String} (shows : Shows unquoted lines texts) :
    Shows unquoted (lines.map indented) texts where
  oneLine := by
    rw [List.forall_mem_map]
    simpa using shows.oneLine
  telling := by
    intro chosen
    rw [List.forall_mem_map]
    exact fun line member => telling_indented (shows.telling chosen line member)

theorem separated
    {groups texts : List (List String)}
    (each : List.Forall₂ (Shows unquoted) groups texts) :
    Shows unquoted (separated groups) texts.flatten := by
  have joined := joins.flatten each
  have members :
      ∀ P : String → Prop, P "" →
        ((∀ line ∈ CSharp.separated groups, P line) ↔
          ∀ line ∈ groups.flatten, P line) := by
    intro P empty
    rw [forall_mem_separated empty, List.forall_mem_flatten]
  constructor
  · rw [members _ (by decide)]
    exact joined.oneLine
  · intro chosen
    rw [members _ (telling_of_no_quote (by decide) (by decide))]
    exact joined.telling chosen

theorem separated_none
    {groups : List (List String)}
    (each : ∀ group ∈ groups, Shows unquoted group []) :
    Shows unquoted (CSharp.separated groups) [] := by
  have nothing : (groups.map fun _ => ([] : List String)).flatten = [] := by
    simp
  rw [← nothing]
  exact
    separated
      (List.forall₂_map_right_iff.2 (List.forall₂_same.2 each))

/-- A line with one literal shows what stands in the literal. -/
theorem literal
    {line front inside back : String} {texts : List String}
    (spelling : line = front ++ "\"" ++ inside ++ "\"" ++ back)
    (opening : Markless front) (closing : Markless back)
    (escaped : unquoted → IsEscaped inside.toList)
    (oneLine : OnOneLine inside.toList ↔
      ∀ text ∈ texts, OnOneLine text.toList) :
    Shows unquoted [line] texts where
  oneLine := by
    have quote : OnOneLine "\"".toList := by decide
    rw [List.forall_mem_singleton, spelling]
    simp only [String.toList_append, throughout_append, quote,
      opening.onOneLine, closing.onOneLine, and_true, true_and]
    exact oneLine
  telling := by
    intro chosen
    obtain ⟨text, rfl⟩ := (escaped chosen).exists_literal
    rw [List.forall_mem_singleton, spelling]
    exact
      telling_of_literal opening.onOneLine
        (Place.behind_code (opening.not_mem (by decide))
          (opening.not_mem (by decide)))
        closing.onOneLine (closing.not_mem (by decide))

end Shows

section Heads

variable {unquoted : Prop}

theorem plain_of_mem_usings
    {types always : List String} {ownNamespace : String}
    {index : Model.NamespaceIndex}
    (given : ∀ name ∈ always, Plain unquoted name)
    (known : ∀ name found, index.lookup? name = some found →
      Plain unquoted found) {name : String}
    (member : name ∈ usings types ownNamespace index always) :
    Plain unquoted name := by
  have system : Markless "System" := by decide
  have collections : Markless "System.Collections.Generic" := by decide
  cases mem_usings_iff_needs.1 member with
  | always inAnyCase => exact given name inAnyCase
  | time _ _ => exact system.plain unquoted
  | generic _ _ => exact collections.plain unquoted
  | model _ _ looked _ _ => exact known _ _ looked

theorem plain_namespaceLine
    {name : String} (named : Plain unquoted name) :
    Plain unquoted ("namespace " ++ name ++ ";") := by
  have opening : Markless "namespace " := by decide
  have closing : Markless ";" := by decide
  exact ((opening.plain unquoted).append named).append (closing.plain unquoted)

theorem shows_header
    {names : List String} {namespaceName : String}
    (imports : ∀ name ∈ names, Plain unquoted name)
    (placed : Plain unquoted namespaceName) :
    Shows unquoted (header names namespaceName) [] := by
  have opening : Markless "using " := by decide
  have closing : Markless ";" := by decide
  have empty : Markless "" := by decide
  apply Shows.plain
  intro line member
  rcases List.mem_append.1 member with directive | behind
  · obtain ⟨name, listed, rfl⟩ := List.mem_map.1 directive
    exact
      ((opening.plain unquoted).append (imports name listed)).append
        (closing.plain unquoted)
  · simp only [List.mem_cons, List.not_mem_nil, or_false] at behind
    rcases behind with rfl | rfl | rfl
    · exact empty.plain unquoted
    · exact plain_namespaceLine placed
    · exact empty.plain unquoted

end Heads

end OpenApiSharp.CSharp
