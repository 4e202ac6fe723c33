import Mathlib.Tactic.MkIffOfInductiveProp
import OpenApiSharp.Model.Inventory
import OpenApiSharp.Proofs.Naming.Segment
import OpenApiSharp.Proofs.Text.Lines
import OpenApiSharp.Proofs.Text.LowerCase

/-!
# Plurals in any case

The rule for a plural is chosen on the word in lower case and applied to the word
as it is written.  In ASCII the two come to the same but for case, so that the
folder of a category depends on the case of its name in nothing but case.
-/

namespace OpenApiSharp.Text

abbrev IsAscii (text : String) : Prop :=
  Throughout (fun c => c.toNat < 128) text.toList

/-- What the tables of case say about a character of ASCII, and what does not
depend on its case. -/
@[mk_iff]
structure AsciiCase (c : Char) : Prop where
  lowerChar_eq : lowerChar c = [c.toLower]
  capitalChar_eq : capitalChar c = [c.toUpper]
  toLower_ascii : c.toLower.toNat < 128
  toUpper_ascii : c.toUpper.toNat < 128
  toLower_toLower : c.toLower.toLower = c.toLower
  toLower_toUpper : c.toUpper.toLower = c.toLower
  isUpper_toLower : isUpper c.toLower = false
  isWordChar_toLower : isWordChar c.toLower = isWordChar c
  isLetter_toLower : isLetter c.toLower = isLetter c

instance (c : Char) : Decidable (AsciiCase c) :=
  decidable_of_iff' _ (asciiCase_iff c)

section Characters

variable {c : Char} (ascii : c.toNat < 128)

include ascii

/-- What holds of each of the first code points holds of the characters of
ASCII. -/
private theorem of_ascii {P : Char → Prop}
    (all : ∀ code < 128, P (Char.ofNat code)) : P c := by
  have own := all c.toNat ascii
  rwa [Char.ofNat_toNat] at own

private theorem asciiCase : AsciiCase c :=
  of_ascii ascii (by decide +kernel)

end Characters

section Texts

variable {text : String} (ascii : IsAscii text)

include ascii

private theorem IsAscii.sigma_not_mem : 'Σ' ∉ text.toList :=
  fun member => absurd (ascii _ member) (by decide)

theorem IsAscii.toList_lower :
    (lower text).toList = text.toList.map Char.toLower := by
  have images := List.flatMap_congr fun c member =>
    (asciiCase (ascii c member)).lowerChar_eq
  rw [Text.toList_lower, lowerAfter_of_no_sigma ascii.sigma_not_mem, images,
    List.map_eq_flatMap]

theorem IsAscii.lower_eq :
    lower text = String.ofList (text.toList.map Char.toLower) := by
  rw [← ascii.toList_lower, String.ofList_toList]

private theorem IsAscii.lower : IsAscii (lower text) := by
  intro c member
  rw [ascii.toList_lower] at member
  obtain ⟨d, present, rfl⟩ := List.mem_map.1 member
  exact (asciiCase (ascii d present)).toLower_ascii

private theorem IsAscii.lower_lower :
    Text.lower (Text.lower text) = Text.lower text := by
  apply String.toList_inj.1
  rw [ascii.lower.toList_lower, ascii.toList_lower, List.map_map]
  exact List.map_congr_left fun c member =>
    (asciiCase (ascii c member)).toLower_toLower

theorem IsAscii.lower_append
    {back : String} (second : IsAscii back) :
    Text.lower (text ++ back) = Text.lower text ++ Text.lower back :=
  lower_append_of_no_sigma (IsAscii.sigma_not_mem (ascii.append second))

theorem IsAscii.toList_capitals :
    (capitals text).toList = text.toList.map Char.toUpper := by
  have images := List.flatMap_congr fun c member =>
    (asciiCase (ascii c member)).capitalChar_eq
  rw [Text.capitals, String.toList_ofList, images, List.map_eq_flatMap]

private theorem IsAscii.capitals : IsAscii (capitals text) := by
  intro c member
  rw [ascii.toList_capitals] at member
  obtain ⟨d, present, rfl⟩ := List.mem_map.1 member
  exact (asciiCase (ascii d present)).toUpper_ascii

private theorem IsAscii.lower_capitals :
    Text.lower (Text.capitals text) = Text.lower text := by
  apply String.toList_inj.1
  rw [ascii.capitals.toList_lower, ascii.toList_capitals, ascii.toList_lower,
    List.map_map]
  exact List.map_congr_left fun c member =>
    (asciiCase (ascii c member)).toLower_toUpper

theorem IsAscii.capitalizeFirst_eq
    {c : Char} {rest : List Char} (spelling : text.toList = c :: rest) :
    Text.capitalizeFirst text = String.ofList (c.toUpper :: rest) := by
  have first : c.toNat < 128 := by
    apply ascii
    rw [spelling]
    exact List.mem_cons_self
  rw [Text.capitalizeFirst, spelling]
  simp only [(asciiCase first).capitalChar_eq, List.singleton_append]

private theorem IsAscii.capitalizeFirst :
    IsAscii (Text.capitalizeFirst text) := by
  cases spelling : text.toList with
  | nil =>
      rw [Text.capitalizeFirst, spelling]
      exact fun c member => absurd member List.not_mem_nil
  | cons first rest =>
      intro c member
      rw [ascii.capitalizeFirst_eq spelling, String.toList_ofList] at member
      rw [IsAscii, spelling] at ascii
      rcases List.mem_cons.1 member with rfl | behind
      · exact (asciiCase (ascii first List.mem_cons_self)).toUpper_ascii
      · exact ascii c (List.mem_cons_of_mem first behind)

private theorem IsAscii.lower_capitalizeFirst :
    Text.lower (Text.capitalizeFirst text) = Text.lower text := by
  apply String.toList_inj.1
  rw [ascii.capitalizeFirst.toList_lower, ascii.toList_lower]
  cases spelling : text.toList with
  | nil => rw [Text.capitalizeFirst, spelling]; rfl
  | cons first rest =>
      rw [ascii.capitalizeFirst_eq spelling, String.toList_ofList,
        List.map_cons, List.map_cons]
      rw [IsAscii, spelling] at ascii
      rw [(asciiCase (ascii first List.mem_cons_self)).toLower_toUpper]

end Texts

end OpenApiSharp.Text

namespace OpenApiSharp.Naming

open Text

/-! ## Plurals -/

private theorem isAscii_dropEnd
    {text : String} (ascii : IsAscii text) (count : Nat) :
    IsAscii (dropEnd count text) := by
  apply ascii.of_subset
  rw [dropEnd, String.toList_ofList]
  exact List.take_subset _ _

private theorem lower_dropEnd
    {text : String} (ascii : IsAscii text) (count : Nat) :
    lower (dropEnd count text) = dropEnd count (lower text) := by
  apply String.toList_inj.1
  rw [(isAscii_dropEnd ascii count).toList_lower, dropEnd, dropEnd,
    String.toList_ofList, String.toList_ofList, ascii.toList_lower,
    List.length_map, List.map_take]

@[simp]
theorem dropEnd_zero (text : String) : dropEnd 0 text = text := by
  rw [dropEnd, Nat.sub_zero, List.take_length, String.ofList_toList]

def pluralEndings : List String :=
  ["s", "es", "ies", "ves"]

/-- The ending of the lower-case word decides how many characters are dropped
from the word and what is written in their place. -/
private theorem exists_pluralByEnding (ending : List Char) :
    ∃ count, ∃ suffix ∈ pluralEndings,
      ∀ word, pluralByEnding word ending = dropEnd count word ++ suffix := by
  fun_cases pluralByEnding "" ending with
  | case1 | case2 | case3 | case4 | case5 =>
      exact
        ⟨0, "es", by decide, fun word => by rw [pluralByEnding, dropEnd_zero]⟩
  | case6 c tail vowel | case10 c tail vowel =>
      refine ⟨0, "s", by decide, fun word => ?_⟩
      simp [pluralByEnding, vowel]
  | case7 c tail other =>
      refine ⟨1, "ies", by decide, fun word => ?_⟩
      rw [pluralByEnding, if_neg other]
  | case8 => exact ⟨2, "ves", by decide, fun word => by rw [pluralByEnding]⟩
  | case9 => exact ⟨1, "ves", by decide, fun word => by rw [pluralByEnding]⟩
  | case11 c tail other =>
      refine ⟨0, "es", by decide, fun word => ?_⟩
      simp [pluralByEnding, other]
  | case12 =>
      refine ⟨0, "s", by decide, fun word => ?_⟩
      rw [dropEnd_zero]
      simp only [pluralByEnding, *]

private theorem small_of_mem_pluralEndings
    {suffix : String} (known : suffix ∈ pluralEndings) :
    IsAscii suffix ∧ lower suffix = suffix := by
  have all :
      ∀ suffix ∈ pluralEndings, IsAscii suffix ∧ lower suffix = suffix := by
    decide +kernel
  exact all suffix known

private theorem isAscii_pluralByEnding
    {word : String} (ascii : IsAscii word) (ending : List Char) :
    IsAscii (pluralByEnding word ending) := by
  obtain ⟨count, suffix, known, rule⟩ := exists_pluralByEnding ending
  rw [rule]
  exact
    (isAscii_dropEnd ascii count).append (small_of_mem_pluralEndings known).1

private theorem lower_pluralByEnding
    {word : String} (ascii : IsAscii word) (ending : List Char) :
    lower (pluralByEnding word ending) =
      pluralByEnding (lower word) ending := by
  obtain ⟨count, suffix, known, rule⟩ := exists_pluralByEnding ending
  obtain ⟨suffixAscii, suffixSmall⟩ := small_of_mem_pluralEndings known
  rw [rule, rule, (isAscii_dropEnd ascii count).lower_append suffixAscii,
    lower_dropEnd ascii, suffixSmall]

private theorem matchCase_cases
    (P : String → Prop) (source : String) {target : String}
    (capitals : P (capitals target)) (capitalized : P (capitalizeFirst target))
    (same : P target) : P (matchCase source target) := by
  rw [matchCase]
  split
  · exact capitals
  · split
    · exact capitalized
    · exact same

private theorem isAscii_matchCase
    {target : String} (ascii : IsAscii target) (source : String) :
    IsAscii (matchCase source target) :=
  matchCase_cases IsAscii source ascii.capitals ascii.capitalizeFirst ascii

private theorem lower_matchCase
    {target : String} (ascii : IsAscii target) (source : String) :
    lower (matchCase source target) = lower target :=
  matchCase_cases (lower · = lower target) source ascii.lower_capitals
    ascii.lower_capitalizeFirst rfl

private theorem matchCase_eq_of_not_isUpper
    {source : String} {c : Char} {rest : List Char}
    (spelling : source.toList = c :: rest) (small : isUpper c = false)
    (target : String) : matchCase source target = target := by
  simp [matchCase, spelling, small]

private theorem small_of_mem_irregularPlurals
    {entry : String × String} (known : entry ∈ irregularPlurals) :
    IsAscii entry.2 ∧ lower entry.2 = entry.2 := by
  have all :
      ∀ entry ∈ irregularPlurals,
        IsAscii entry.2 ∧ lower entry.2 = entry.2 := by
    decide +kernel
  exact all entry known

theorem pluralize_eq {word : String} (filled : word ≠ "") :
    pluralize word =
      if uncountable.contains (lower word) then word
      else
        match irregularPlurals.lookup (lower word) with
        | some plural => matchCase word plural
        | none => pluralByEnding word (lower word).toList.reverse := by
  have nonempty : ¬ word.isEmpty = true := mt String.isEmpty_iff.1 filled
  unfold pluralize
  exact if_neg nonempty

section Words

variable {word : String} (ascii : IsAscii word)

include ascii

private theorem isAscii_pluralize : IsAscii (pluralize word) := by
  by_cases empty : word = ""
  · rw [empty]
    exact fun c member => absurd member List.not_mem_nil
  rw [pluralize_eq empty]
  by_cases still : uncountable.contains (lower word) = true
  · rw [if_pos still]
    exact ascii
  rw [if_neg still]
  cases found : irregularPlurals.lookup (lower word) with
  | some plural =>
      have small := small_of_mem_irregularPlurals (mem_of_lookup_eq_some found)
      exact isAscii_matchCase small.1 word
  | none => exact isAscii_pluralByEnding ascii _

/-- The plural of a word in lower case is that of the word in lower case. -/
private theorem lower_pluralize :
    lower (pluralize word) = pluralize (lower word) := by
  by_cases empty : word = ""
  · rw [empty]
    rfl
  obtain ⟨c, rest, spelling⟩ :=
    List.exists_cons_of_ne_nil (mt String.toList_eq_nil_iff.1 empty)
  have smallSpelling :
      (lower word).toList = c.toLower :: rest.map Char.toLower := by
    rw [ascii.toList_lower, spelling, List.map_cons]
  have smallFilled : lower word ≠ "" := by
    intro smallEmpty
    rw [smallEmpty] at smallSpelling
    cases smallSpelling
  rw [pluralize_eq empty, pluralize_eq smallFilled, ascii.lower_lower]
  by_cases still : uncountable.contains (lower word) = true
  · rw [if_pos still, if_pos still]
  rw [if_neg still, if_neg still]
  cases found : irregularPlurals.lookup (lower word) with
  | some plural =>
      have small := small_of_mem_irregularPlurals (mem_of_lookup_eq_some found)
      have first : c.toNat < 128 := by
        apply ascii
        rw [spelling]
        exact List.mem_cons_self
      calc
        lower (matchCase word plural) = lower plural :=
          lower_matchCase small.1 word
        _ = plural := small.2
        _ = matchCase (lower word) plural :=
          (matchCase_eq_of_not_isUpper smallSpelling
            (asciiCase first).isUpper_toLower plural).symm
  | none => exact lower_pluralByEnding ascii _

end Words

private theorem isAscii_typePrefix (words : List Char) :
    IsAscii (typePrefix words) := by
  have prefixes :
      ∀ front ∈ ["UnknownModel", "", "Model"], IsAscii front := by
    decide +kernel
  exact prefixes _ (typePrefix_mem words)

section Folders

variable {text : String} (ascii : IsAscii text)

include ascii

private theorem isAscii_wordChars :
    IsAscii (String.ofList (wordChars text)) := by
  intro c member
  rw [String.toList_ofList] at member
  exact ascii c (List.mem_filter.1 member).1

private theorem wordChars_lower_of_ascii :
    wordChars (lower text) = (wordChars text).map Char.toLower := by
  rw [wordChars, wordChars, ascii.toList_lower, List.filter_map]
  congr 1
  exact List.filter_congr fun c member =>
    (asciiCase (ascii c member)).isWordChar_toLower

private theorem typePrefix_wordChars_lower :
    typePrefix (wordChars (lower text)) = typePrefix (wordChars text) := by
  have words := isAscii_wordChars ascii
  rw [wordChars_lower_of_ascii ascii]
  cases spelling : wordChars text with
  | nil => rfl
  | cons c rest =>
      have first : c.toNat < 128 := by
        apply words
        rw [String.toList_ofList, spelling]
        exact List.mem_cons_self
      rw [List.map_cons, typePrefix, typePrefix,
        (asciiCase first).isLetter_toLower]

private theorem isAscii_typeName : IsAscii (typeName text) := by
  rw [typeName_eq_append]
  exact
    (isAscii_typePrefix (wordChars text)).append (isAscii_wordChars ascii)

/-- The case of a text decides nothing about its type name but case. -/
private theorem lower_typeName :
    lower (typeName text) = lower (typeName (lower text)) := by
  have front := isAscii_typePrefix (wordChars text)
  have words := isAscii_wordChars ascii
  have smallWords :
      String.ofList (wordChars (lower text)) =
        lower (String.ofList (wordChars text)) := by
    rw [words.lower_eq, String.toList_ofList, wordChars_lower_of_ascii ascii]
  rw [typeName_eq_append, typeName_eq_append, typePrefix_wordChars_lower ascii,
    smallWords, front.lower_append words, front.lower_append words.lower,
    words.lower_lower]

end Folders

open Model

/-- Categories that differ in nothing but case have folders that differ in
nothing but case. -/
private theorem lower_categoryFolder
    {category : String} (ascii : IsAscii category) :
    lower (categoryFolder category) =
      lower (typeName (pluralize (lower category))) := by
  have plural := isAscii_pluralize ascii
  rw [categoryFolder, (isAscii_typeName plural).lower_capitalizeFirst,
    lower_typeName plural, lower_pluralize ascii]

/-- Pluralising a word ignores its case, and so does the folder that is made of
it. -/
theorem plurals_ignore_case {word : String} (ascii : IsAscii word) :
    lower (pluralize word) = pluralize (lower word) ∧
      ∀ other, IsAscii other → lower other = lower word →
        lower (categoryFolder other) = lower (categoryFolder word) := by
  refine ⟨lower_pluralize ascii, ?_⟩
  intro other otherAscii same
  rw [lower_categoryFolder otherAscii, lower_categoryFolder ascii, same]

theorem plurals_ignore_case_woman :
    IsAscii "WoMAN" ∧ IsAscii "woMan" ∧ lower "woMan" = lower "WoMAN" ∧
      lower (pluralize "WoMAN") = pluralize (lower "WoMAN") ∧
        lower (categoryFolder "woMan") = lower (categoryFolder "WoMAN") := by
  have ascii : IsAscii "WoMAN" := by decide
  have otherAscii : IsAscii "woMan" := by decide
  have same : lower "woMan" = lower "WoMAN" := by decide +kernel
  have plurals := plurals_ignore_case ascii
  exact
    ⟨ascii, otherAscii, same, plurals.1, plurals.2 "woMan" otherAscii same⟩

example : (["CHILD", "ChiLD", "X", "y", "DaY", "KniFE"].map pluralize) =
    ["CHILDREN", "Children", "Xes", "ys", "DaYs", "Knives"] := by
  decide +kernel

end OpenApiSharp.Naming
