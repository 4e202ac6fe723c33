import Mathlib.Data.List.SplitBy
import OpenApiSharp.Model.Inventory
import OpenApiSharp.Naming.Category
import OpenApiSharp.Proofs.Keyed.Arrival
import OpenApiSharp.Proofs.Naming.Segment

namespace OpenApiSharp.Naming

open Text Model

/-- The first word begins with the first character. -/
theorem exists_splitCamelChars_cons (c : Char) (rest : List Char) :
    ∃ front more, splitCamelChars (c :: rest) = (c :: front) :: more := by
  rw [splitCamelChars]
  split
  · split <;> exact ⟨_, _, rfl⟩
  · exact ⟨[], [], rfl⟩

/-- The step of the split: a character in front is a word of its own if the next
one begins a word there, or else it belongs to the word of the next one. -/
theorem splitCamelChars_cons_cons (c next : Char) (behind : List Char) :
    ∃ front more, splitCamelChars (next :: behind) = (next :: front) :: more ∧
      splitCamelChars (c :: next :: behind) =
        if isUpper next && !isUpper c then [c] :: (next :: front) :: more
        else (c :: next :: front) :: more := by
  obtain ⟨front, more, words⟩ := exists_splitCamelChars_cons next behind
  refine ⟨front, more, words, ?_⟩
  rw [splitCamelChars, words, List.head?_cons]

@[simp]
private theorem flatten_splitCamelChars (cs : List Char) :
    (splitCamelChars cs).flatten = cs := by
  induction cs with
  | nil => rfl
  | cons c rest inductionHypothesis =>
      cases rest with
      | nil => rfl
      | cons next behind =>
          obtain ⟨front, more, words, split⟩ :=
            splitCamelChars_cons_cons c next behind
          rw [words] at inductionHypothesis
          rw [split]
          split <;> exact congrArg (c :: ·) inductionHypothesis

/-- A word ends between two characters if the second one is a capital and the
first one is not. -/
def WordEnds (c next : Char) : Prop :=
  isUpper c = false ∧ isUpper next = true

theorem wordEnds_iff {c next : Char} :
    WordEnds c next ↔ (isUpper next && !isUpper c) = true := by
  rw [WordEnds, Bool.and_eq_true, Bool.not_eq_true', and_comm]

instance (c next : Char) : Decidable (WordEnds c next) :=
  decidable_of_iff _ wordEnds_iff.symm

/-- Words of characters that end where words end, and hold no such place. -/
structure Cut (words : List (List Char)) : Prop where
  filled : [] ∉ words
  between :
    words.IsChain fun word following =>
      ∃ c ∈ word.getLast?, ∃ next ∈ following.head?, WordEnds c next
  within : ∀ word ∈ words, word.IsChain fun c next => ¬ WordEnds c next

namespace Cut

private theorem singleton (c : Char) : Cut [[c]] where
  filled := by simp
  between := .singleton _
  within := by
    intro word member
    rw [List.mem_singleton.1 member]
    exact .singleton c

variable {c next : Char} {front : List Char} {more : List (List Char)}
  (cut : Cut ((next :: front) :: more))

include cut

/-- A character in front may be a word of its own where a word ends. -/
private theorem begin_word (ends : WordEnds c next) :
    Cut ([c] :: (next :: front) :: more) where
  filled := by
    rw [List.mem_cons, not_or]
    exact ⟨(List.cons_ne_nil c []).symm, cut.filled⟩
  between :=
    List.isChain_cons_cons.2 ⟨⟨c, rfl, next, rfl, ends⟩, cut.between⟩
  within := by
    rw [List.forall_mem_cons]
    exact ⟨.singleton c, cut.within⟩

private theorem extend_word (stays : ¬ WordEnds c next) :
    Cut ((c :: next :: front) :: more) where
  filled := by
    have filled := cut.filled
    rw [List.mem_cons, not_or] at filled ⊢
    exact ⟨(List.cons_ne_nil c _).symm, filled.2⟩
  between := by
    have between := cut.between
    cases more with
    | nil => exact .singleton _
    | cons following others =>
        rw [List.isChain_cons_cons] at between ⊢
        rwa [List.getLast?_cons_cons]
  within := by
    have within := cut.within
    rw [List.forall_mem_cons] at within ⊢
    exact ⟨List.isChain_cons_cons.2 ⟨stays, within.1⟩, within.2⟩

end Cut

private theorem cut_splitCamelChars
    (cs : List Char) : Cut (splitCamelChars cs) := by
  induction cs with
  | nil => exact ⟨List.not_mem_nil, .nil, by simp [splitCamelChars]⟩
  | cons c rest inductionHypothesis =>
      cases rest with
      | nil => exact .singleton c
      | cons next behind =>
          obtain ⟨front, more, words, split⟩ :=
            splitCamelChars_cons_cons c next behind
          rw [words] at inductionHypothesis
          rw [split]
          by_cases ends : (isUpper next && !isUpper c) = true
          · rw [if_pos ends]
            exact inductionHypothesis.begin_word (wordEnds_iff.2 ends)
          · rw [if_neg ends]
            exact inductionHypothesis.extend_word (mt wordEnds_iff.1 ends)

/-- The words can be told from the characters: a text is divided at the places
where words end. -/
private theorem Cut.splitBy_flatten
    {words : List (List Char)} (cut : Cut words) :
    (words.flatten.splitBy fun c next => decide (¬ WordEnds c next)) =
      words := by
  apply List.splitBy_flatten cut.filled
  · simpa only [decide_eq_true_eq] using cut.within
  · refine cut.between.imp ?_
    rintro word following ⟨c, last, next, first, ends⟩
    refine
      ⟨List.ne_nil_of_mem (List.mem_of_mem_getLast? last),
        List.ne_nil_of_mem (List.mem_of_mem_head? first), ?_⟩
    rw [List.getLast_of_mem_getLast? last, List.head_of_mem_head? first]
    exact decide_eq_false (not_not_intro ends)

private theorem Cut.unique {left right : List (List Char)}
    (first : Cut left) (second : Cut right)
    (same : left.flatten = right.flatten) : left = right := by
  rw [← first.splitBy_flatten, same, second.splitBy_flatten]

/-- A word stands in its name as a connected part. -/
private theorem infix_of_mem_splitCamel
    {name word : String} (member : word ∈ splitCamel name) :
    word.toList <:+: name.toList := by
  obtain ⟨characters, split, rfl⟩ := List.mem_map.1 member
  rw [String.toList_ofList, ← flatten_splitCamelChars name.toList]
  exact List.infix_of_mem_flatten split

private theorem ne_empty_of_mem_splitCamel
    {name word : String} (member : word ∈ splitCamel name) : word ≠ "" := by
  obtain ⟨characters, split, rfl⟩ := List.mem_map.1 member
  intro empty
  have lists := congrArg String.toList empty
  rw [String.toList_ofList] at lists
  rw [lists] at split
  exact (cut_splitCamelChars name.toList).filled split

theorem eq_empty_of_splitCamel_eq_nil
    {name : String} (noWords : splitCamel name = []) : name = "" := by
  have nothing := flatten_splitCamelChars name.toList
  rw [List.map_eq_nil_iff.1 noWords] at nothing
  exact String.toList_eq_nil_iff.1 nothing.symm

/-- A name is cut into words: nothing of it is lost, and the words end where
words end and nowhere else. -/
structure CutInto (name : String) (words : List String) : Prop where
  whole : String.join words = name
  cut : Cut (words.map String.toList)

@[simp]
theorem map_toList_splitCamel (name : String) :
    (splitCamel name).map String.toList = splitCamelChars name.toList := by
  rw [splitCamel, List.map_map]
  exact List.map_id'' (fun _ => String.toList_ofList) _

private theorem cutInto_splitCamel
    (name : String) : CutInto name (splitCamel name) where
  whole := by
    apply String.toList_inj.1
    simp [String.toList_join, List.flatMap_def]
  cut := by
    simpa using cut_splitCamelChars _

/-- The words of a name are the only ones into which it can be cut. -/
theorem splitCamel_eq_iff_cutInto (name : String) (words : List String) :
    splitCamel name = words ↔ CutInto name words := by
  constructor
  · rintro rfl
    exact cutInto_splitCamel name
  · intro other
    have own := cutInto_splitCamel name
    have characters :
        ((splitCamel name).map String.toList).flatten =
          (words.map String.toList).flatten := by
      rw [← List.flatMap_def, ← List.flatMap_def, ← String.toList_join,
        ← String.toList_join, own.whole, other.whole]
    exact
      (List.map_injective_iff.2 fun _ _ => String.toList_inj.1)
        (own.cut.unique other.cut characters)

example :
    splitCamel "HTTPServerConfig2Go" = ["HTTPServer", "Config2", "Go"] := by
  decide

/-- Whether a word can name an entity: it is longer than two characters and no
common word in any case. -/
def NamesEntity (word : String) : Prop :=
  2 < word.length ∧ lower word ∉ commonWords

/-- The category that the words of a name stand for. -/
inductive EntityOf (words : List String) : String → Prop
  | common (noWords : words = []) : EntityOf words "Common"
  /-- The first word that can name an entity. -/
  | entity {front back : List String} {word : String}
      (parts : words = front ++ word :: back) (names : NamesEntity word)
      (first : ∀ earlier ∈ front, ¬ NamesEntity earlier) :
      EntityOf words word
  /-- The first word if none can. -/
  | leading {word : String} {rest : List String}
      (parts : words = word :: rest)
      (none : ∀ other ∈ words, ¬ NamesEntity other) :
      EntityOf words word

theorem namesEntity_iff {word : String} :
    (decide (2 < word.length) && !isCommonWord word) = true ↔
      NamesEntity word := by
  simp [NamesEntity, isCommonWord]

private theorem entityOf_mainEntity (name : String) :
    EntityOf (splitCamel name) (mainEntity name) := by
  cases words : splitCamel name with
  | nil =>
      rw [mainEntity, words]
      exact .common rfl
  | cons leading rest =>
      have main :
          mainEntity name =
            ((leading :: rest).find? fun word =>
              decide (2 < word.length) && !isCommonWord word).getD
                leading := by
        rw [mainEntity, words]
      rw [main]
      cases search :
          (leading :: rest).find? fun word =>
            decide (2 < word.length) && !isCommonWord word with
      | some word =>
          obtain ⟨names, front, back, parts, passed⟩ :=
            List.find?_eq_some_iff_append.1 search
          rw [Option.getD_some]
          refine
            .entity parts (namesEntity_iff.1 names) fun earlier member => ?_
          rw [← namesEntity_iff, Bool.not_eq_true, ← Bool.not_eq_true']
          exact passed earlier member
      | none =>
          rw [Option.getD_none]
          refine .leading rfl fun other member => ?_
          rw [← namesEntity_iff]
          exact List.find?_eq_none.1 search other member

/-- A category is common or one of the words. -/
private theorem EntityOf.eq_common_or_mem
    {words : List String} {category : String}
    (entity : EntityOf words category) :
    words = [] ∧ category = "Common" ∨ category ∈ words := by
  cases entity with
  | common noWords => exact Or.inl ⟨noWords, rfl⟩
  | entity parts _ _ =>
      rw [parts]
      exact Or.inr (List.mem_append_right _ List.mem_cons_self)
  | leading parts _ =>
      rw [parts]
      exact Or.inr List.mem_cons_self

/-- The namespace of a category ends with its folder, whose first character is
written in capitals: there is one, since the plural is made a type name. -/
theorem exists_modelNamespace_eq
    (config : Config) (category : String) (kind : Schema.Kind) :
    ∃ c rest, (typeName (pluralize category)).toList = c :: rest ∧
      isLetter c = true ∧
        modelNamespace config category kind =
          config.modelsNamespace ++ "." ++
            String.ofList (capitalChar c ++ rest) ++
              if kind = .enumeration then ".Enums" else "" := by
  obtain ⟨c, rest, spelling, letter⟩ :=
    exists_letter_typeName (pluralize category)
  refine ⟨c, rest, spelling, letter, ?_⟩
  rw [modelNamespace, categoryFolder, capitalizeFirst, spelling]

/-- What the sorting of some definitions by name comes to. -/
structure Sorted {α : Type} (definitions : List (String × α))
    (categories : List (String × List (String × α))) : Prop where
  /-- The definitions arrive in order, each at the category of its name. -/
  arrivals :
    categories =
      definitions.foldl
        (Keyed.arrive fun definition => categorize definition.1) []
  once : (categories.flatMap Prod.snd).Perm definitions
  own :
    ∀ definition ∈ definitions, ∃ category ∈ categories,
      category.1 = categorize definition.1 ∧ definition ∈ category.2
  members :
    ∀ category ∈ categories,
      category.2 =
        definitions.filter fun definition =>
          categorize definition.1 == category.1
  distinct : (categories.map Prod.fst).Nodup
  /-- The first definition of a category comes before those of later ones. -/
  order :
    categories.Pairwise fun earlier later =>
      (definitions.findIdx fun definition =>
          categorize definition.1 == earlier.1) <
        definitions.findIdx fun definition =>
          categorize definition.1 == later.1

theorem mem_categorizeAll_of_mem
    {α : Type} {definitions : List (String × α)} {definition : String × α}
    (member : definition ∈ definitions) :
    (categorize definition.1,
        definitions.filter fun other =>
          categorize other.1 == categorize definition.1) ∈
      categorizeAll definitions := by
  rw [categorizeAll, Keyed.mem_group_iff]
  exact ⟨List.mem_map_of_mem member, rfl⟩

private theorem sorted_categorizeAll
    {α : Type} (definitions : List (String × α)) :
    Sorted definitions (categorizeAll definitions) where
  arrivals := Keyed.group_eq_foldl _ definitions
  once := Keyed.group_perm _ definitions
  own := by
    intro definition member
    have grouped := mem_categorizeAll_of_mem member
    generalize same : categorize definition.1 = category at grouped ⊢
    exact
      ⟨_, grouped, rfl, List.mem_filter.2 ⟨member, beq_iff_eq.2 same⟩⟩
  members := by
    rintro ⟨category, members⟩ grouped
    rw [categorizeAll, Keyed.mem_group_iff] at grouped
    exact grouped.2
  distinct := Keyed.nodup_keys_group _ definitions
  order := Keyed.group_order _ definitions

/-- What the category of a name is, and what its folder is made of. -/
structure Categorized (name category : String) : Prop where
  filled : category ≠ ""
  entity : EntityOf (splitCamel (stripNoise name)) category
  part :
    stripNoise name = "" ∧ category = "Common" ∨
      category.toList <:+: (stripNoise name).toList
  folder :
    ∀ config kind, ∃ c rest,
      (typeName (pluralize category)).toList = c :: rest ∧
        isLetter c = true ∧
          modelNamespace config category kind =
            config.modelsNamespace ++ "." ++
              String.ofList (capitalChar c ++ rest) ++
                if kind = .enumeration then ".Enums" else ""

private theorem categorized_categorize (name : String) :
    Categorized name (categorize name) := by
  have entity := entityOf_mainEntity (stripNoise name)
  rw [← categorize] at entity
  have place := entity.eq_common_or_mem
  exact
    { filled := by
        rcases place with ⟨_, common⟩ | word
        · rw [common]
          decide
        · exact ne_empty_of_mem_splitCamel word
      entity
      part := place.imp
        (fun common => ⟨eq_empty_of_splitCamel_eq_nil common.1, common.2⟩)
        infix_of_mem_splitCamel
      folder := fun config kind => exists_modelNamespace_eq config _ kind }

/-- Definitions are sorted by the categories of their names, stably and without
loss, and every name has a category from which a folder can be made. -/
theorem definitions_sorted_into_categories
    {α : Type} (definitions : List (String × α)) :
    Sorted definitions (categorizeAll definitions) ∧
      ∀ name, Categorized name (categorize name) :=
  ⟨sorted_categorizeAll definitions, categorized_categorize⟩

end OpenApiSharp.Naming
