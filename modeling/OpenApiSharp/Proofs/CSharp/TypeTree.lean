import Mathlib.Data.List.Induction
import Mathlib.Data.List.TakeWhile
import OpenApiSharp.CSharp.TypeTree
import OpenApiSharp.Proofs.Naming.Segment
import OpenApiSharp.Proofs.Text.LowerCase
import OpenApiSharp.Text.Letter

/-!
# Types and the names in them

The names at the leaves of a type have no angle brackets, so a text is that of one
type only.  A type text mentions a name where the name stands in it as a whole word,
and the scan for identifiers finds every name so mentioned, provided that it is
written in ASCII and is none of the built-in names.
-/

namespace OpenApiSharp.CSharp

open Text Naming

/-- A name stands in a text as a whole word: the characters around it, if there
are any, are no letters, numerals or underscores. -/
def Mentions (typeText name : String) : Prop :=
  ∃ before after,
    typeText.toList = before ++ (name.toList ++ after) ∧
      (∀ c, before.getLast? = some c → isWordChar c = false) ∧
      ∀ c, after.head? = some c → isWordChar c = false

private theorem isWordChar_of_isAlpha {c : Char} (alpha : c.isAlpha = true) :
    isWordChar c = true := by
  have upper :
      ∀ code ∈ List.range' 65 26, inRanges letterRanges code = true := by
    decide
  have small :
      ∀ code ∈ List.range' 97 26, inRanges letterRanges code = true := by
    decide
  have letter : isLetter c = true := by
    rcases Bool.or_eq_true_iff.1 alpha with isUpper | isLower
    · obtain ⟨least, most⟩ : 'A'.val ≤ c.val ∧ c.val ≤ 'Z'.val :=
        of_decide_eq_true isUpper
      rw [UInt32.le_iff_toNat_le] at least most
      exact upper _ (List.mem_range'_1.2 ⟨least, Nat.lt_succ_of_le most⟩)
    · obtain ⟨least, most⟩ : 'a'.val ≤ c.val ∧ c.val ≤ 'z'.val :=
        (Bool.and_eq_true_iff.1 isLower).imp of_decide_eq_true
          of_decide_eq_true
      rw [UInt32.le_iff_toNat_le] at least most
      exact small _ (List.mem_range'_1.2 ⟨least, Nat.lt_succ_of_le most⟩)
  simp only [isWordChar, isAlphanumeric, letter, Bool.true_or]

theorem isWordChar_of_isIdentifierPart
    {c : Char} (part : isIdentifierPart c = true) : isWordChar c = true := by
  have digits : ∀ c ∈ asciiDigits, isWordChar c = true :=
    List.all_iff_forall_prop.1 (by decide)
  simp only [isIdentifierPart, Char.isAlphanum, Bool.or_eq_true,
    beq_iff_eq] at part
  rcases part with (alpha | digit) | rfl
  · exact isWordChar_of_isAlpha alpha
  · exact digits c (mem_asciiDigits_of_isDigit digit)
  · decide

private theorem isIdentifierPart_of_isIdentifierStart
    {c : Char} (starts : isIdentifierStart c = true) :
    isIdentifierPart c = true := by
  simp only [isIdentifierStart, Bool.or_eq_true] at starts
  simp only [isIdentifierPart, Char.isAlphanum, Bool.or_eq_true]
  exact starts.imp_left Or.inl

/-- Of the characters of identifiers, only a digit cannot stand in front, and
it is no letter. -/
theorem isIdentifierStart_of_isLetter
    {c : Char} (letter : isLetter c = true) (part : isIdentifierPart c = true) :
    isIdentifierStart c = true := by
  have digits : ∀ c ∈ asciiDigits, isLetter c = false :=
    List.all_iff_forall_prop.1 (by decide)
  simp only [isIdentifierPart, Char.isAlphanum, Bool.or_eq_true] at part
  simp only [isIdentifierStart, Bool.or_eq_true]
  rcases part with (alpha | digit) | underscore
  · exact Or.inl alpha
  · rw [digits c (mem_asciiDigits_of_isDigit digit)] at letter
    cases letter
  · exact Or.inr underscore

section Scan

variable {cs after : List Char} {c : Char}

private theorem takeWhile_append_cons_of_stop
    {p : Char → Bool} (stops : p c = false) (front : List Char) :
    (front ++ c :: after).takeWhile p = front.takeWhile p := by
  induction front with
  | nil => simp [stops]
  | cons d rest inductionHypothesis =>
      rw [List.cons_append, List.takeWhile_cons, List.takeWhile_cons,
        inductionHypothesis]

private theorem identifiersFrom_cons_of_start
    (starts : isIdentifierStart c = true) (rest : List Char) :
    identifiersFrom 0 (c :: rest) =
      (c :: rest.takeWhile isIdentifierPart) ::
        identifiersFrom (rest.takeWhile isIdentifierPart).length rest := by
  rw [identifiersFrom, if_pos starts]

/-- Behind a character that is no part of an identifier the scan starts
anew. -/
theorem identifiersFrom_append
    (stops : isIdentifierPart c = false) {skipped : Nat} {front : List Char}
    (within : skipped ≤ front.length) :
    identifiersFrom skipped (front ++ c :: after) =
      identifiersFrom skipped (front ++ [c]) ++ identifiersFrom 0 after := by
  have noStart : ¬ isIdentifierStart c = true := by
    intro starts
    rw [isIdentifierPart_of_isIdentifierStart starts] at stops
    cases stops
  induction front generalizing skipped with
  | nil =>
      obtain rfl := Nat.le_zero.1 within
      simp [identifiersFrom, noStart]
  | cons d rest inductionHypothesis =>
      cases skipped with
      | succ skipped =>
          exact inductionHypothesis (Nat.le_of_succ_le_succ within)
      | zero =>
          rw [List.cons_append, List.cons_append]
          by_cases starts : isIdentifierStart d = true
          · have shorter :
                (rest.takeWhile isIdentifierPart).length ≤ rest.length :=
              (List.takeWhile_sublist _).length_le
            rw [identifiersFrom_cons_of_start starts,
              identifiersFrom_cons_of_start starts,
              takeWhile_append_cons_of_stop stops,
              takeWhile_append_cons_of_stop stops,
              inductionHypothesis shorter, List.cons_append]
          · rw [identifiersFrom, identifiersFrom, if_neg starts,
              if_neg starts, inductionHypothesis (Nat.zero_le _)]

/-- An identifier in front is found, up to where it ends. -/
theorem mem_identifiersFrom_append
    (starts : isIdentifierStart c = true)
    (parts : ∀ d ∈ cs, isIdentifierPart d = true)
    (stops : ∀ d, after.head? = some d → isIdentifierPart d = false) :
    c :: cs ∈ identifiersFrom 0 (c :: (cs ++ after)) := by
  have whole : (cs ++ after).takeWhile isIdentifierPart = cs := by
    rw [List.takeWhile_append_of_pos parts]
    cases after with
    | nil => simp
    | cons d rest => simp [stops d rfl]
  rw [identifiersFrom_cons_of_start starts, whole]
  exact List.mem_cons_self

end Scan

/-- A mentioned name is found if it is an identifier in ASCII. -/
theorem mem_identifiersFrom_of_mentions
    {typeText name : String} (mentioned : Mentions typeText name)
    {c : Char} {tail : List Char} (spelling : name.toList = c :: tail)
    (starts : isIdentifierStart c = true)
    (parts : ∀ d ∈ tail, isIdentifierPart d = true) :
    name.toList ∈ identifiersFrom 0 typeText.toList := by
  obtain ⟨before, after, text, opens, closes⟩ := mentioned
  have noPart : ∀ d, isWordChar d = false → isIdentifierPart d = false := by
    intro d noWord
    by_contra part
    rw [isWordChar_of_isIdentifierPart (eq_true_of_ne_false part)] at noWord
    cases noWord
  have found : name.toList ∈ identifiersFrom 0 (name.toList ++ after) := by
    rw [spelling]
    exact mem_identifiersFrom_append starts parts
      fun d head => noPart d (closes d head)
  rw [text]
  cases before using List.reverseRecOn with
  | nil => exact found
  | append_singleton front last =>
      have stops := noPart last (opens last List.getLast?_concat)
      rw [List.append_assoc, List.singleton_append,
        identifiersFrom_append stops (Nat.zero_le _)]
      exact List.mem_append_right _ found

theorem mem_referencedNames_of_mentions
    {typeText name : String} (mentioned : Mentions typeText name)
    {c : Char} {tail : List Char} (spelling : name.toList = c :: tail)
    (starts : isIdentifierStart c = true)
    (parts : ∀ d ∈ tail, isIdentifierPart d = true)
    (own : name ∉ builtinNames) : name ∈ referencedNames typeText := by
  have found := mem_identifiersFrom_of_mentions mentioned spelling starts parts
  rw [referencedNames, List.mem_eraseDups, List.mem_filter]
  refine ⟨List.mem_map.2 ⟨name.toList, found, String.ofList_toList⟩, ?_⟩
  simpa using own

/-- The mark of a nullable type belongs to no name. -/
theorem Mentions.of_nullable
    {typeText name : String} (mentioned : Mentions (typeText ++ "?") name)
    (words : ∀ c ∈ name.toList, isWordChar c = true)
    (filled : name.toList ≠ []) : Mentions typeText name := by
  obtain ⟨before, after, text, opens, closes⟩ := mentioned
  have mark : isWordChar '?' = false := by decide
  rw [String.toList_append, show "?".toList = ['?'] from rfl] at text
  cases after using List.reverseRecOn with
  | nil =>
      have last := congrArg List.getLast? text
      rw [List.append_nil, List.getLast?_append_of_ne_nil _ filled,
        List.getLast?_concat] at last
      rw [words '?' (List.mem_of_getLast? last.symm)] at mark
      cases mark
  | append_singleton rest last =>
      rw [← List.append_assoc, ← List.append_assoc] at text
      have parts := (List.append_inj' text rfl).1
      refine ⟨before, rest, by rw [parts, List.append_assoc], opens, ?_⟩
      intro c head
      apply closes
      rw [List.head?_append, head]
      rfl

/-- A text that is a single word mentions no other name. -/
theorem Mentions.eq_of_word
    {word name : String} (mentioned : Mentions word name)
    (words : ∀ c ∈ word.toList, isWordChar c = true) : name = word := by
  obtain ⟨before, after, text, opens, closes⟩ := mentioned
  have nothingBefore : before = [] := by
    by_contra filled
    have member :
        before.getLast filled ∈ word.toList := by
      rw [text]
      exact List.mem_append_left _ (List.getLast_mem filled)
    have noWord := opens _ (List.getLast?_eq_some_getLast filled)
    rw [words _ member] at noWord
    cases noWord
  have nothingAfter : after = [] := by
    by_contra filled
    have member : after.head filled ∈ word.toList := by
      rw [text]
      exact List.mem_append_right _
        (List.mem_append_right _ (List.head_mem filled))
    have noWord := closes _ (List.head?_eq_some_head filled)
    rw [words _ member] at noWord
    cases noWord
  rw [nothingBefore, nothingAfter, List.nil_append, List.append_nil] at text
  exact (String.toList_inj.1 text).symm

/-! ## Types -/

/-- The names of the types that a schema has without referring to a model. -/
def schemaTypeNames : List String :=
  ["object", "string", "DateTime", "byte[]", "int", "long", "decimal",
   "float", "double", "bool"]

/-- A name that may stand at a leaf of a type: that of a built-in type or that
of a model. -/
inductive IsLeafName : String → Prop
  | builtIn {name : String} (member : name ∈ schemaTypeNames) :
      IsLeafName name
  | model (raw : String) : IsLeafName (typeName raw)

private theorem IsLeafName.bracket_not_mem
    {name : String} (leaf : IsLeafName name) : '<' ∉ name.toList := by
  cases leaf with
  | builtIn member =>
      have unbracketed :
          ∀ builtIn ∈ schemaTypeNames, '<' ∉ builtIn.toList := by
        decide
      exact unbracketed name member
  | model raw =>
      have noWord : isWordChar '<' = false := by decide
      intro bracket
      rw [isWordChar_of_mem_typeName bracket] at noWord
      cases noWord

namespace TypeTree

/-- A type whose leaves have names that may stand there. -/
def IsWellFormed (tree : TypeTree) : Prop :=
  ∀ name ∈ tree.leaves, IsLeafName name

def isGeneric : TypeTree → Bool
  | leaf _ => false
  | list _ => true
  | dictionary _ => true

@[simp]
theorem text_leaf (name : String) : (leaf name).text = name :=
  rfl

@[simp]
theorem text_list (element : String) :
    (list element).text = "List<" ++ element ++ ">" :=
  rfl

@[simp]
theorem text_dictionary (value : TypeTree) :
    (dictionary value).text = "Dictionary<string, " ++ value.text ++ ">" :=
  rfl

private theorem bracket_mem_text
    {tree : TypeTree} (generic : tree.isGeneric = true) :
    '<' ∈ tree.text.toList := by
  cases tree with
  | leaf name => cases generic
  | list element => simp
  | dictionary value => simp

/-- A leaf has the text of no other type. -/
theorem leaf_eq_of_text_eq
    {name : String} {other : TypeTree} (unbracketed : '<' ∉ name.toList)
    (same : (leaf name).text = other.text) : leaf name = other := by
  cases other with
  | leaf otherName => exact congrArg leaf same
  | list element =>
      refine absurd ?_ unbracketed
      rw [← text_leaf name, same]
      exact bracket_mem_text rfl
  | dictionary value =>
      refine absurd ?_ unbracketed
      rw [← text_leaf name, same]
      exact bracket_mem_text rfl

/-- What stands between two signs is determined by the whole text. -/
theorem eq_of_enclosed_eq
    {opening closing left right : String}
    (same : opening ++ left ++ closing = opening ++ right ++ closing) :
    left = right := by
  have lists := congrArg String.toList same
  simp only [String.toList_append, List.append_assoc] at lists
  exact
    String.toList_inj.1
      (List.append_cancel_right (List.append_cancel_left lists))

private theorem list_text_ne_dictionary_text
    (element : String) (value : TypeTree) :
    (list element).text ≠ (dictionary value).text := by
  intro same
  have heads := congrArg (fun content => content.toList.head?) same
  simp at heads

/-- A text is that of one well-formed type only. -/
theorem eq_of_text_eq
    {left right : TypeTree} (leftFormed : left.IsWellFormed)
    (rightFormed : right.IsWellFormed) (same : left.text = right.text) :
    left = right := by
  induction left generalizing right with
  | leaf name =>
      have leafName := leftFormed name (List.mem_singleton_self name)
      exact leaf_eq_of_text_eq leafName.bracket_not_mem same
  | list element =>
      cases right with
      | leaf name =>
          have leafName := rightFormed name (List.mem_singleton_self name)
          exact (leaf_eq_of_text_eq leafName.bracket_not_mem same.symm).symm
      | list other => exact congrArg list (eq_of_enclosed_eq same)
      | dictionary value =>
          exact absurd same (list_text_ne_dictionary_text element value)
  | dictionary value inductionHypothesis =>
      cases right with
      | leaf name =>
          have leafName := rightFormed name (List.mem_singleton_self name)
          exact (leaf_eq_of_text_eq leafName.bracket_not_mem same.symm).symm
      | list element =>
          exact absurd same.symm (list_text_ne_dictionary_text element value)
      | dictionary other =>
          have inner : value.text = other.text := eq_of_enclosed_eq same
          exact
            congrArg dictionary
              (inductionHypothesis leftFormed rightFormed inner)

/-- The test on the text of a type finds the containers. -/
theorem isContainer_text
    {tree : TypeTree} (formed : tree.IsWellFormed) :
    isContainer tree.text = tree.isGeneric := by
  cases tree with
  | leaf name =>
      have unbracketed :=
        (formed name (List.mem_singleton_self name)).bracket_not_mem
      have noOpening :
          ∀ opening ∈ ["List<", "Dictionary<"],
            beginsWith opening name = false := by
        intro opening member
        have bracket : '<' ∈ opening.toList := by
          revert opening
          decide
        rw [Bool.eq_false_iff]
        intro begins
        rw [beginsWith, List.isPrefixOf_iff_prefix] at begins
        exact unbracketed (begins.subset bracket)
      rw [isContainer, text_leaf, noOpening _ (by simp),
        noOpening _ (by simp)]
      rfl
  | list element =>
      simp [isContainer, isGeneric, beginsWith]
  | dictionary value =>
      simp [isContainer, isGeneric, beginsWith]

end TypeTree

/-- An identifier written in ASCII. -/
def IsIdentifier (name : String) : Prop :=
  ∃ c rest,
    name.toList = c :: rest ∧ isIdentifierStart c = true ∧
      ∀ d ∈ rest, isIdentifierPart d = true

/-- The name in the text of a leaf, which ends in front of the brackets of an
array. -/
def bareName (leaf : String) : String :=
  String.ofList (leaf.toList.takeWhile (· != '['))

def notBuiltIn (names : List String) : List String :=
  names.filter fun name => !builtinNames.contains name

@[simp]
theorem notBuiltIn_append (front back : List String) :
    notBuiltIn (front ++ back) = notBuiltIn front ++ notBuiltIn back :=
  List.filter_append front back

/-- The names that a scan finds and that are not built in, with
repetitions. -/
def foundNames (cs : List Char) : List String :=
  notBuiltIn ((identifiersFrom 0 cs).map String.ofList)

theorem referencedNames_eq (typeText : String) :
    referencedNames typeText = (foundNames typeText.toList).eraseDups :=
  rfl

private theorem identifiersFrom_of_length_le
    {skipped : Nat} {cs : List Char} (beyond : cs.length ≤ skipped) :
    identifiersFrom skipped cs = [] := by
  induction cs generalizing skipped with
  | nil => rw [identifiersFrom]
  | cons c rest inductionHypothesis =>
      obtain ⟨fewer, rfl⟩ :=
        Nat.exists_eq_add_one_of_ne_zero
          (Nat.ne_of_gt (Nat.lt_of_lt_of_le (Nat.succ_pos _) beyond))
      exact inductionHypothesis (Nat.le_of_succ_le_succ beyond)

section Signs

variable {c : Char} (stops : isIdentifierPart c = false)

include stops

private theorem isIdentifierStart_of_stop : isIdentifierStart c = false := by
  rw [Bool.eq_false_iff]
  intro starts
  rw [isIdentifierPart_of_isIdentifierStart starts] at stops
  cases stops

/-- A sign at the end adds nothing to what is found. -/
private theorem identifiersFrom_concat
    {skipped : Nat} {cs : List Char} (within : skipped ≤ cs.length) :
    identifiersFrom skipped (cs ++ [c]) = identifiersFrom skipped cs := by
  induction cs generalizing skipped with
  | nil =>
      obtain rfl := Nat.le_zero.1 within
      simp [identifiersFrom, isIdentifierStart_of_stop stops]
  | cons d rest inductionHypothesis =>
      cases skipped with
      | succ skipped =>
          exact inductionHypothesis (Nat.le_of_succ_le_succ within)
      | zero =>
          rw [List.cons_append]
          by_cases starts : isIdentifierStart d = true
          · have shorter :
                (rest.takeWhile isIdentifierPart).length ≤ rest.length :=
              (List.takeWhile_sublist _).length_le
            have cut :
                (rest ++ [c]).takeWhile isIdentifierPart =
                  rest.takeWhile isIdentifierPart :=
              takeWhile_append_cons_of_stop stops rest
            rw [identifiersFrom_cons_of_start starts,
              identifiersFrom_cons_of_start starts, cut,
              inductionHypothesis shorter]
          · rw [identifiersFrom, identifiersFrom, if_neg starts,
              if_neg starts, inductionHypothesis (Nat.zero_le _)]

/-- Between built-in words and a closing sign, just what is found in the text
itself is found. -/
private theorem foundNames_enclosed
    {d : Char} (closes : isIdentifierPart d = false)
    {opening : List Char} (builtIn : foundNames (opening ++ [c]) = [])
    (cs : List Char) :
    foundNames ((opening ++ [c]) ++ cs ++ [d]) = foundNames cs := by
  have split :
      identifiersFrom 0 ((opening ++ [c]) ++ cs ++ [d]) =
        identifiersFrom 0 (opening ++ [c]) ++ identifiersFrom 0 cs := by
    rw [identifiersFrom_concat closes (Nat.zero_le _), List.append_assoc,
      List.singleton_append, identifiersFrom_append stops (Nat.zero_le _)]
  rw [foundNames, split, List.map_append, notBuiltIn_append]
  change foundNames (opening ++ [c]) ++ foundNames cs = foundNames cs
  rw [builtIn, List.nil_append]

end Signs

private theorem bareName_of_isIdentifier
    {name : String} (identifier : IsIdentifier name) : bareName name = name := by
  obtain ⟨c, rest, spelling, starts, parts⟩ := identifier
  have noBracket : ∀ d ∈ name.toList, (d != '[') = true := by
    have bracket : isIdentifierPart '[' = false := by decide
    intro d member
    rw [bne_iff_ne]
    rintro rfl
    rw [spelling] at member
    rcases List.mem_cons.1 member with rfl | later
    · rw [isIdentifierPart_of_isIdentifierStart starts] at bracket
      cases bracket
    · rw [parts _ later] at bracket
      cases bracket
  rw [bareName, List.takeWhile_eq_self_iff.2 noBracket, String.ofList_toList]

private theorem identifiersFrom_of_isIdentifier
    {name : String} (identifier : IsIdentifier name) :
    identifiersFrom 0 name.toList = [name.toList] := by
  obtain ⟨c, rest, spelling, starts, parts⟩ := identifier
  rw [spelling, identifiersFrom_cons_of_start starts,
    List.takeWhile_eq_self_iff.2 parts, identifiersFrom_of_length_le le_rfl]

private theorem foundNames_leaf
    {leaf : String} (spelled : leaf ∈ schemaTypeNames ∨ IsIdentifier leaf) :
    foundNames leaf.toList = notBuiltIn [bareName leaf] := by
  rcases spelled with builtIn | identifier
  · have all :
        ∀ name ∈ schemaTypeNames,
          foundNames name.toList = notBuiltIn [bareName name] := by
      decide
    exact all leaf builtIn
  · rw [foundNames, identifiersFrom_of_isIdentifier identifier,
      bareName_of_isIdentifier identifier, List.map_singleton,
      String.ofList_toList]

private theorem foundNames_text
    {tree : TypeTree}
    (spelled :
      ∀ leaf ∈ tree.leaves, leaf ∈ schemaTypeNames ∨ IsIdentifier leaf) :
    foundNames tree.text.toList = notBuiltIn (tree.leaves.map bareName) := by
  induction tree with
  | leaf name =>
      exact foundNames_leaf (spelled name (List.mem_singleton_self name))
  | list element =>
      have inner :=
        foundNames_leaf (spelled element (List.mem_singleton_self element))
      have builtIn : foundNames ("List".toList ++ ['<']) = [] := by decide
      rw [TypeTree.text_list, String.toList_append, String.toList_append]
      exact
        (foundNames_enclosed (by decide) (by decide) builtIn
          element.toList).trans inner
  | dictionary value inductionHypothesis =>
      have builtIn : foundNames ("Dictionary<string,".toList ++ [' ']) = [] := by
        decide
      rw [TypeTree.text_dictionary, String.toList_append,
        String.toList_append]
      exact
        (foundNames_enclosed (by decide) (by decide) builtIn
          value.text.toList).trans (inductionHypothesis spelled)

/-- The names found in the text of a type are those of its leaves that are not
built in, each once, in order of first occurrence. -/
theorem referencedNames_text
    {tree : TypeTree}
    (spelled :
      ∀ leaf ∈ tree.leaves, leaf ∈ schemaTypeNames ∨ IsIdentifier leaf) :
    referencedNames tree.text =
      (notBuiltIn (tree.leaves.map bareName)).eraseDups := by
  rw [referencedNames_eq, foundNames_text spelled]

/-- In a dictionary of lists of orders only the orders are found. -/
theorem referencedNames_text_orders :
    IsIdentifier "Order" ∧
      referencedNames "Dictionary<string, List<Order>>" = ["Order"] := by
  have identifier : IsIdentifier "Order" :=
    ⟨'O', "rder".toList, rfl, by decide, List.all_iff_forall_prop.1 (by decide)⟩
  have spelled :
      ∀ leaf ∈ (TypeTree.dictionary (.list "Order")).leaves,
        leaf ∈ schemaTypeNames ∨ IsIdentifier leaf := by
    intro leaf member
    rw [List.mem_singleton.1 member]
    exact Or.inr identifier
  exact ⟨identifier, (referencedNames_text spelled).trans (by decide)⟩

end OpenApiSharp.CSharp
