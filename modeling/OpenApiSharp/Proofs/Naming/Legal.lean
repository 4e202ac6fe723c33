import Mathlib.Data.List.Chain
import OpenApiSharp.Proofs.Naming.Fresh
import OpenApiSharp.Proofs.Naming.Segment
import OpenApiSharp.Proofs.Text.LowerCase

namespace OpenApiSharp.Text

/-- A character that an identifier may begin with. -/
def isStart (c : Char) : Bool :=
  isLetter c || c == '_'

/-- A character that may begin a name, if need be behind an underscore. -/
def canBegin (c : Char) : Bool :=
  isStart c || isDigit c

/-- The number whose lowest bits are set. -/
def lowBits (count : Nat) : Nat :=
  1 <<< count - 1

def bitsOf (ranges : List (Nat × Nat)) : Nat :=
  ranges.foldr
    (fun range rest => lowBits (range.2 + 1 - range.1) <<< range.1 ||| rest) 0

@[simp]
private theorem testBit_lowBits (count i : Nat) :
    (lowBits count).testBit i = decide (i < count) := by
  rw [lowBits, Nat.one_shiftLeft, Nat.testBit_two_pow_sub_one]

private theorem testBit_bitsOf (ranges : List (Nat × Nat)) (code : Nat) :
    (bitsOf ranges).testBit code =
      ranges.any fun range => decide (range.1 ≤ code ∧ code ≤ range.2) := by
  induction ranges with
  | nil => exact Nat.zero_testBit code
  | cons range rest inductionHypothesis =>
      have here :
          (lowBits (range.2 + 1 - range.1) <<< range.1).testBit code =
            decide (range.1 ≤ code ∧ code ≤ range.2) := by
        rw [Nat.testBit_shiftLeft, testBit_lowBits, ← Bool.decide_and,
          decide_eq_decide]
        omega
      rw [bitsOf, List.foldr_cons, ← bitsOf, Nat.testBit_or, here,
        inductionHypothesis, List.any_cons]

/-- In ascending ranges no search ends too early. -/
theorem inRanges_eq_testBit
    {ranges : List (Nat × Nat)}
    (ascending : ranges.IsChain fun range next => range.1 ≤ next.1)
    (code : Nat) :
    inRanges ranges code = (bitsOf ranges).testBit code := by
  rw [testBit_bitsOf]
  have ordered : ranges.Pairwise fun range later => range.1 ≤ later.1 :=
    List.isChain_iff_pairwise.1 ascending
  clear ascending
  induction ranges with
  | nil => rfl
  | cons range rest inductionHypothesis =>
      obtain ⟨least, restOrdered⟩ := List.pairwise_cons.1 ordered
      rw [inRanges, List.any_cons]
      by_cases before : code < range.1
      · have none :
            (rest.any fun later =>
              decide (later.1 ≤ code ∧ code ≤ later.2)) = false := by
          rw [List.any_eq_false]
          intro later member held
          have bound := least later member
          have reached := of_decide_eq_true held
          omega
        rw [if_pos before, none, Bool.or_false, eq_comm,
          decide_eq_false_iff_not]
        omega
      · rw [if_neg before, inductionHypothesis restOrdered]
        congr 1
        rw [decide_eq_decide]
        omega

def beginBits : Nat :=
  bitsOf (letterRanges ++ digitRanges ++ [(95, 95)])

def wordBits : Nat :=
  bitsOf (letterRanges ++ numeralRanges ++ [(95, 95)])

@[simp]
theorem testBit_bitsOf_append
    (front back : List (Nat × Nat)) (code : Nat) :
    (bitsOf (front ++ back)).testBit code =
      ((bitsOf front).testBit code || (bitsOf back).testBit code) := by
  rw [testBit_bitsOf, testBit_bitsOf, testBit_bitsOf, List.any_append]

private theorem beq_underscore (c : Char) :
    (c == '_') = (bitsOf [(95, 95)]).testBit c.toNat := by
  have underscore : '_'.toNat = 95 := rfl
  rw [testBit_bitsOf, List.any_cons, List.any_nil, Bool.or_false,
    Bool.beq_eq_decide_eq, decide_eq_decide, ← Char.toNat_inj, underscore]
  omega

theorem ranges_ascend :
    [letterRanges, digitRanges, numeralRanges].Forall fun ranges =>
      ranges.IsChain fun range next => range.1 ≤ next.1 := by
  decide +kernel

private theorem isLetter_eq_testBit (c : Char) :
    isLetter c = (bitsOf letterRanges).testBit c.toNat :=
  inRanges_eq_testBit ranges_ascend.1 c.toNat

private theorem canBegin_eq_testBit (c : Char) :
    canBegin c = beginBits.testBit c.toNat := by
  have digit : isDigit c = (bitsOf digitRanges).testBit c.toNat :=
    inRanges_eq_testBit ranges_ascend.2.1 c.toNat
  rw [canBegin, isStart, isLetter_eq_testBit, digit, beq_underscore,
    beginBits, testBit_bitsOf_append, testBit_bitsOf_append, Bool.or_assoc,
    Bool.or_assoc, Bool.or_comm ((bitsOf [(95, 95)]).testBit c.toNat)]

private theorem isWordChar_eq_testBit (c : Char) :
    isWordChar c = wordBits.testBit c.toNat := by
  have numeral : isNumeral c = (bitsOf numeralRanges).testBit c.toNat :=
    inRanges_eq_testBit ranges_ascend.2.2 c.toNat
  rw [isWordChar, isAlphanumeric, isLetter_eq_testBit, numeral,
    beq_underscore, wordBits, testBit_bitsOf_append, testBit_bitsOf_append]

/-- The members of a run, counted from its first one, that are word characters
and can begin a name if and only if their images cannot. -/
def CaseRun.changes (run : CaseRun) : Nat :=
  (beginBits >>> run.first ^^^
      beginBits >>> (run.first + run.shift).toNat) &&&
    wordBits >>> run.first &&& lowBits (run.last + 1 - run.first)

-- in runs that hold every other code point those between do not count
def CaseRun.keepsBeginnings (run : CaseRun) : Bool :=
  run.changes == 0 ||
    (List.range (run.last + 1 - run.first)).all fun i =>
      !run.contains (run.first + i) || !run.changes.testBit i

private theorem CaseRun.testBit_changes
    {run : CaseRun} (keeps : run.keepsBeginnings = true) {code : Nat}
    (held : run.contains code = true) :
    run.changes.testBit (code - run.first) = false := by
  have bounds := CodeRun.bounds_of_contains held
  rw [keepsBeginnings, Bool.or_eq_true] at keeps
  rcases keeps with none | each
  · rw [eq_of_beq none, Nat.zero_testBit]
  · have inside :
        code - run.first ∈ List.range (run.last + 1 - run.first) :=
      List.mem_range.2 (by omega)
    have kept := List.all_eq_true.1 each _ inside
    have place : run.first + (code - run.first) = code := by omega
    rw [place, held] at kept
    simpa using kept

private theorem canBegin_shifted
    {runs : List CaseRun}
    (staying : ∀ run ∈ runs, run.staysValid = true)
    (keeping : ∀ run ∈ runs, run.keepsBeginnings = true)
    {c : Char} (word : isWordChar c = true) :
    canBegin (Char.ofNat (shiftCode runs c.toNat)) = canBegin c := by
  have valid := shiftCode_isValidChar staying (toNat_isValidChar c)
  have image := toNat_ofNat_of_isValidChar valid
  rw [canBegin_eq_testBit, canBegin_eq_testBit, image]
  rcases shiftCode_eq runs c.toNat with same | ⟨run, member, held, equal⟩
  · rw [same]
  · have bounds := CodeRun.bounds_of_contains held
    have stays := staying run member
    have unchanged := CaseRun.testBit_changes (keeping run member) held
    simp only [CaseRun.staysValid, Bool.and_eq_true, Bool.or_eq_true,
      decide_eq_true_eq] at stays
    have source : run.first + (c.toNat - run.first) = c.toNat := by omega
    have target :
        (run.first + run.shift).toNat + (c.toNat - run.first) =
          (c.toNat + run.shift).toNat := by
      omega
    have within : c.toNat - run.first < run.last + 1 - run.first := by omega
    rw [isWordChar_eq_testBit] at word
    rw [CaseRun.changes, Nat.testBit_and, Nat.testBit_and, Nat.testBit_xor,
      Nat.testBit_shiftRight, Nat.testBit_shiftRight, Nat.testBit_shiftRight,
      testBit_lowBits, source, target, word, decide_eq_true within,
      Bool.and_true, Bool.and_true] at unchanged
    rw [equal]
    exact (bne_eq_false_iff_eq.1 unchanged).symm

private theorem exists_head_lowerChar
    {c : Char} (word : isWordChar c = true) :
    ∃ d rest, lowerChar c = d :: rest ∧ canBegin d = canBegin c := by
  by_cases special : c = '\u0130'
  · have letters : canBegin 'i' = true ∧ canBegin '\u0130' = true := by
      decide
    refine ⟨'i', ['\u0307'], by rw [lowerChar, if_pos special], ?_⟩
    rw [special, letters.1, letters.2]
  · have keeping : ∀ run ∈ lowerRuns, run.keepsBeginnings = true := by
      decide +kernel
    exact ⟨_, [], by rw [lowerChar, if_neg special],
      canBegin_shifted staysValid_of_mem_lowerRuns keeping word⟩

private theorem exists_head_capitalChar
    {c : Char} (word : isWordChar c = true) :
    ∃ d rest, capitalChar c = d :: rest ∧ canBegin d = canBegin c := by
  rw [capitalChar]
  cases found : capitalSequences.lookup c.toNat with
  | some codes =>
      have ends :
          ∀ entry ∈ capitalSequences,
            beginBits.testBit entry.1 = true ∧
              entry.2.head?.any (fun code =>
                beginBits.testBit (Char.ofNat code).toNat) = true := by
        decide +kernel
      obtain ⟨source, image⟩ := ends _ (mem_of_lookup_eq_some found)
      rw [canBegin_eq_testBit c, source]
      cases codes with
      | nil => cases image
      | cons code rest =>
          refine ⟨Char.ofNat code, rest.map Char.ofNat, rfl, ?_⟩
          rw [canBegin_eq_testBit]
          exact image
  | none =>
      have keeping : ∀ run ∈ capitalRuns, run.keepsBeginnings = true := by
        decide +kernel
      exact ⟨_, [], rfl,
        canBegin_shifted staysValid_of_mem_capitalRuns keeping word⟩

end OpenApiSharp.Text

namespace OpenApiSharp.Naming

open Text

/-! ## Legal identifiers -/

/-- An identifier: with a leading `@` the rest may be anything that begins like
one, and without it the name must be no keyword. -/
inductive IsLegal (name : String) : Prop
  | verbatim {c : Char} {rest : List Char}
      (chars : name.toList = '@' :: c :: rest) (start : isStart c = true) :
      IsLegal name
  | plain {c : Char} {rest : List Char}
      (chars : name.toList = c :: rest) (start : isStart c = true)
      (free : name ∉ keywords) : IsLegal name

/-- The first word character of a text is a numeral that is no digit. -/
def NumeralFirst (raw : String) : Prop :=
  ∃ c rest, wordChars raw = c :: rest ∧ canBegin c = false

/-- Characters that no keyword has. -/
def foreignChars : List Char :=
  ['@', '_', 'A'] ++ asciiDigits

theorem small_of_mem_keywords
    {name : String} (keyword : name ∈ keywords)
    {c : Char} (member : c ∈ name.toList) :
    97 ≤ c.toNat ∧ c.toNat ≤ 122 := by
  have small :
      (keywords.all fun keyword =>
        keyword.toList.all fun c =>
          decide (97 ≤ c.toNat ∧ c.toNat ≤ 122)) = true := by
    decide +kernel
  have letters := List.all_eq_true.1 small name keyword
  exact of_decide_eq_true (List.all_eq_true.1 letters c member)

private theorem not_mem_keywords
    {name : String} {c : Char} (member : c ∈ name.toList)
    (foreign : c ∈ foreignChars) : name ∉ keywords := by
  have below :
      (foreignChars.all fun c => decide (c.toNat < 97)) = true := by
    decide
  intro keyword
  have small := small_of_mem_keywords keyword member
  have notSmall := of_decide_eq_true (List.all_eq_true.1 below c foreign)
  omega

theorem isLetter_of_mem_keywords
    {name : String} {c : Char} {rest : List Char}
    (keyword : name ∈ keywords) (chars : name.toList = c :: rest) :
    isLetter c = true := by
  have letters :
      ∀ code < 123, 97 ≤ code → isLetter (Char.ofNat code) = true := by
    decide
  have member : c ∈ name.toList := by
    rw [chars]
    exact List.mem_cons_self
  obtain ⟨least, greatest⟩ := small_of_mem_keywords keyword member
  have letter := letters c.toNat (by omega) least
  rw [Char.ofNat_toNat] at letter
  exact letter

theorem escapeIdentifier_not_mem_keywords (name : String) :
    escapeIdentifier name ∉ keywords := by
  rw [escapeIdentifier]
  by_cases keyword : keywords.contains name = true
  · rw [if_pos keyword]
    exact not_mem_keywords (c := '@') (by simp) (by decide)
  · rw [if_neg keyword]
    split
    · exact not_mem_keywords (c := '_') (by simp) (by decide)
    · exact fun member => keyword (List.contains_iff_mem.2 member)

theorem append_counter_not_mem_keywords (name : String) (counter : Nat) :
    name ++ toString counter ∉ keywords := by
  have digits : (toString counter).toList ≠ [] := by
    rw [Nat.toString_eq_ofList_toDigits, String.toList_ofList]
    exact Nat.toDigits_ne_nil
  obtain ⟨digit, member⟩ := List.exists_mem_of_ne_nil _ digits
  refine not_mem_keywords (c := digit) ?_ ?_
  · rw [String.toList_append]
    exact List.mem_append_right _ member
  · exact List.mem_append_right _ (mem_asciiDigits_of_mem_toString member)

theorem uniqueName_eq_append (name : String) (used : List String) :
    ∃ suffix, uniqueName name used = name ++ suffix := by
  rcases firstFree_eq used.contains used.length name with same | numbered
  · exact ⟨"", by rw [uniqueName, same, String.append_empty]⟩
  · obtain ⟨counter, _, equal⟩ := numbered
    exact ⟨toString counter, equal⟩

theorem uniqueName_not_mem_keywords
    {name : String} (free : name ∉ keywords) (used : List String) :
    uniqueName name used ∉ keywords := by
  rcases firstFree_eq used.contains used.length name with same | numbered
  · rw [uniqueName, same]
    exact free
  · obtain ⟨counter, _, equal⟩ := numbered
    rw [uniqueName, equal]
    exact append_counter_not_mem_keywords name counter

/-- A name made from a text: it can begin an identifier, if need be behind an
underscore, unless the text begins with a numeral that is no digit. -/
def CasedFrom (raw name : String) : Prop :=
  ∃ c rest, name.toList = c :: rest ∧ c ≠ '@' ∧
    (canBegin c = true ↔ ¬ NumeralFirst raw)

private theorem CasedFrom.append
    {raw name : String} (cased : CasedFrom raw name) (suffix : String) :
    CasedFrom raw (name ++ suffix) := by
  obtain ⟨c, rest, chars, unmarked, begins⟩ := cased
  refine ⟨c, rest ++ suffix.toList, ?_, unmarked, begins⟩
  rw [String.toList_append, chars, List.cons_append]

private theorem ne_at_of_isWordChar {c : Char} (word : isWordChar c = true) :
    c.toNat ∉ ['@'.toNat] :=
  not_mem_of_isWordChar (by decide) (by decide)
    (by decide) word

theorem casedFrom_of_nil
    {raw name : String} {c : Char} {rest : List Char}
    (empty : wordChars raw = []) (chars : name.toList = c :: rest)
    (unmarked : c ≠ '@') (begins : canBegin c = true) :
    CasedFrom raw name := by
  refine ⟨c, rest, chars, unmarked, iff_of_true begins ?_⟩
  rintro ⟨d, others, words, _⟩
  rw [empty] at words
  cases words

theorem isWordChar_of_wordChars
    {raw : String} {c : Char} {rest : List Char}
    (words : wordChars raw = c :: rest) : isWordChar c = true := by
  have member : c ∈ wordChars raw := by
    rw [words]
    exact List.mem_cons_self
  exact (List.mem_filter.1 member).2

/-- Word characters whose first one is given another case, which changes nothing
about whether it can begin an identifier, and makes no mark of it. -/
private theorem casedFrom_of_cons
    {raw : String} {c : Char} {rest : List Char} {image : Char → List Char}
    (words : wordChars raw = c :: rest)
    (heads : isWordChar c = true →
      ∃ d back, image c = d :: back ∧ canBegin d = canBegin c)
    (unmarked : c.toNat ∉ ['@'.toNat] →
      ∀ d ∈ image c, d.toNat ∉ ['@'.toNat]) :
    CasedFrom raw (String.ofList (image c ++ rest)) := by
  have word := isWordChar_of_wordChars words
  obtain ⟨d, back, front, same⟩ := heads word
  have member : d ∈ image c := by
    rw [front]
    exact List.mem_cons_self
  refine ⟨d, back ++ rest, by rw [String.toList_ofList, front]; rfl, ?_, ?_⟩
  · intro mark
    apply unmarked (ne_at_of_isWordChar word) d member
    rw [mark]
    exact List.mem_cons_self
  · rw [same]
    constructor
    · rintro begins ⟨other, others, parts, unable⟩
      rw [words] at parts
      rw [(List.cons.inj parts).1, unable] at begins
      cases begins
    · intro able
      by_contra unable
      exact able ⟨c, rest, words, eq_false_of_ne_true unable⟩

private theorem casedFrom_memberName (raw : String) :
    CasedFrom raw (memberName raw) := by
  rw [memberName]
  cases words : wordChars raw with
  | nil =>
      exact casedFrom_of_nil words (c := 'U') rfl (by decide)
        (by decide)
  | cons c rest =>
      exact
        casedFrom_of_cons words exists_head_capitalChar fun unmarked _ =>
          toNat_not_mem_of_mem_capitalChar (by decide +kernel) (by decide)
            unmarked

theorem casedFrom_parameterName (raw : String) :
    CasedFrom raw (parameterName raw) := by
  rw [parameterName]
  cases words : wordChars raw with
  | nil =>
      exact casedFrom_of_nil words (c := 'p') rfl (by decide)
        (by decide)
  | cons c rest =>
      exact
        casedFrom_of_cons words exists_head_lowerChar fun unmarked _ =>
          toNat_not_mem_of_mem_lowerChar (by decide +kernel) (by decide)
            unmarked

theorem casedFrom_memberNameWithin (raw owner : String) :
    CasedFrom raw (memberNameWithin raw owner) := by
  rw [memberNameWithin]
  split
  · exact (casedFrom_memberName raw).append "Value"
  · exact casedFrom_memberName raw

namespace CasedFrom

variable {raw name : String} (cased : CasedFrom raw name)

include cased

/-- Whatever stands behind an escaped name, it is legal unless the text that it
is made from begins with a numeral that is no digit. -/
theorem isLegal_escapeIdentifier_append
    {suffix : String} (free : escapeIdentifier name ++ suffix ∉ keywords) :
    IsLegal (escapeIdentifier name ++ suffix) ↔ ¬ NumeralFirst raw := by
  obtain ⟨c, rest, chars, unmarked, begins⟩ := cased
  rw [← begins]
  rw [escapeIdentifier] at free ⊢
  by_cases keyword : keywords.contains name = true
  · have letter :=
      isLetter_of_mem_keywords (List.contains_iff_mem.1 keyword) chars
    have start : isStart c = true := by rw [isStart, letter, Bool.true_or]
    rw [if_pos keyword] at free ⊢
    have marked :
        ("@" ++ name ++ suffix).toList = '@' :: c :: (rest ++ suffix.toList) := by
      rw [String.toList_append, String.toList_append, chars]
      rfl
    exact iff_of_true (.verbatim marked start)
      (by rw [canBegin, start, Bool.true_or])
  · rw [if_neg keyword, chars, List.head?_cons, Option.any_some] at free ⊢
    by_cases digit : isDigit c = true
    · rw [if_pos digit] at free ⊢
      have underscored :
          ("_" ++ name ++ suffix).toList =
            '_' :: c :: (rest ++ suffix.toList) := by
        rw [String.toList_append, String.toList_append, chars]
        rfl
      exact iff_of_true (.plain underscored (by decide) free)
        (by rw [canBegin, digit, Bool.or_true])
    · rw [if_neg digit] at free ⊢
      have whole : (name ++ suffix).toList = c :: (rest ++ suffix.toList) := by
        rw [String.toList_append, chars, List.cons_append]
      rw [canBegin, eq_false_of_ne_true digit, Bool.or_false]
      constructor
      · intro legal
        cases legal with
        | verbatim marked start =>
            rw [whole] at marked
            exact absurd (List.cons.inj marked).1 unmarked
        | plain spelling start _ =>
            rw [whole] at spelling
            rw [(List.cons.inj spelling).1]
            exact start
      · intro start
        exact .plain whole start free

theorem isLegal_uniqueName (used : List String) :
    IsLegal (uniqueName (escapeIdentifier name) used) ↔
      ¬ NumeralFirst raw := by
  have free :=
    uniqueName_not_mem_keywords (escapeIdentifier_not_mem_keywords name) used
  obtain ⟨suffix, equal⟩ := uniqueName_eq_append (escapeIdentifier name) used
  rw [equal] at free ⊢
  exact cased.isLegal_escapeIdentifier_append free

theorem isLegal_uniqueName_async (used : List String) :
    IsLegal (uniqueName (escapeIdentifier name) used ++ "Async") ↔
      ¬ NumeralFirst raw := by
  have free :
      uniqueName (escapeIdentifier name) used ++ "Async" ∉ keywords :=
    not_mem_keywords (c := 'A') (by simp) (by decide)
  obtain ⟨suffix, equal⟩ := uniqueName_eq_append (escapeIdentifier name) used
  rw [equal, String.append_assoc] at free ⊢
  exact cased.isLegal_escapeIdentifier_append free

end CasedFrom

theorem isLegal_iff_not_mem_keywords
    {name : String} {c : Char} {rest : List Char}
    (chars : name.toList = c :: rest) (letter : isLetter c = true) :
    IsLegal name ↔ name ∉ keywords := by
  constructor
  · intro legal
    cases legal with
    | verbatim marked start =>
        have mark : isLetter '@' = false := by decide
        rw [chars] at marked
        rw [(List.cons.inj marked).1, mark] at letter
        cases letter
    | plain _ _ free => exact free
  · intro free
    exact .plain chars (by rw [isStart, letter, Bool.true_or]) free

end OpenApiSharp.Naming
