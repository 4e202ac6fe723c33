import Mathlib.Data.Bool.AllAny
import Mathlib.Data.List.Basic
import OpenApiSharp.Text.Case
import OpenApiSharp.Text.Letter

/-!
# Lower case and digits

The lower-case form of a text depends on places only through the sigma, whose
form is chosen by the letters around it.  A digit is no letter, so digits at
the end of a text change nothing in front of them.  Nor is a slash, so the parts
of a path do not see one another.  Where both forms of the small sigma are taken
as one, no character sees another.
-/

namespace OpenApiSharp.Text

theorem shiftCode_eq (runs : List CaseRun) (code : Nat) :
    shiftCode runs code = code ∨
      ∃ run ∈ runs, run.contains code = true ∧
        shiftCode runs code = (code + run.shift).toNat := by
  induction runs with
  | nil =>
      exact Or.inl rfl
  | cons run rest inductionHypothesis =>
      by_cases before : code < run.first
      · exact Or.inl (by rw [shiftCode, if_pos before])
      · by_cases here : run.contains code = true
        · refine Or.inr ⟨run, List.mem_cons_self, here, ?_⟩
          rw [shiftCode, if_neg before, if_pos here]
        · rw [shiftCode, if_neg before, if_neg here]
          rcases inductionHypothesis with same | shifted
          · exact Or.inl same
          · obtain ⟨other, member, found, equal⟩ := shifted
            exact Or.inr ⟨other, List.mem_cons_of_mem _ member, found, equal⟩

/-- A code point that is held by a run lies between its ends. -/
theorem CodeRun.bounds_of_contains
    {run : CodeRun} {code : Nat} (held : run.contains code = true) :
    run.first ≤ code ∧ code ≤ run.last := by
  simp only [CodeRun.contains, Bool.and_eq_true, decide_eq_true_eq] at held
  exact held.1

/-- Whether the image of a run is positive and has none of some code points
between its ends. -/
def CaseRun.avoids (run : CaseRun) (codes : List Nat) : Bool :=
  decide (0 < (run.first : Int) + run.shift) &&
    codes.all fun code =>
      decide ((code : Int) < run.first + run.shift) ||
        decide ((run.last : Int) + run.shift < code)

private theorem shiftCode_not_mem
    {runs : List CaseRun} {codes : List Nat}
    (avoiding : ∀ run ∈ runs, run.avoids codes = true) {code : Nat}
    (free : code ∉ codes) : shiftCode runs code ∉ codes := by
  rcases shiftCode_eq runs code with same | ⟨run, member, held, equal⟩
  · rw [same]
    exact free
  · intro reached
    have bounds := CodeRun.bounds_of_contains held
    have avoids := avoiding run member
    rw [CaseRun.avoids, Bool.and_eq_true, List.all_eq_true] at avoids
    have positive := of_decide_eq_true avoids.1
    have outside := avoids.2 _ reached
    simp only [Bool.or_eq_true, decide_eq_true_eq] at outside
    have exact : ((shiftCode runs code : Nat) : Int) = code + run.shift := by
      rw [equal]
      omega
    omega

theorem toNat_isValidChar (c : Char) : c.toNat.isValidChar :=
  c.valid

/-- Whether the image of a run consists of characters. -/
def CaseRun.staysValid (run : CaseRun) : Bool :=
  decide (0 ≤ (run.first : Int) + run.shift) &&
    (decide ((run.last : Int) + run.shift < 0xd800) ||
      decide (0xdfff < (run.first : Int) + run.shift) &&
        decide ((run.last : Int) + run.shift < 0x110000))

theorem staysValid_of_mem_lowerRuns :
    ∀ run ∈ lowerRuns, run.staysValid = true := by
  decide +kernel

theorem staysValid_of_mem_capitalRuns :
    ∀ run ∈ capitalRuns, run.staysValid = true := by
  decide +kernel

theorem shiftCode_isValidChar
    {runs : List CaseRun} (staying : ∀ run ∈ runs, run.staysValid = true)
    {code : Nat} (valid : code.isValidChar) :
    (shiftCode runs code).isValidChar := by
  rcases shiftCode_eq runs code with same | ⟨run, member, held, equal⟩
  · rw [same]
    exact valid
  · have bounds := CodeRun.bounds_of_contains held
    have stays := staying run member
    simp only [CaseRun.staysValid, Bool.and_eq_true, Bool.or_eq_true,
      decide_eq_true_eq] at stays
    have exact : ((shiftCode runs code : Nat) : Int) = code + run.shift := by
      rw [equal]
      omega
    rw [Nat.isValidChar]
    omega

theorem toNat_ofNat_of_isValidChar
    {code : Nat} (valid : code.isValidChar) :
    (Char.ofNat code).toNat = code := by
  rw [Char.ofNat, dif_pos valid]
  rfl

private theorem toNat_shifted_not_mem
    {runs : List CaseRun} (staying : ∀ run ∈ runs, run.staysValid = true)
    {codes : List Nat} (avoiding : ∀ run ∈ runs, run.avoids codes = true)
    {c : Char} (free : c.toNat ∉ codes) :
    (Char.ofNat (shiftCode runs c.toNat)).toNat ∉ codes := by
  have valid := shiftCode_isValidChar staying (toNat_isValidChar c)
  rw [toNat_ofNat_of_isValidChar valid]
  exact shiftCode_not_mem avoiding free

/-- Lower-case forms keep away from some code points if the runs do, and the
two characters that the dotted capital I gives. -/
theorem toNat_not_mem_of_mem_lowerChar
    {codes : List Nat} (avoiding : ∀ run ∈ lowerRuns, run.avoids codes = true)
    (dotted : ∀ code ∈ ['i', '\u0307'].map Char.toNat, code ∉ codes)
    {c d : Char}
    (free : c.toNat ∉ codes) (image : d ∈ lowerChar c) : d.toNat ∉ codes := by
  by_cases special : c = '\u0130'
  · rw [lowerChar, if_pos special] at image
    exact dotted _ (List.mem_map_of_mem image)
  · rw [lowerChar, if_neg special] at image
    rw [List.mem_singleton.1 image]
    exact
      toNat_shifted_not_mem staysValid_of_mem_lowerRuns avoiding free

theorem mem_of_lookup_eq_some
    {α β : Type} [BEq α] [LawfulBEq α] {entries : List (α × β)}
    {key : α} {value : β} (found : entries.lookup key = some value) :
    (key, value) ∈ entries := by
  obtain ⟨front, back, parts, _⟩ := List.lookup_eq_some_iff.1 found
  rw [parts]
  exact List.mem_append_right _ List.mem_cons_self

/-- So do capitals, which may be several for one character. -/
theorem toNat_not_mem_of_mem_capitalChar
    {codes : List Nat}
    (avoiding : ∀ run ∈ capitalRuns, run.avoids codes = true)
    (sequences : ∀ entry ∈ capitalSequences, ∀ code ∈ entry.2,
      (Char.ofNat code).toNat ∉ codes) {c d : Char}
    (free : c.toNat ∉ codes) (image : d ∈ capitalChar c) :
    d.toNat ∉ codes := by
  rw [capitalChar] at image
  cases found : capitalSequences.lookup c.toNat with
  | some several =>
      rw [found] at image
      obtain ⟨code, member, rfl⟩ := List.mem_map.1 image
      exact sequences _ (mem_of_lookup_eq_some found) code member
  | none =>
      rw [found] at image
      rw [List.mem_singleton.1 image]
      exact
        toNat_shifted_not_mem staysValid_of_mem_capitalRuns avoiding free

theorem capitalChar_ne_nil (c : Char) : capitalChar c ≠ [] := by
  rw [capitalChar]
  cases found : capitalSequences.lookup c.toNat with
  | some several =>
      have filled : ∀ entry ∈ capitalSequences, entry.2 ≠ [] := by
        decide
      intro empty
      exact filled _ (mem_of_lookup_eq_some found)
        (List.map_eq_nil_iff.1 empty)
  | none =>
      simp

/-- The code points from which runs may lead to a code point: that one itself,
or one that a run holds at its distance. -/
def sourceCodes (runs : List CaseRun) (image : Nat) : List Nat :=
  image :: runs.filterMap fun run =>
    let code := ((image : Int) - run.shift).toNat
    if run.contains code then some code else none

private theorem mem_sourceCodes_shiftCode
    {runs : List CaseRun} (staying : ∀ run ∈ runs, run.staysValid = true)
    (code : Nat) : code ∈ sourceCodes runs (shiftCode runs code) := by
  rw [sourceCodes, List.mem_cons, List.mem_filterMap]
  rcases shiftCode_eq runs code with same | ⟨run, member, held, equal⟩
  · exact Or.inl same.symm
  · have bounds := CodeRun.bounds_of_contains held
    have stays := staying run member
    simp only [CaseRun.staysValid, Bool.and_eq_true, decide_eq_true_eq] at stays
    have back : ((shiftCode runs code : Int) - run.shift).toNat = code := by
      rw [equal]
      omega
    refine Or.inr ⟨run, member, ?_⟩
    simp only [back, held, if_true]

theorem toNat_mem_sourceCodes
    {runs : List CaseRun} (staying : ∀ run ∈ runs, run.staysValid = true)
    {c d : Char} (image : Char.ofNat (shiftCode runs c.toNat) = d) :
    c.toNat ∈ sourceCodes runs d.toNat := by
  rw [← image,
    toNat_ofNat_of_isValidChar
      (shiftCode_isValidChar staying (toNat_isValidChar c))]
  exact mem_sourceCodes_shiftCode staying c.toNat

/-- The dotted capital I apart, a character with a certain lower-case form is
found by the runs. -/
theorem toNat_mem_sourceCodes_of_lowerChar
    {c d : Char} (image : lowerChar c = [d]) :
    c.toNat ∈ sourceCodes lowerRuns d.toNat := by
  rw [lowerChar] at image
  split at image
  · simp at image
  · exact
      toNat_mem_sourceCodes staysValid_of_mem_lowerRuns
        (List.singleton_inj.1 image)

/-- The characters with a certain lower-case form are known once those that the
runs find are. -/
theorem lowerChar_eq_singleton_iff
    {d : Char} {sources : List Char}
    (complete :
      ∀ code ∈ sourceCodes lowerRuns d.toNat, code ∈ sources.map Char.toNat)
    (images : ∀ image ∈ sources.map lowerChar, image = [d]) (c : Char) :
    lowerChar c = [d] ↔ c ∈ sources := by
  constructor
  · intro image
    obtain ⟨source, member, same⟩ :=
      List.mem_map.1 (complete _ (toNat_mem_sourceCodes_of_lowerChar image))
    rwa [← Char.toNat_inj.1 same]
  · intro member
    exact images _ (List.mem_map_of_mem member)

/-- A code point of neither a letter nor a numeral nor the underscore is not
that of a word character. -/
theorem not_mem_of_isWordChar
    {codes : List Nat}
    (letters : ∀ code ∈ codes, inRanges letterRanges code = false)
    (numerals : ∀ code ∈ codes, inRanges numeralRanges code = false)
    (underscore : '_'.toNat ∉ codes) {c : Char}
    (word : isWordChar c = true) : c.toNat ∉ codes := by
  intro member
  rw [isWordChar, isAlphanumeric, isLetter, letters _ member, isNumeral,
    numerals _ member] at word
  simp only [Bool.or_self, Bool.false_or, beq_iff_eq] at word
  rw [word] at member
  exact underscore member

/-! ## Lower case -/

@[simp]
theorem toList_lower (text : String) :
    (lower text).toList = lowerAfter [] text.toList :=
  String.toList_ofList

def asciiDigits : List Char :=
  ['0', '1', '2', '3', '4', '5', '6', '7', '8', '9']

theorem mem_asciiDigits_of_isDigit {c : Char} (digit : c.isDigit = true) :
    c ∈ asciiDigits := by
  have bounds : 48 ≤ c.toNat ∧ c.toNat ≤ 57 := by
    simpa [Char.isDigit, UInt32.le_iff_toNat_le] using digit
  have within : ∀ code ∈ List.range' 48 10, Char.ofNat code ∈ asciiDigits := by
    decide
  rw [← Char.ofNat_toNat c]
  exact within _ (List.mem_range'_1.2 (by omega))

/-- A digit ends a word, stands for itself in lower case, and is no sigma. -/
private theorem caseless_of_mem_asciiDigits :
    ∀ c ∈ asciiDigits, isCaseIgnorable c = false ∧ isCased c = false ∧
      lowerChar c = [c] ∧ c ≠ 'Σ' :=
  List.all_iff_forall_prop.1 (by decide)

/-- The first character of a text, if there is one, ends a word in front of
it. -/
def EndsWord (cs : List Char) : Prop :=
  ∀ c ∈ cs.head?, isCaseIgnorable c = false ∧ isCased c = false

theorem meetsCased_append
    {back : List Char} (ends : EndsWord back) (cs : List Char) :
    meetsCased (cs ++ back) = meetsCased cs := by
  rw [meetsCased, meetsCased, List.dropWhile_append]
  by_cases passed : (cs.dropWhile isCaseIgnorable).isEmpty = true
  · rw [if_pos passed, List.isEmpty_iff.1 passed]
    cases back with
    | nil => rfl
    | cons c rest =>
        obtain ⟨stops, uncased⟩ := ends c rfl
        rw [List.dropWhile_cons_of_neg (by rw [stops]; decide)]
        exact uncased
  · rw [if_neg passed]
    cases kept : cs.dropWhile isCaseIgnorable with
    | nil => simp [kept] at passed
    | cons c rest => rfl

/-- What stands behind the end of a word does not matter in front of it. -/
theorem lowerAfter_append
    {back : List Char} (ends : EndsWord back) (before front : List Char) :
    lowerAfter before (front ++ back) =
      lowerAfter before front ++ lowerAfter (front.reverse ++ before) back := by
  induction front generalizing before with
  | nil => rfl
  | cons c rest inductionHypothesis =>
      rw [List.cons_append, lowerAfter, lowerAfter, inductionHypothesis,
        meetsCased_append ends, List.append_assoc, List.reverse_cons,
        List.append_assoc, List.singleton_append]

/-- Nor does what stands in front of it matter behind it. -/
private theorem lowerAfter_append_before
    {earlier : List Char} (ends : EndsWord earlier)
    (before cs : List Char) :
    lowerAfter (before ++ earlier) cs = lowerAfter before cs := by
  induction cs generalizing before with
  | nil => rfl
  | cons c rest inductionHypothesis =>
      have step := inductionHypothesis (c :: before)
      rw [List.cons_append] at step
      rw [lowerAfter, lowerAfter, meetsCased_append ends, step]

private theorem endsWord_of_digits
    {digits : List Char} (numeric : ∀ c ∈ digits, c ∈ asciiDigits) :
    EndsWord digits := by
  intro c first
  obtain ⟨stops, uncased, _⟩ :=
    caseless_of_mem_asciiDigits c (numeric c (List.mem_of_mem_head? first))
  exact ⟨stops, uncased⟩

private theorem lowerAfter_digits
    {digits : List Char} (numeric : ∀ c ∈ digits, c ∈ asciiDigits)
    (before : List Char) : lowerAfter before digits = digits := by
  induction digits generalizing before with
  | nil => rfl
  | cons digit rest inductionHypothesis =>
      obtain ⟨_, _, same, noSigma⟩ :=
        caseless_of_mem_asciiDigits digit (numeric digit List.mem_cons_self)
      have restNumeric : ∀ c ∈ rest, c ∈ asciiDigits :=
        fun c member => numeric c (List.mem_cons_of_mem _ member)
      rw [lowerAfter, if_neg noSigma, same, inductionHypothesis restNumeric]
      rfl

/-- Digits behind a text stay as they are, and the text is cased without
regard to them. -/
theorem lower_append_digits
    {digits : String} (numeric : ∀ c ∈ digits.toList, c ∈ asciiDigits)
    (text : String) : lower (text ++ digits) = lower text ++ digits := by
  rw [lower, lower, String.toList_append,
    lowerAfter_append (endsWord_of_digits numeric),
    lowerAfter_digits numeric, String.ofList_append, String.ofList_toList]

theorem mem_asciiDigits_of_mem_toString
    {counter : Nat} {c : Char} (member : c ∈ (toString counter).toList) :
    c ∈ asciiDigits := by
  rw [Nat.toString_eq_ofList_toDigits, String.toList_ofList] at member
  exact mem_asciiDigits_of_isDigit
    (Nat.isDigit_of_mem_toDigits (by decide) (by decide) member)

private theorem endsWord_slash (rest : List Char) : EndsWord ('/' :: rest) := by
  have slash : isCaseIgnorable '/' = false ∧ isCased '/' = false := by
    decide
  rintro _ ⟨⟩
  exact slash

/-- The parts of a path are cased each by itself. -/
@[simp]
private theorem lower_append_slash (front back : String) :
    lower (front ++ "/" ++ back) = lower front ++ "/" ++ lower back := by
  have slash : "/".toList = ['/'] := rfl
  have lowerSlash : lowerChar '/' = ['/'] := by decide
  have behind :
      lowerAfter ('/' :: front.toList.reverse) back.toList =
        lowerAfter [] back.toList :=
    lowerAfter_append_before (endsWord_slash _) [] _
  apply String.toList_inj.1
  simp only [lower, String.toList_append, String.toList_ofList, slash,
    List.append_assoc, List.singleton_append]
  rw [lowerAfter_append (endsWord_slash _), List.append_nil, lowerAfter,
    if_neg (by decide), lowerSlash, behind, List.singleton_append]

@[simp]
theorem lower_intercalate_slash (parts : List String) :
    lower ("/".intercalate parts) = "/".intercalate (parts.map lower) := by
  induction parts with
  | nil => rfl
  | cons part rest inductionHypothesis =>
      cases rest with
      | nil =>
          simp only [List.map_cons, List.map_nil, String.intercalate_singleton]
      | cons next more =>
          rw [String.intercalate_cons_cons, lower_append_slash,
            inductionHypothesis]
          simp only [List.map_cons, String.intercalate_cons_cons]

theorem mem_lowerAfter
    {before cs : List Char} {d : Char} (member : d ∈ lowerAfter before cs) :
    d = 'ς' ∨ d = 'σ' ∨ ∃ c ∈ cs, d ∈ lowerChar c := by
  induction cs generalizing before with
  | nil =>
      cases member
  | cons c rest inductionHypothesis =>
      rw [lowerAfter, List.mem_append] at member
      rcases member with here | later
      · by_cases sigma : c = 'Σ'
        · rw [if_pos sigma, List.mem_singleton] at here
          rw [here]
          split <;> simp
        · rw [if_neg sigma] at here
          exact Or.inr (Or.inr ⟨c, List.mem_cons_self, here⟩)
      · rcases inductionHypothesis later with final | small | other
        · exact Or.inl final
        · exact Or.inr (Or.inl small)
        · obtain ⟨e, present, image⟩ := other
          exact Or.inr (Or.inr ⟨e, List.mem_cons_of_mem _ present, image⟩)

/-- But for the sigma, a character brings its own lower-case form into that of
the text. -/
theorem mem_lowerAfter_of_mem_lowerChar
    {before cs : List Char} {c d : Char} (member : c ∈ cs)
    (noSigma : c ≠ 'Σ') (image : d ∈ lowerChar c) :
    d ∈ lowerAfter before cs := by
  induction cs generalizing before with
  | nil => cases member
  | cons e rest inductionHypothesis =>
      rw [lowerAfter, List.mem_append]
      rcases List.mem_cons.1 member with rfl | later
      · rw [if_neg noSigma]
        exact Or.inl image
      · exact Or.inr (inductionHypothesis later)

private theorem slash_not_mem_lowerChar
    {c : Char} (other : c ≠ '/') : '/' ∉ lowerChar c := by
  have free : c.toNat ∉ ['/'.toNat] := by
    rw [List.mem_singleton, Char.toNat_inj]
    exact other
  intro image
  apply toNat_not_mem_of_mem_lowerChar (by decide +kernel) (by decide)
    free image
  exact List.mem_singleton_self _

theorem slash_not_mem_lower
    {text : String} (whole : '/' ∉ text.toList) :
    '/' ∉ (lower text).toList := by
  rw [lower, String.toList_ofList]
  intro member
  rcases mem_lowerAfter member with final | small | image
  · exact absurd final (by decide)
  · exact absurd small (by decide)
  · obtain ⟨c, present, image⟩ := image
    refine slash_not_mem_lowerChar ?_ image
    rintro rfl
    exact whole present

theorem lowerAfter_of_no_sigma
    {cs : List Char} (plain : 'Σ' ∉ cs) (before : List Char) :
    lowerAfter before cs = cs.flatMap lowerChar := by
  induction cs generalizing before with
  | nil => rfl
  | cons c rest inductionHypothesis =>
      rw [List.mem_cons, not_or] at plain
      rw [lowerAfter, if_neg (Ne.symm plain.1), List.flatMap_cons,
        inductionHypothesis plain.2]

theorem lower_append_of_no_sigma
    {front back : String} (plain : 'Σ' ∉ (front ++ back).toList) :
    lower (front ++ back) = lower front ++ lower back := by
  rw [String.toList_append, List.mem_append, not_or] at plain
  have both : 'Σ' ∉ front.toList ++ back.toList := by
    rw [List.mem_append, not_or]
    exact plain
  rw [lower, lower, lower, String.toList_append, lowerAfter_of_no_sigma both,
    lowerAfter_of_no_sigma plain.1, lowerAfter_of_no_sigma plain.2,
    List.flatMap_append, String.ofList_append]

/-- What a character contributes to the lower-case form of a text. -/
inductive LowerImage (c : Char) : List Char → Prop
  | sigma {image : Char} (capital : c = 'Σ')
      (form : image = 'ς' ∨ image = 'σ') : LowerImage c [image]
  | dotted (capital : c = '\u0130') : LowerImage c ['i', '\u0307']
  | single {image : Char} (undotted : c ≠ '\u0130')
      (own : lowerChar c = [image]) : LowerImage c [image]

theorem exists_lowerImage (before : List Char) (c : Char) (rest : List Char) :
    ∃ image, LowerImage c image ∧
      lowerAfter before (c :: rest) =
        image ++ lowerAfter (c :: before) rest := by
  rw [lowerAfter]
  refine ⟨_, ?_, rfl⟩
  by_cases isSigma : c = 'Σ'
  · rw [if_pos isSigma]
    refine .sigma isSigma ?_
    split
    · exact Or.inl rfl
    · exact Or.inr rfl
  · rw [if_neg isSigma]
    by_cases isDotted : c = '\u0130'
    · rw [lowerChar, if_pos isDotted]
      exact .dotted isDotted
    · have own :
          lowerChar c = [Char.ofNat (shiftCode lowerRuns c.toNat)] := by
        rw [lowerChar, if_neg isDotted]
      rw [own]
      exact .single isDotted own

/-- A character, the final sigma as the other small one. -/
def oneSigma (c : Char) : Char :=
  if c = 'ς' then 'σ' else c

/-- The lower-case form of a text with one form of the small sigma. -/
def folded (text : String) : String :=
  String.ofList ((lower text).toList.map oneSigma)

/-- What stands around a character matters to the form of the sigma alone. -/
theorem map_oneSigma_lowerAfter (before cs : List Char) :
    (lowerAfter before cs).map oneSigma =
      cs.flatMap fun c => (lowerChar c).map oneSigma := by
  induction cs generalizing before with
  | nil => rfl
  | cons c rest inductionHypothesis =>
      rw [lowerAfter, List.map_append, inductionHypothesis, List.flatMap_cons]
      congr 1
      by_cases sigma : c = 'Σ'
      · have own : (lowerChar 'Σ').map oneSigma = ['σ'] := by decide
        rw [if_pos sigma, sigma, own]
        split <;> rfl
      · rw [if_neg sigma]

@[simp]
theorem folded_append (front back : String) :
    folded (front ++ back) = folded front ++ folded back := by
  simp [folded, map_oneSigma_lowerAfter, String.ofList_append]

end OpenApiSharp.Text
