import OpenApiSharp.Proofs.Naming.Candidate
import OpenApiSharp.Proofs.Naming.Member

/-!
# Verbatim names

A keyword serves as a name behind an `@`, which is no part of the name.  Escaped
names that are chosen in turn are distinct as they are written.  Without the `@`
they are distinct as well, unless a keyword is asked for more than once and one
of the counters that this takes makes the name of another.
-/

namespace OpenApiSharp.Naming

open CSharp Text

/-- The ways in which a name is escaped. -/
inductive Escapes (name : String) : String → Prop
  | keyword (member : name ∈ keywords) : Escapes name ("@" ++ name)
  | digit (own : name ∉ keywords)
      (first : name.toList.head?.any isDigit = true) :
      Escapes name ("_" ++ name)
  | plain (own : name ∉ keywords)
      (noDigit : name.toList.head?.any isDigit = false) :
      Escapes name name

private theorem escapes_escapeIdentifier (name : String) :
    Escapes name (escapeIdentifier name) := by
  rw [escapeIdentifier]
  by_cases keyword : name ∈ keywords
  · rw [if_pos (List.contains_iff_mem.2 keyword)]
    exact .keyword keyword
  · rw [if_neg fun present => keyword (List.contains_iff_mem.1 present)]
    by_cases digit : name.toList.head?.any isDigit = true
    · rw [if_pos digit]
      exact .digit keyword digit
    · rw [if_neg digit]
      exact .plain keyword (eq_false_of_ne_true digit)

private theorem exists_small_of_mem_keywords
    {keyword : String} (member : keyword ∈ keywords) :
    ∃ c rest,
      keyword.toList = c :: rest ∧ 97 ≤ c.toNat ∧ c.toNat ≤ 122 := by
  have filled : ∀ keyword ∈ keywords, keyword.toList ≠ [] := by
    decide
  obtain ⟨c, rest, spelling⟩ :=
    List.exists_cons_of_ne_nil (filled keyword member)
  refine ⟨c, rest, spelling, small_of_mem_keywords member ?_⟩
  rw [spelling]
  exact List.mem_cons_self

private theorem digitFree_of_mem_keywords
    {keyword : String} (member : keyword ∈ keywords) : DigitFree keyword := by
  have below : ∀ digit ∈ asciiDigits, digit.toNat < 97 :=
    List.all_iff_forall_prop.1 (by decide)
  intro c inside digit
  have small := small_of_mem_keywords member inside
  have bound := below c digit
  omega

private theorem digitFree_marked
    {keyword : String} (member : keyword ∈ keywords) :
    DigitFree ("@" ++ keyword) := by
  intro c inside
  rw [String.toList_append] at inside
  rcases List.mem_append.1 inside with mark | own
  · rw [List.mem_singleton.1 mark]
    decide
  · exact digitFree_of_mem_keywords member c own

private theorem head?_marked (name : String) :
    ("@" ++ name).toList.head? = some '@' := by
  rw [String.toList_append]
  rfl

/-- Only an escaped keyword begins with the sign. -/
private theorem exists_keyword_of_head?_escapeIdentifier
    {name : String} (unmarked : name.toList.head? ≠ some '@')
    (marked : (escapeIdentifier name).toList.head? = some '@') :
    name ∈ keywords ∧ escapeIdentifier name = "@" ++ name := by
  have escapes := escapes_escapeIdentifier name
  generalize escapeIdentifier name = escaped at escapes marked
  cases escapes with
  | keyword member => exact ⟨member, rfl⟩
  | digit _ _ =>
      rw [String.toList_append] at marked
      cases marked
  | plain _ _ => exact absurd marked unmarked

theorem escapeIdentifier_eq_marked_iff
    {name keyword : String} (unmarked : name.toList.head? ≠ some '@')
    (member : keyword ∈ keywords) :
    escapeIdentifier name = "@" ++ keyword ↔ name = keyword := by
  constructor
  · intro same
    have marked : (escapeIdentifier name).toList.head? = some '@' := by
      rw [same, head?_marked]
    obtain ⟨_, escaped⟩ :=
      exists_keyword_of_head?_escapeIdentifier unmarked marked
    have lists := congrArg String.toList (escaped.symm.trans same)
    rw [String.toList_append, String.toList_append] at lists
    exact String.toList_inj.1 (List.append_cancel_left lists)
  · rintro rfl
    rw [escapeIdentifier, if_pos (List.contains_iff_mem.2 member)]

/-- A name that looks like no escaped one stays as it is, and nothing else is
escaped to it. -/
theorem escapeIdentifier_eq_iff
    {text : String} {c : Char} {rest : List Char}
    (spelling : text.toList = c :: rest) (own : text ∉ keywords)
    (noSign : c ≠ '@') (noDigit : isDigit c = false)
    (noMark : c = '_' → rest.head?.any isDigit = false) (name : String) :
    escapeIdentifier name = text ↔ name = text := by
  constructor
  · intro same
    have escapes := escapes_escapeIdentifier name
    rw [same] at escapes
    cases escapes with
    | keyword _ =>
        rw [String.toList_append] at spelling
        exact absurd (List.cons.inj spelling).1.symm noSign
    | digit _ first =>
        rw [String.toList_append] at spelling
        obtain ⟨mark, behind⟩ := List.cons.inj spelling
        have other := noMark mark.symm
        rw [← behind] at other
        exact absurd first (ne_true_of_eq_false other)
    | plain _ _ => rfl
  · rintro rfl
    rw [escapeIdentifier,
      if_neg fun present => own (List.contains_iff_mem.1 present), spelling,
      List.head?_cons, Option.any_some, noDigit]
    rfl

/-- A keyword with a counter is such a name. -/
theorem escapeIdentifier_eq_numbered_iff
    {name keyword : String} (member : keyword ∈ keywords) (counter : Nat) :
    escapeIdentifier name = numbered keyword counter ↔
      name = numbered keyword counter := by
  obtain ⟨c, rest, spelling, least, _⟩ := exists_small_of_mem_keywords member
  have begins :
      (numbered keyword counter).toList =
        c :: (rest ++ (toString counter).toList) := by
    simp [spelling]
  have letter := isLetter_of_mem_keywords member spelling
  refine
    escapeIdentifier_eq_iff begins
      (append_counter_not_mem_keywords keyword counter) ?_
      (isDigit_eq_false_of_isLetter letter) ?_ name
  · rintro rfl
    exact absurd least (by decide)
  · rintro rfl
    exact absurd least (by decide)

private theorem withoutAt_marked
    {name : String} (unmarked : name.toList.head? ≠ some '@') :
    withoutAt ("@" ++ name) = name := by
  have dropped : withoutAt ("@" ++ name) = withoutAt name := by
    rw [withoutAt, withoutAt, String.toList_append]
    rfl
  rw [dropped, withoutAt_eq_self unmarked]

private theorem head?_candidate_ne_at
    {name : String} (unmarked : name.toList.head? ≠ some '@')
    (place : Nat) : (candidate name place).toList.head? ≠ some '@' := by
  obtain ⟨suffix, equal, digits⟩ := exists_suffix_candidate name place
  rw [equal, String.toList_append]
  cases spelling : name.toList with
  | nil =>
      intro marked
      have digit := digits '@' (List.mem_of_mem_head? marked)
      exact absurd digit (by decide)
  | cons c rest =>
      rw [spelling] at unmarked
      exact unmarked

private theorem head?_ne_at_of_mem_keywords
    {keyword : String} (member : keyword ∈ keywords) :
    keyword.toList.head? ≠ some '@' := by
  obtain ⟨c, rest, spelling, least, _⟩ := exists_small_of_mem_keywords member
  rw [spelling, List.head?_cons]
  rintro ⟨⟩
  exact absurd least (by decide)

/-- A keyword is asked for more than once, and one of the counters that this
takes makes a name that is asked for too. -/
def CounterMeetsKeyword (names : List String) : Prop :=
  ∃ keyword ∈ keywords, ∃ counter < names.count keyword,
    0 < counter ∧ numbered keyword counter ∈ names

instance (names : List String) : Decidable (CounterMeetsKeyword names) :=
  inferInstanceAs
    (Decidable (∃ keyword ∈ keywords, ∃ counter < names.count keyword,
      0 < counter ∧ numbered keyword counter ∈ names))

section Turns

variable {names : List String}
  (unmarked : ∀ name ∈ names, name.toList.head? ≠ some '@')

include unmarked

private theorem count_marked {keyword : String} (member : keyword ∈ keywords) :
    (names.map escapeIdentifier).count ("@" ++ keyword) =
      names.count keyword := by
  rw [List.count, List.count, List.countP_map]
  apply List.countP_congr
  intro name present
  rw [Function.comp_apply, beq_iff_eq, beq_iff_eq]
  exact escapeIdentifier_eq_marked_iff (unmarked name present) member

/-- The candidates of an escaped keyword are given away one after the other. -/
theorem candidate_marked_mem_iff
    {keyword : String} (member : keyword ∈ keywords) (place : Nat) :
    candidate ("@" ++ keyword) place ∈
        assign uniqueName [] (names.map escapeIdentifier) ↔
      place < names.count keyword := by
  have own :
      ∀ other ∈ names.map escapeIdentifier, ∀ left right,
        candidate other left = candidate ("@" ++ keyword) right →
          other = "@" ++ keyword := by
    intro other present left right same
    obtain ⟨name, asked, rfl⟩ := List.mem_map.1 present
    have marked : (escapeIdentifier name).toList.head? = some '@' := by
      by_contra plain
      apply head?_candidate_ne_at plain left
      rw [same, candidate_append, head?_marked]
    obtain ⟨otherKeyword, escaped⟩ :=
      exists_keyword_of_head?_escapeIdentifier (unmarked name asked) marked
    rw [escaped] at same ⊢
    exact
      eq_of_candidate_eq_candidate (digitFree_marked otherKeyword)
        (digitFree_marked member) same
  have noneInUse :
      ∀ place, candidate ("@" ++ keyword) place ∈ [] ↔ place < 0 := by
    simp
  rw [candidate_mem_assign_iff own noneInUse, count_marked unmarked member]
  omega

/-- A name that is given away has no sign, or it is a candidate of a keyword
behind the sign. -/
private theorem plain_or_marked_of_mem
    {result : String}
    (given : result ∈ assign uniqueName [] (names.map escapeIdentifier)) :
    withoutAt result = result ∨
      result = "@" ++ withoutAt result ∧
        ∃ keyword ∈ keywords, ∃ place < names.count keyword,
          withoutAt result = candidate keyword place := by
  obtain ⟨other, present, place, rfl⟩ := exists_candidate_of_mem_assign given
  obtain ⟨name, asked, rfl⟩ := List.mem_map.1 present
  by_cases marked : (escapeIdentifier name).toList.head? = some '@'
  · obtain ⟨keyword, escaped⟩ :=
      exists_keyword_of_head?_escapeIdentifier (unmarked name asked) marked
    rw [escaped] at given ⊢
    have bound := (candidate_marked_mem_iff unmarked keyword place).1 given
    have behind :
        withoutAt (candidate ("@" ++ name) place) = candidate name place := by
      rw [candidate_append]
      exact withoutAt_marked (head?_candidate_ne_at (unmarked name asked) place)
    rw [behind]
    exact
      Or.inr ⟨candidate_append "@" name place, name, keyword, place, bound,
        rfl⟩
  · exact Or.inl (withoutAt_eq_self (head?_candidate_ne_at marked place))

omit unmarked in
/-- Where a candidate of a keyword is given away without the sign, a name that
is asked for is the keyword with a counter. -/
private theorem exists_counter_of_mem
    {keyword : String} (member : keyword ∈ keywords) {place : Nat}
    (given : candidate keyword place ∈
      assign uniqueName [] (names.map escapeIdentifier)) :
    ∃ counter, 0 < counter ∧ counter ≤ place ∧
      numbered keyword counter ∈ names := by
  obtain ⟨other, present, inUse, chosen⟩ := exists_choice_of_mem_assign given
  obtain ⟨otherPlace, equal⟩ := exists_uniqueName_eq_candidate other inUse
  obtain ⟨name, asked, rfl⟩ := List.mem_map.1 present
  have positive : 0 < place := by
    rw [Nat.pos_iff_ne_zero]
    rintro rfl
    apply uniqueName_not_mem_keywords
      (escapeIdentifier_not_mem_keywords name) inUse
    rw [← chosen]
    exact member
  rw [candidate_of_pos positive] at chosen
  rcases eq_or_exists_counter_of_candidate_eq_numbered
      (digitFree_of_mem_keywords member) positive
      (equal.symm.trans chosen.symm) with same | counted
  · exact
      absurd (same ▸ member) (escapeIdentifier_not_mem_keywords name)
  · obtain ⟨counter, counterPositive, bound, escaped⟩ := counted
    rw [escapeIdentifier_eq_numbered_iff member] at escaped
    rw [escaped] at asked
    exact ⟨counter, counterPositive, bound, asked⟩

/-- Escaped names that are chosen in turn are distinct without the sign exactly
if no counter of a keyword makes the name of another. -/
theorem nodup_withoutAt_assign_iff :
    ((assign uniqueName [] (names.map escapeIdentifier)).map
        withoutAt).Nodup ↔ ¬ CounterMeetsKeyword names := by
  rw [List.nodup_map_iff_inj_on (nodup_assign uniqueName_not_mem [] _)]
  constructor
  · rintro apart ⟨keyword, member, counter, bound, positive, asked⟩
    have marked := (candidate_marked_mem_iff unmarked member counter).2 bound
    have plain :
        numbered keyword counter ∈
          assign uniqueName [] (names.map escapeIdentifier) := by
      have escaped :=
        (escapeIdentifier_eq_numbered_iff member counter).2 rfl
      have present := List.mem_map_of_mem (f := escapeIdentifier) asked
      rw [escaped] at present
      exact (mem_assign_or_mem_of_mem present).resolve_right List.not_mem_nil
    have noSign :
        (numbered keyword counter).toList.head? ≠ some '@' := by
      rw [← candidate_of_pos positive]
      exact
        head?_candidate_ne_at (head?_ne_at_of_mem_keywords member) counter
    rw [candidate_append, candidate_of_pos positive] at marked
    have same := apart _ marked _ plain (by
      rw [withoutAt_marked noSign, withoutAt_eq_self noSign])
    rw [← same] at noSign
    exact noSign (head?_marked _)
  · intro apart left leftGiven right rightGiven same
    have mixed :
        ∀ keyword ∈ keywords, ∀ place < names.count keyword,
          candidate keyword place ∉
            assign uniqueName [] (names.map escapeIdentifier) := by
      intro keyword member place bound given
      obtain ⟨counter, positive, least, asked⟩ :=
        exists_counter_of_mem member given
      exact
        apart ⟨keyword, member, counter, by omega, positive, asked⟩
    rcases plain_or_marked_of_mem unmarked leftGiven with
      leftPlain | ⟨leftMarked, keyword, member, place, bound, equal⟩
    · rcases plain_or_marked_of_mem unmarked rightGiven with
        rightPlain | ⟨_, keyword, member, place, bound, equal⟩
      · rw [← leftPlain, same, rightPlain]
      · rw [← leftPlain, same, equal] at leftGiven
        exact absurd leftGiven (mixed keyword member place bound)
    · rcases plain_or_marked_of_mem unmarked rightGiven with
        rightPlain | ⟨rightMarked, _⟩
      · rw [← rightPlain, ← same, equal] at rightGiven
        exact absurd rightGiven (mixed keyword member place bound)
      · rw [leftMarked, same, ← rightMarked]

/-- A name that is neither escaped nor counted is given away exactly if it is
asked for. -/
theorem mem_map_withoutAt_assign_iff
    {text : String} {c : Char} {rest : List Char}
    (spelling : text.toList = c :: rest) (own : text ∉ keywords)
    (noSign : c ≠ '@') (noDigit : isDigit c = false)
    (noMark : c = '_' → rest.head?.any isDigit = false)
    (ends : ∀ d ∈ text.toList.getLast?, d ∉ asciiDigits) :
    text ∈ (assign uniqueName [] (names.map escapeIdentifier)).map withoutAt ↔
      text ∈ names := by
  have escaped := escapeIdentifier_eq_iff spelling own noSign noDigit noMark
  have uncounted :
      ∀ other place, candidate other place = text → other = text :=
    fun _ _ => eq_of_candidate_eq ends
  have unsigned : withoutAt text = text := by
    apply withoutAt_eq_self
    rw [spelling, List.head?_cons]
    rintro ⟨⟩
    exact noSign rfl
  constructor
  · intro present
    obtain ⟨result, given, same⟩ := List.mem_map.1 present
    rcases plain_or_marked_of_mem unmarked given with
      plain | ⟨_, keyword, member, place, _, equal⟩
    · rw [← plain, same, mem_assign_iff_mem uncounted] at given
      obtain ⟨name, asked, written⟩ := List.mem_map.1 given
      rwa [(escaped name).1 written] at asked
    · rw [uncounted keyword place (equal.symm.trans same)] at member
      exact absurd member own
  · intro asked
    have present := List.mem_map_of_mem (f := escapeIdentifier) asked
    rw [(escaped text).2 rfl, ← mem_assign_iff_mem uncounted] at present
    exact List.mem_map.2 ⟨text, present, unsigned⟩

end Turns

end OpenApiSharp.Naming
