import OpenApiSharp.CSharp.Source
import OpenApiSharp.Proofs.Naming.Fresh
import OpenApiSharp.Proofs.Naming.Legal

namespace OpenApiSharp.Naming

open Text

/-- The at sign and the small letters, one of which every keyword begins
with. -/
def keywordCodes : List Nat :=
  '@'.toNat :: List.range' 97 26

private theorem not_mem_keywordCodes_of_mem_capitalChar
    {c d : Char} (word : isWordChar c = true) (image : d ∈ capitalChar c) :
    d.toNat ∉ keywordCodes := by
  by_cases special : c.toNat ∈ keywordCodes
  · have capitals :
        ∀ code ∈ keywordCodes, isWordChar (Char.ofNat code) = true →
          ((capitalChar (Char.ofNat code)).all fun capital =>
            !keywordCodes.contains capital.toNat) = true := by
      decide +kernel
    have here := capitals _ special
    rw [Char.ofNat_toNat] at here
    simpa using List.all_eq_true.1 (here word) d image
  · exact
      toNat_not_mem_of_mem_capitalChar (by decide +kernel)
        (by decide) special image

/-- A name that begins with neither an at sign nor a small letter. -/
def BeginsAsMember (name : String) : Prop :=
  ∃ c rest, name.toList = c :: rest ∧ c.toNat ∉ keywordCodes

private theorem BeginsAsMember.append
    {name : String} (begins : BeginsAsMember name) (suffix : String) :
    BeginsAsMember (name ++ suffix) := by
  obtain ⟨c, rest, spelling, capital⟩ := begins
  refine ⟨c, rest ++ suffix.toList, ?_, capital⟩
  rw [String.toList_append, spelling, List.cons_append]

private theorem BeginsAsMember.not_mem_keywords
    {name : String} (begins : BeginsAsMember name) : name ∉ keywords := by
  obtain ⟨c, rest, spelling, capital⟩ := begins
  intro keyword
  have member : c ∈ name.toList := by
    rw [spelling]
    exact List.mem_cons_self
  obtain ⟨least, greatest⟩ := small_of_mem_keywords keyword member
  exact capital
    (List.mem_cons_of_mem _ (List.mem_range'_1.2 (by omega)))

private theorem BeginsAsMember.head?_ne_at
    {name : String} (begins : BeginsAsMember name) :
    name.toList.head? ≠ some '@' := by
  obtain ⟨c, rest, spelling, capital⟩ := begins
  rw [spelling, List.head?_cons]
  rintro ⟨⟩
  exact capital List.mem_cons_self

private theorem beginsAsMember_memberName (raw : String) :
    BeginsAsMember (memberName raw) := by
  rw [memberName]
  cases words : wordChars raw with
  | nil =>
      exact ⟨'U', "nknownProperty".toList, rfl, by decide⟩
  | cons c rest =>
      have word := isWordChar_of_wordChars words
      cases image : capitalChar c with
      | nil => exact absurd image (capitalChar_ne_nil c)
      | cons d back =>
          have capital : d ∈ capitalChar c := by
            rw [image]
            exact List.mem_cons_self
          refine ⟨d, back ++ rest, ?_,
            not_mem_keywordCodes_of_mem_capitalChar word capital⟩
          rw [String.toList_ofList, image, List.cons_append]

private theorem beginsAsMember_memberNameWithin (raw owner : String) :
    BeginsAsMember (memberNameWithin raw owner) := by
  rw [memberNameWithin]
  split
  · exact (beginsAsMember_memberName raw).append "Value"
  · exact beginsAsMember_memberName raw

/-- Only a leading digit of a member has to be escaped. -/
theorem BeginsAsMember.escapeIdentifier_eq
    {name : String} (begins : BeginsAsMember name) :
    escapeIdentifier name =
      if name.toList.head?.any isDigit then "_" ++ name else name := by
  rw [escapeIdentifier, if_neg fun present =>
    begins.not_mem_keywords (List.contains_iff_mem.1 present)]

private theorem BeginsAsMember.escapeIdentifier
    {name : String} (begins : BeginsAsMember name) :
    BeginsAsMember (escapeIdentifier name) := by
  rw [begins.escapeIdentifier_eq]
  split
  · refine ⟨'_', name.toList, ?_, by decide⟩
    rw [String.toList_append]
    rfl
  · exact begins

private theorem beginsAsMember_memberIdentifier
    (raw owner : String) (used : List String) :
    BeginsAsMember (memberIdentifier raw owner used) := by
  have begins := (beginsAsMember_memberNameWithin raw owner).escapeIdentifier
  obtain ⟨suffix, equal⟩ :=
    uniqueName_eq_append (Naming.escapeIdentifier (memberNameWithin raw owner))
      used
  rw [memberIdentifier_eq_uniqueName, equal]
  exact begins.append suffix

/-- Names that are distinct as identifiers of the generated code, where a
leading `@` does not count. -/
structure Distinguished (names : List String) : Prop where
  nodup : names.Nodup
  unmarked : ∀ name ∈ names, name.toList.head? ≠ some '@'
  nodup_withoutAt : (names.map CSharp.withoutAt).Nodup

theorem withoutAt_eq_self
    {name : String} (unmarked : name.toList.head? ≠ some '@') :
    CSharp.withoutAt name = name := by
  rw [CSharp.withoutAt]
  cases spelling : name.toList with
  | nil => rw [List.dropWhile_nil, ← spelling, String.ofList_toList]
  | cons c rest =>
      rw [spelling, List.head?_cons] at unmarked
      have other : (c == '@') = false := by
        rw [beq_eq_false_iff_ne]
        rintro rfl
        exact unmarked rfl
      rw [List.dropWhile_cons_of_neg (by rw [other]; decide), ← spelling,
        String.ofList_toList]

/-- Members that are named one after the other are distinguished, whatever
they are made from. -/
theorem distinguished_members
    {α : Type} (raw : α → String) (owner : String) (elements : List α) :
    Distinguished
      (assign (fun element used => memberIdentifier (raw element) owner used)
        [] elements) := by
  have distinct :
      (assign (fun element used => memberIdentifier (raw element) owner used)
        [] elements).Nodup :=
    nodup_assign (fun _ used => memberIdentifier_not_mem _ _ used) [] elements
  have unmarked :
      ∀ name ∈ assign
          (fun element used => memberIdentifier (raw element) owner used)
          [] elements,
        name.toList.head? ≠ some '@' := by
    intro name member
    obtain ⟨element, _, used, rfl⟩ := exists_choice_of_mem_assign member
    exact (beginsAsMember_memberIdentifier _ _ _).head?_ne_at
  refine ⟨distinct, unmarked, ?_⟩
  have same := List.map_congr_left fun name member =>
    withoutAt_eq_self (unmarked name member)
  rw [same, List.map_id']
  exact distinct

theorem isDigit_eq_false_of_isLetter
    {c : Char} (letter : isLetter c = true) : isDigit c = false := by
  have apart : bitsOf letterRanges &&& bitsOf digitRanges = 0 := by
    decide +kernel
  have ascending := List.forall_iff_forall_mem.1 ranges_ascend
  have both := congrArg (fun bits => bits.testBit c.toNat) apart
  simp only [Nat.testBit_and, Nat.zero_testBit] at both
  rw [isLetter, inRanges_eq_testBit (ascending _ (by simp))] at letter
  rw [isDigit, inRanges_eq_testBit (ascending _ (by simp))]
  rw [letter, Bool.true_and] at both
  exact both

theorem append_ne_self {suffix : String} (filled : suffix ≠ "")
    (name : String) : name ++ suffix ≠ name := by
  intro same
  have lists := congrArg String.toList same
  rw [String.toList_append, List.append_right_eq_self] at lists
  exact filled (String.toList_eq_nil_iff.1 lists)

section Owner

variable {raw owner : String} (itself : typeName owner = owner)

include itself

theorem memberNameWithin_eq :
    memberNameWithin raw owner =
      if memberName raw = owner then owner ++ "Value"
      else memberName raw := by
  rw [memberNameWithin, itself]
  by_cases same : memberName raw = owner
  · simp only [same, beq_self_eq_true, Bool.or_self, if_true]
  · simp only [same, beq_eq_false_iff_ne.2 same, Bool.or_self,
      Bool.false_eq_true, if_false]

/-- Where the name of the type begins as the escaped name of a member does, the
member has its own name, which is another one. -/
private theorem memberName_of_append_eq_owner
    {suffix : String}
    (reached : escapeIdentifier (memberNameWithin raw owner) ++ suffix = owner) :
    escapeIdentifier (memberNameWithin raw owner) = memberName raw ∧
      memberName raw ≠ owner := by
  obtain ⟨first, others, ownerSpelling, letter⟩ :=
    exists_letter_typeName owner
  rw [itself] at ownerSpelling
  have begins := beginsAsMember_memberNameWithin raw owner
  have unescaped :
      escapeIdentifier (memberNameWithin raw owner) =
        memberNameWithin raw owner := by
    rw [begins.escapeIdentifier_eq] at reached ⊢
    by_cases digit :
        (memberNameWithin raw owner).toList.head?.any isDigit = true
    · have underscored :
          owner.toList =
            '_' :: (memberNameWithin raw owner ++ suffix).toList := by
        have lists := congrArg String.toList reached
        rw [if_pos digit, String.append_assoc, String.toList_append] at lists
        exact lists.symm
      have underscore : isLetter '_' = false := by decide
      rw [ownerSpelling] at underscored
      rw [(List.cons.inj underscored).1, underscore] at letter
      cases letter
    · rw [if_neg digit]
  rw [unescaped, memberNameWithin_eq itself] at reached ⊢
  by_cases same : memberName raw = owner
  · have filled : "Value" ++ suffix ≠ "" := by
      intro empty
      have lists := congrArg String.toList empty
      rw [String.toList_append] at lists
      cases lists
    rw [if_pos same, String.append_assoc] at reached
    exact absurd reached (append_ne_self filled owner)
  · exact ⟨if_neg same, same⟩

private theorem escapeIdentifier_of_numbered_eq_owner
    {counter : Nat} (reached : numbered (memberName raw) counter = owner) :
    escapeIdentifier (memberNameWithin raw owner) = memberName raw := by
  have other : memberName raw ≠ owner := by
    rw [← reached]
    exact (numbered_ne_self _ counter).symm
  obtain ⟨first, others, ownerSpelling, letter⟩ :=
    exists_letter_typeName owner
  obtain ⟨c, rest, spelling, _⟩ := beginsAsMember_memberName raw
  have sameBeginning : c = first := by
    rw [itself, ← reached, numbered_toList, spelling] at ownerSpelling
    exact (List.cons.inj ownerSpelling).1
  rw [memberNameWithin_eq itself, if_neg other,
    (beginsAsMember_memberName raw).escapeIdentifier_eq, spelling,
    List.head?_cons, Option.any_some, sameBeginning,
    isDigit_eq_false_of_isLetter letter]
  rfl

end Owner

/-- Counting leads a member back to the name of its type: its own name and that
with each smaller counter are taken, and the next counter makes the name of the
type, which is free. -/
def LeadsBack (raw owner : String) (used : List String) : Prop :=
  ∃ counter, 0 < counter ∧ numbered (memberName raw) counter = owner ∧
    memberName raw ∈ used ∧
    (∀ smaller, 0 < smaller → smaller < counter →
      numbered (memberName raw) smaller ∈ used) ∧
    owner ∉ used

theorem memberIdentifier_eq_iff_leadsBack
    {owner : String} (itself : typeName owner = owner)
    (raw : String) (used : List String) :
    memberIdentifier raw owner used = owner ↔ LeadsBack raw owner used := by
  have first :=
    isFirstFree_uniqueName (escapeIdentifier (memberNameWithin raw owner)) used
  constructor
  · intro same
    rw [← memberIdentifier_eq_uniqueName, same] at first
    generalize escaped :
      escapeIdentifier (memberNameWithin raw owner) = name at first
    cases first with
    | kept _ =>
        have kept :
            escapeIdentifier (memberNameWithin raw owner) ++ "" = owner := by
          rw [String.append_empty, escaped]
        obtain ⟨own, other⟩ := memberName_of_append_eq_owner itself kept
        exact absurd (own.symm.trans escaped) other
    | @counted counter taken positive free least =>
        obtain ⟨own, _⟩ :=
          memberName_of_append_eq_owner itself
            (congrArg (· ++ toString counter) escaped)
        rw [own] at escaped
        rw [← escaped] at taken free least
        exact ⟨counter, positive, congrArg (numbered · counter) escaped, taken,
          least, escaped ▸ free⟩
  · rintro ⟨counter, positive, reached, taken, least, free⟩
    rw [escapeIdentifier_of_numbered_eq_owner itself reached] at first
    rw [memberIdentifier_eq_uniqueName,
      escapeIdentifier_of_numbered_eq_owner itself reached]
    rw [← reached] at free ⊢
    exact first.unique (.counted taken positive free least)

end OpenApiSharp.Naming
