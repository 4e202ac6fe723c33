import Mathlib.Data.List.Induction
import Mathlib.Data.List.TakeWhile
import OpenApiSharp.Proofs.Naming.Fresh
import OpenApiSharp.Proofs.Text.Lines

/-!
# The search for a free name ends

A search that tests one candidate after the other until one is free has no bound
of its own.  It ends all the same, since no more candidates are taken than there
are names in use, and it ends at the name that is chosen by trying as many
counters as there are names in use.  Members are named by the same search.
-/

namespace OpenApiSharp.Naming

open Text

/-- The search from one candidate on, by the number of its tests and what it
ends with: a candidate that is free, or whatever the search from the next one
ends with. -/
inductive SearchesFrom (isTaken : String → Prop) (name : String) :
    Nat → Nat → String → Prop
  | ends {place : Nat} (free : ¬ isTaken (candidate name place)) :
      SearchesFrom isTaken name place 1 (candidate name place)
  | goesOn {place tests : Nat} {result : String}
      (taken : isTaken (candidate name place))
      (later : SearchesFrom isTaken name (place + 1) tests result) :
      SearchesFrom isTaken name place (tests + 1) result

section Searches

variable {isTaken : String → Prop} {name : String} {place : Nat}

private theorem searchesFrom_of_taken
    {count : Nat}
    (taken : ∀ other, place ≤ other → other < place + count →
      isTaken (candidate name other))
    (free : ¬ isTaken (candidate name (place + count))) :
    SearchesFrom isTaken name place (count + 1)
      (candidate name (place + count)) := by
  induction count generalizing place with
  | zero => exact .ends free
  | succ fewer inductionHypothesis =>
      have moved : place + (fewer + 1) = place + 1 + fewer := by omega
      rw [moved] at taken free ⊢
      refine .goesOn (taken place (Nat.le_refl place) (by omega)) ?_
      refine inductionHypothesis ?_ free
      intro other least less
      exact taken other (by omega) less

private theorem SearchesFrom.unique
    {tests otherTests : Nat} {result other : String}
    (first : SearchesFrom isTaken name place tests result)
    (second : SearchesFrom isTaken name place otherTests other) :
    otherTests = tests ∧ other = result := by
  induction first generalizing otherTests with
  | ends free =>
      cases second with
      | ends _ => exact ⟨rfl, rfl⟩
      | goesOn taken _ => exact absurd taken free
  | goesOn taken _ inductionHypothesis =>
      cases second with
      | ends free => exact absurd taken free
      | goesOn _ later =>
          obtain ⟨same, equal⟩ := inductionHypothesis later
          exact ⟨congrArg (· + 1) same, equal⟩

end Searches

section Ends

variable {key : String → String} {used : List String} {name result : String}

/-- The candidates in front of the first free one are taken. -/
private theorem IsFirstFree.exists_place
    (first : IsFirstFree key used name result) :
    ∃ place, result = candidate name place ∧
      ∀ earlier < place, key (candidate name earlier) ∈ used := by
  cases first with
  | kept _ =>
      exact ⟨0, rfl, fun earlier less => absurd less (Nat.not_lt_zero earlier)⟩
  | @counted counter taken positive _ least =>
      refine ⟨counter, (candidate_of_pos positive).symm, ?_⟩
      intro earlier less
      cases earlier with
      | zero => exact taken
      | succ smaller => exact least _ (Nat.succ_pos smaller) less

/-- What the search for a name comes to where names are compared by their
keys. -/
structure FindsFree (key : String → String) (used : List String)
    (name result : String) : Prop where
  /-- The search ends, in this way only, and with at most one test more than
  there are names in use. -/
  ends :
    ∃ tests ≤ used.toFinset.card + 1, ∀ count found,
      SearchesFrom (fun tested => key tested ∈ used) name 0 count found ↔
        count = tests ∧ found = result
  free : key result ∉ used
  first : IsFirstFree key used name result

private theorem IsFirstFree.findsFree
    (first : IsFirstFree key used name result)
    (apart : Function.Injective fun place => key (candidate name place)) :
    FindsFree key used name result where
  ends := by
    obtain ⟨place, rfl, taken⟩ := first.exists_place
    have free : key (candidate name place) ∉ used := first.free
    rw [← Nat.zero_add place] at free
    have search :
        SearchesFrom (fun tested => key tested ∈ used) name 0 (place + 1)
          (candidate name (0 + place)) :=
      searchesFrom_of_taken (fun other _ less => taken other (by omega)) free
    rw [Nat.zero_add] at search
    refine
      ⟨place + 1, Nat.succ_le_succ (le_card_of_taken apart taken), ?_⟩
    intro count found
    constructor
    · exact search.unique
    · rintro ⟨rfl, rfl⟩
      exact search
  free := first.free
  first := first

private theorem findsFree_uniqueName (name : String) (used : List String) :
    FindsFree id used name (uniqueName name used) :=
  (isFirstFree_uniqueName name used).findsFree (candidate_injective name)

/-- The name of a member that the search begins with, before it is escaped: it
is kept apart from the type that declares it. -/
inductive IsMemberBase (raw owner : String) : String → Prop
  | own (apart : memberName raw ≠ owner)
      (typeApart : memberName raw ≠ typeName owner) :
      IsMemberBase raw owner (memberName raw)
  | suffixed
      (meets : memberName raw = owner ∨ memberName raw = typeName owner) :
      IsMemberBase raw owner (memberName raw ++ "Value")

private theorem isMemberBase_memberNameWithin (raw owner : String) :
    IsMemberBase raw owner (memberNameWithin raw owner) := by
  rw [memberNameWithin]
  by_cases meets : memberName raw = owner ∨ memberName raw = typeName owner
  · rw [if_pos (by simpa using meets)]
    exact .suffixed meets
  · rw [if_neg (by simpa using meets)]
    rw [not_or] at meets
    exact .own meets.1 meets.2

/-- Where some names are in use, every search for a name ends with the first
free one. -/
structure SearchesEnd (used : List String) : Prop where
  caseful : ∀ name, FindsFree id used name (uniqueName name used)
  caseless : ∀ name, FindsFree lower used name (uniqueNameIgnoringCase name used)
  members :
    ∀ raw owner, ∃ base,
      IsMemberBase raw owner base ∧
        memberIdentifier raw owner used =
          uniqueName (escapeIdentifier base) used ∧
        FindsFree id used (escapeIdentifier base)
          (memberIdentifier raw owner used)

theorem searches_end_at_first_free (used : List String) :
    SearchesEnd used where
  caseful name := findsFree_uniqueName name used
  caseless name :=
    (isFirstFree_uniqueNameIgnoringCase name used).findsFree
      (lower_candidate_injective name)
  members raw owner :=
    ⟨memberNameWithin raw owner, isMemberBase_memberNameWithin raw owner,
      memberIdentifier_eq_uniqueName raw owner used, by
        rw [memberIdentifier_eq_uniqueName]
        exact findsFree_uniqueName _ used⟩

example :
    uniqueName "Order" ["Order", "Order1"] = "Order2" ∧
      uniqueNameIgnoringCase "ΟΔΟΣ" ["οδος"] = "ΟΔΟΣ1" := by
  decide

/-! ## Names with candidates of their own -/

theorem exists_suffix_candidate (name : String) (place : Nat) :
    ∃ suffix,
      candidate name place = name ++ suffix ∧
        ∀ c ∈ suffix.toList, c ∈ asciiDigits := by
  cases place with
  | zero => exact ⟨"", String.append_empty.symm, by simp⟩
  | succ counter =>
      exact
        ⟨toString (counter + 1), rfl,
          fun _ => mem_asciiDigits_of_mem_toString⟩

@[simp]
theorem candidate_append (front back : String) (place : Nat) :
    candidate (front ++ back) place = front ++ candidate back place := by
  cases place with
  | zero => rfl
  | succ counter => exact String.append_assoc

/-- A text that ends in no digit is a candidate of itself only. -/
theorem eq_of_candidate_eq
    {name text : String} (ends : ∀ c ∈ text.toList.getLast?, c ∉ asciiDigits)
    {place : Nat} (same : candidate name place = text) : name = text := by
  cases place with
  | zero => exact same
  | succ counter =>
      have filled : (toString (counter + 1)).toList ≠ [] := by
        rw [Nat.toString_eq_ofList_toDigits, String.toList_ofList]
        exact Nat.toDigits_ne_nil
      have digit :
          (toString (counter + 1)).toList.getLast filled ∈ asciiDigits :=
        mem_asciiDigits_of_mem_toString (List.getLast_mem filled)
      have last :
          text.toList.getLast? =
            some ((toString (counter + 1)).toList.getLast filled) := by
        rw [← same, candidate, numbered_toList,
          List.getLast?_append_of_ne_nil _ filled,
          List.getLast?_eq_some_getLast filled]
      exact absurd digit (ends _ last)

end Ends

section Choice

variable {name : String} {used : List String}

/-- The first free candidate is chosen. -/
private theorem uniqueName_eq_candidate
    {place : Nat} (free : candidate name place ∉ used)
    (taken : ∀ earlier < place, candidate name earlier ∈ used) :
    uniqueName name used = candidate name place := by
  apply (isFirstFree_uniqueName name used).unique
  cases place with
  | zero => exact .kept free
  | succ counter =>
      refine .counted (taken 0 (Nat.succ_pos counter)) (Nat.succ_pos counter)
        free ?_
      intro smaller positive less
      rw [← candidate_of_pos positive]
      exact taken smaller less

theorem exists_uniqueName_eq_candidate (name : String) (used : List String) :
    ∃ place, uniqueName name used = candidate name place := by
  have first := isFirstFree_uniqueName name used
  generalize uniqueName name used = result at first
  cases first with
  | kept _ => exact ⟨0, rfl⟩
  | @counted counter _ positive _ _ =>
      exact ⟨counter, (candidate_of_pos positive).symm⟩

end Choice

section Turns

variable {names used : List String}

theorem exists_candidate_of_mem_assign
    {result : String} (member : result ∈ assign uniqueName used names) :
    ∃ name ∈ names, ∃ place, result = candidate name place := by
  obtain ⟨name, present, inUse, rfl⟩ := exists_choice_of_mem_assign member
  exact ⟨name, present, exists_uniqueName_eq_candidate name inUse⟩

/-- Each name is given away as it is, if it was not in use before: the first who
asks for it gets it. -/
theorem mem_assign_or_mem_of_mem
    {name : String} (present : name ∈ names) :
    name ∈ assign uniqueName used names ∨ name ∈ used := by
  induction names generalizing used with
  | nil => cases present
  | cons head rest inductionHypothesis =>
      rw [assign]
      by_cases inUse : name ∈ used
      · exact Or.inr inUse
      · left
        rcases List.mem_cons.1 present with rfl | later
        · rw [(isFirstFree_uniqueName name used).unique (.kept inUse)]
          exact List.mem_cons_self
        · rcases inductionHypothesis later with chosen | nowInUse
          · exact List.mem_cons_of_mem _ chosen
          · rcases List.mem_cons.1 nowInUse with rfl | before
            · exact List.mem_cons_self
            · exact absurd before inUse

/-- If no other name has a candidate in common with a name, as many of its
candidates are given away as there are requests for it. -/
theorem candidate_mem_assign_iff
    {name : String}
    (own : ∀ other ∈ names, ∀ left right,
      candidate other left = candidate name right → other = name)
    {start : Nat}
    (inUse : ∀ place, candidate name place ∈ used ↔ place < start)
    (place : Nat) :
    candidate name place ∈ assign uniqueName used names ↔
      start ≤ place ∧ place < start + names.count name := by
  induction names generalizing used start with
  | nil =>
      simp only [assign, List.not_mem_nil, List.count_nil, Nat.add_zero,
        false_iff]
      omega
  | cons head rest inductionHypothesis =>
      have ownRest :
          ∀ other ∈ rest, ∀ left right,
            candidate other left = candidate name right → other = name :=
        fun other member => own other (List.mem_cons_of_mem head member)
      rw [assign, List.mem_cons]
      by_cases same : head = name
      · subst same
        have chosen : uniqueName head used = candidate head start :=
          uniqueName_eq_candidate
            (fun member => Nat.lt_irrefl start ((inUse start).1 member))
            (fun earlier less => (inUse earlier).2 less)
        have nowInUse :
            ∀ other,
              candidate head other ∈ candidate head start :: used ↔
                other < start + 1 := by
          intro other
          rw [List.mem_cons, inUse, (candidate_injective head).eq_iff]
          omega
        rw [chosen, inductionHypothesis ownRest nowInUse,
          (candidate_injective head).eq_iff, List.count_cons_self]
        omega
      · obtain ⟨taken, chosen⟩ := exists_uniqueName_eq_candidate head used
        have apart : ∀ other, candidate name other ≠ candidate head taken :=
          fun other equal =>
            same (own head List.mem_cons_self taken other equal.symm)
        have nowInUse :
            ∀ other,
              candidate name other ∈ candidate head taken :: used ↔
                other < start := by
          intro other
          rw [List.mem_cons, inUse, or_iff_right (apart other)]
        rw [chosen, inductionHypothesis ownRest nowInUse,
          or_iff_right (apart place), List.count_cons_of_ne same]

/-- A text that is nothing with a counter behind it is given away exactly if
someone asks for it. -/
theorem mem_assign_iff_mem
    {name : String}
    (uncounted : ∀ other place, candidate other place = name → other = name) :
    name ∈ assign uniqueName [] names ↔ name ∈ names := by
  constructor
  · intro member
    obtain ⟨other, present, place, equal⟩ :=
      exists_candidate_of_mem_assign member
    rwa [uncounted other place equal.symm] at present
  · intro present
    exact (mem_assign_or_mem_of_mem present).resolve_right List.not_mem_nil

end Turns

/-- A text with no digit of ASCII in it. -/
abbrev DigitFree (word : String) : Prop :=
  Throughout (fun c => c ∉ asciiDigits) word.toList

/-- The characters in front of the first digit. -/
def stem (text : String) : List Char :=
  text.toList.takeWhile fun c => !asciiDigits.contains c

theorem stem_append
    {word suffix : String} (free : DigitFree word)
    (digits : ∀ c ∈ suffix.toList, c ∈ asciiDigits) :
    stem (word ++ suffix) = word.toList := by
  have passed :
      ∀ c ∈ word.toList, (!asciiDigits.contains c) = true := by
    intro c member
    simpa using free c member
  have stopped :
      suffix.toList.takeWhile (fun c => !asciiDigits.contains c) = [] := by
    cases spelling : suffix.toList with
    | nil => rfl
    | cons c rest =>
        rw [spelling] at digits
        apply List.takeWhile_cons_of_neg
        simpa using digits c List.mem_cons_self
  rw [stem, String.toList_append, List.takeWhile_append_of_pos passed, stopped,
    List.append_nil]

private theorem stem_candidate
    {word : String} (free : DigitFree word) (place : Nat) :
    stem (candidate word place) = word.toList := by
  obtain ⟨suffix, equal, digits⟩ := exists_suffix_candidate word place
  rw [equal]
  exact stem_append free digits

/-- Words without digits have no candidates in common. -/
theorem eq_of_candidate_eq_candidate
    {left right : String} (leftFree : DigitFree left)
    (rightFree : DigitFree right) {leftPlace rightPlace : Nat}
    (same : candidate left leftPlace = candidate right rightPlace) :
    left = right := by
  have stems := congrArg stem same
  rw [stem_candidate leftFree, stem_candidate rightFree] at stems
  exact String.toList_inj.1 stems

/-- The first digits of a positive number are those of a smaller one. -/
theorem exists_number_of_digits_append
    {number : Nat} (positive : 0 < number) {front back : List Char}
    (digits : Nat.toDigits 10 number = front ++ back) (filled : front ≠ []) :
    ∃ smaller, 0 < smaller ∧ smaller ≤ number ∧
      front = Nat.toDigits 10 smaller := by
  induction back using List.reverseRecOn generalizing number with
  | nil =>
      rw [List.append_nil] at digits
      exact ⟨number, positive, Nat.le_refl _, digits.symm⟩
  | append_singleton rest last inductionHypothesis =>
      rw [← List.append_assoc] at digits
      by_cases small : number < 10
      · rw [Nat.toDigits_of_lt_base small] at digits
        have lengths := congrArg List.length digits
        rw [List.length_append, List.length_append, List.length_singleton,
          List.length_singleton] at lengths
        have some : 0 < front.length := List.length_pos_of_ne_nil filled
        omega
      · rw [Nat.toDigits_of_base_le (by decide) (by omega)] at digits
        have shorter := (List.append_inj' digits rfl).1
        obtain ⟨smaller, smallerPositive, bound, equal⟩ :=
          inductionHypothesis (by omega) shorter
        exact ⟨smaller, smallerPositive, by omega, equal⟩

/-- Whoever has a word with a counter among his candidates is that word with the
same or a smaller counter, or the word itself. -/
theorem eq_or_exists_counter_of_candidate_eq_numbered
    {word name : String} (free : DigitFree word) {place counter : Nat}
    (positive : 0 < counter)
    (same : candidate name place = numbered word counter) :
    name = word ∨
      ∃ smaller, 0 < smaller ∧ smaller ≤ counter ∧
        name = numbered word smaller := by
  cases place with
  | zero => exact Or.inr ⟨counter, positive, Nat.le_refl _, same⟩
  | succ other =>
      have lists := congrArg String.toList same
      rw [candidate, numbered_toList, numbered_toList] at lists
      rcases List.append_eq_append_iff.1 lists with
        ⟨behind, wordParts, _⟩ | ⟨behind, nameParts, digits⟩
      · have nameFree : DigitFree name := by
          intro c member
          apply free
          rw [wordParts]
          exact List.mem_append_left _ member
        rw [← candidate_of_pos positive] at same
        exact Or.inl (eq_of_candidate_eq_candidate nameFree free same)
      · by_cases empty : behind = []
        · left
          rw [empty, List.append_nil] at nameParts
          exact String.toList_inj.1 nameParts
        · right
          rw [Nat.toString_eq_ofList_toDigits, String.toList_ofList] at digits
          obtain ⟨smaller, smallerPositive, bound, equal⟩ :=
            exists_number_of_digits_append positive digits empty
          refine ⟨smaller, smallerPositive, bound, String.toList_inj.1 ?_⟩
          rw [nameParts, equal, numbered_toList,
            Nat.toString_eq_ofList_toDigits, String.toList_ofList]

end OpenApiSharp.Naming
