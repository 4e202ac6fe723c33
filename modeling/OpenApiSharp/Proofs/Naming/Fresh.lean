import Mathlib.Data.Finset.Card
import Mathlib.Data.List.Forall2
import Mathlib.Data.List.Nodup
import Mathlib.Data.Nat.Notation
import OpenApiSharp.Naming.Identifier
import OpenApiSharp.Proofs.Text.LowerCase

/-!
# Fresh names

The search for a free name goes through the candidates of the name in turn: the
name itself, then the name with each counter.  It cannot fail: the candidates are
all different, in lower case as well, so no more of them are taken than there are
names in use.  Names that are each fresh when they are chosen are distinct.
-/

namespace OpenApiSharp.Naming

open Text

section Choices

variable {α β : Type}

@[simp]
theorem assign_length
    (choose : α → List String → String) (used : List String)
    (elements : List α) :
    (assign choose used elements).length = elements.length := by
  induction elements generalizing used with
  | nil => rfl
  | cons element rest inductionHypothesis =>
      simp [assign, inductionHypothesis]

/-- Names depend on what they are chosen for only through the choice. -/
theorem assign_map
    (choose : β → List String → String) (f : α → β)
    (used : List String) (elements : List α) :
    assign choose used (elements.map f) =
      assign (fun element => choose (f element)) used elements := by
  induction elements generalizing used with
  | nil => rfl
  | cons element rest inductionHypothesis =>
      simp [assign, inductionHypothesis]

/-- The names of later elements are chosen in view of those of earlier ones. -/
theorem assign_append
    (choose : α → List String → String) (used : List String)
    (front back : List α) :
    assign choose used (front ++ back) =
      assign choose used front ++
        assign choose ((assign choose used front).reverse ++ used) back := by
  induction front generalizing used with
  | nil => rfl
  | cons element rest inductionHypothesis =>
      simp [assign, inductionHypothesis]

/-- What holds of every choice holds of each name and its element. -/
theorem assign_forall₂
    {P : α → String → Prop} {choose : α → List String → String}
    (each : ∀ element used, P element (choose element used))
    (used : List String) (elements : List α) :
    List.Forall₂ P elements (assign choose used elements) := by
  induction elements generalizing used with
  | nil => exact .nil
  | cons element rest inductionHypothesis =>
      exact .cons (each element used) (inductionHypothesis _)

/-- Every name was chosen for one of the elements. -/
theorem exists_choice_of_mem_assign
    {choose : α → List String → String} {used : List String}
    {elements : List α} {name : String}
    (member : name ∈ assign choose used elements) :
    ∃ element ∈ elements, ∃ inUse, name = choose element inUse := by
  induction elements generalizing used with
  | nil =>
      cases member
  | cons element rest inductionHypothesis =>
      rw [assign] at member
      rcases List.mem_cons.1 member with equal | later
      · exact ⟨element, List.mem_cons_self, used, equal⟩
      · obtain ⟨other, present, chosen⟩ := inductionHypothesis later
        exact ⟨other, List.mem_cons_of_mem _ present, chosen⟩

/-- Where the elements have names of their own that are distinct, and distinct
from those in use, each gets its own. -/
theorem assign_eq_map
    {choose : α → List String → String} {own : α → String}
    {key : String → String}
    (kept : ∀ element used, key (own element) ∉ used.map key →
      choose element used = own element)
    {used : List String} {elements : List α}
    (distinct :
      (used.map key ++ elements.map fun element => key (own element)).Nodup) :
    assign choose used elements = elements.map own := by
  induction elements generalizing used with
  | nil => rfl
  | cons element rest inductionHypothesis =>
      rw [List.map_cons] at distinct
      have free : key (own element) ∉ used.map key := by
        intro present
        exact (List.nodup_append.1 distinct).2.2 _ present _
          List.mem_cons_self rfl
      have restDistinct :
          ((own element :: used).map key ++
            rest.map fun other => key (own other)).Nodup :=
        List.perm_middle.nodup_iff.1 distinct
      rw [assign, kept element used free, List.map_cons,
        inductionHypothesis restDistinct]

/-- The first free name is the name itself or the name with a positive
counter. -/
theorem firstFree_eq
    (isTaken : String → Bool) (inUse : Nat) (name : String) :
    firstFree isTaken inUse name = name ∨
      ∃ counter, 0 < counter ∧
        firstFree isTaken inUse name = numbered name counter := by
  by_cases taken : isTaken name = true
  · rw [firstFree, if_pos taken]
    cases found :
        ((List.range' 1 inUse).map (numbered name)).find?
          fun candidate => !isTaken candidate with
    | none =>
        exact Or.inl rfl
    | some candidate =>
        obtain ⟨counter, tried, equal⟩ :=
          List.mem_map.1 (List.mem_of_find?_eq_some found)
        exact Or.inr ⟨counter, (List.mem_range'_1.1 tried).1, equal.symm⟩
  · exact Or.inl (by rw [firstFree, if_neg taken])

end Choices

@[simp]
theorem numbered_toList (name : String) (counter : Nat) :
    (numbered name counter).toList =
      name.toList ++ (toString counter).toList :=
  String.toList_append

theorem numbered_injective (name : String) :
    Function.Injective (numbered name) := by
  intro counter other same
  have lists := congrArg String.toList same
  rw [numbered_toList, numbered_toList] at lists
  have digits :
      Nat.toDigits 10 counter = Nat.toDigits 10 other := by
    have counters := List.append_cancel_left lists
    simpa only [Nat.toString_eq_ofList_toDigits, String.toList_ofList]
      using counters
  have values := congrArg (fun digits => Nat.ofDigitChars 10 digits 0) digits
  simpa using values

theorem numbered_ne_self (name : String) (counter : Nat) :
    numbered name counter ≠ name := by
  intro same
  have lists := congrArg String.toList same
  rw [numbered_toList, List.append_right_eq_self,
    Nat.toString_eq_ofList_toDigits, String.toList_ofList] at lists
  exact Nat.toDigits_ne_nil lists

@[simp]
private theorem lower_numbered (name : String) (counter : Nat) :
    lower (numbered name counter) = numbered (lower name) counter :=
  lower_append_digits (fun _ => mem_asciiDigits_of_mem_toString) name

/-- The names that are tried for a name: at first the name itself, then the name
with counters. -/
def candidate (name : String) : Nat → String
  | 0 => name
  | counter + 1 => numbered name (counter + 1)

theorem candidate_of_pos {name : String} {counter : Nat}
    (positive : 0 < counter) :
    candidate name counter = numbered name counter := by
  cases counter with
  | zero => cases positive
  | succ smaller => rfl

theorem candidate_injective (name : String) :
    Function.Injective (candidate name) := by
  intro place other same
  cases place with
  | zero =>
      cases other with
      | zero => rfl
      | succ counter =>
          exact absurd same.symm (numbered_ne_self name (counter + 1))
  | succ counter =>
      cases other with
      | zero => exact absurd same (numbered_ne_self name (counter + 1))
      | succ otherCounter => exact numbered_injective name same

@[simp]
private theorem lower_candidate (name : String) (place : Nat) :
    lower (candidate name place) = candidate (lower name) place := by
  cases place with
  | zero => rfl
  | succ counter => exact lower_numbered name (counter + 1)

/-- Different candidates stay different in lower case. -/
theorem lower_candidate_injective (name : String) :
    Function.Injective fun place => lower (candidate name place) := by
  intro place other same
  simp only [lower_candidate] at same
  exact candidate_injective (lower name) same

/-- The name itself if its key is free, else the name with the least positive
counter whose key is free. -/
inductive IsFirstFree
    (key : String → String) (used : List String) (name : String) :
    String → Prop
  | kept (free : key name ∉ used) : IsFirstFree key used name name
  | counted {counter : Nat} (taken : key name ∈ used)
      (positive : 0 < counter)
      (free : key (numbered name counter) ∉ used)
      (least : ∀ smaller, 0 < smaller → smaller < counter →
        key (numbered name smaller) ∈ used) :
      IsFirstFree key used name (numbered name counter)

section First

variable {key : String → String} {used : List String} {name result : String}
  (first : IsFirstFree key used name result)

include first

theorem IsFirstFree.free : key result ∉ used := by
  cases first with
  | kept free => exact free
  | counted _ _ free _ => exact free

/-- A name is kept exactly if it is free. -/
theorem IsFirstFree.eq_self_iff : result = name ↔ key name ∉ used := by
  cases first with
  | kept free => exact iff_of_true rfl free
  | @counted counter taken _ _ _ =>
      exact
        iff_of_false (numbered_ne_self name counter) (not_not_intro taken)

/-- Only one name is the first free one. -/
theorem IsFirstFree.unique
    {other : String} (second : IsFirstFree key used name other) :
    result = other := by
  cases first with
  | kept free =>
      cases second with
      | kept _ => rfl
      | counted taken _ _ _ => exact absurd taken free
  | @counted counter taken positive free least =>
      cases second with
      | kept otherFree => exact absurd taken otherFree
      | @counted other _ otherPositive otherFree otherLeast =>
          rcases Nat.lt_trichotomy counter other with less | same | greater
          · exact absurd (otherLeast counter positive less) free
          · rw [same]
          · exact absurd (least other otherPositive greater) otherFree

end First

section Search

variable {key : String → String} {name : String}
  (apart : Function.Injective fun place => key (candidate name place))
  {used : List String}

include apart

/-- No more candidates are taken than there are names in use. -/
theorem le_card_of_taken
    {count : Nat} (taken : ∀ place < count, key (candidate name place) ∈ used) :
    count ≤ used.toFinset.card := by
  rw [← Finset.card_range count]
  refine Finset.card_le_card_of_injOn _ ?_ apart.injOn
  intro place member
  exact List.mem_toFinset.2 (taken place (Finset.mem_range.1 member))

/-- Not all of the counters that are tried can be taken: with the name itself
there would be more names in use than there are. -/
private theorem exists_free_counter (taken : key name ∈ used) :
    ∃ counter ∈ List.range' 1 used.length,
      key (numbered name counter) ∉ used := by
  by_contra allTaken
  push Not at allTaken
  have candidates :
      ∀ place < used.length + 1, key (candidate name place) ∈ used := by
    intro place less
    cases place with
    | zero => exact taken
    | succ counter =>
        exact allTaken _ (List.mem_range'_1.2 (by omega))
  have tooMany := le_card_of_taken apart candidates
  have atMost := List.toFinset_card_le used
  omega

variable (used)

/-- The search finds the first free name. -/
private theorem isFirstFree_firstFree :
    IsFirstFree key used name
      (firstFree (fun tested => used.contains (key tested))
        used.length name) := by
  by_cases taken : key name ∈ used
  · rw [firstFree, if_pos (List.contains_iff_mem.2 taken)]
    cases search :
        ((List.range' 1 used.length).map (numbered name)).find?
          fun tested => !used.contains (key tested) with
    | none =>
        obtain ⟨counter, tried, free⟩ := exists_free_counter apart taken
        have refused :=
          List.find?_eq_none.1 search _ (List.mem_map_of_mem tried)
        simp [free] at refused
    | some found =>
        obtain ⟨accepted, place, within, equal, refused⟩ :=
          List.find?_eq_some_iff_getElem.1 search
        simp only [List.getElem_map, List.getElem_range', Nat.one_mul]
          at equal refused
        have free : key found ∉ used := by
          simpa using accepted
        rw [← equal] at free ⊢
        refine .counted taken (by omega) free ?_
        intro smaller positive less
        have before := refused (smaller - 1) (by omega)
        rw [Nat.add_sub_cancel' positive] at before
        simpa using before
  · rw [firstFree, if_neg (fun present =>
      taken (List.contains_iff_mem.1 present))]
    exact .kept taken

end Search

section UniqueNames

variable (name : String) (used : List String)

theorem isFirstFree_uniqueNameIgnoringCase :
    IsFirstFree lower used name (uniqueNameIgnoringCase name used) :=
  isFirstFree_firstFree (lower_candidate_injective name) used

theorem lower_uniqueNameIgnoringCase_not_mem :
    lower (uniqueNameIgnoringCase name used) ∉ used :=
  (isFirstFree_uniqueNameIgnoringCase name used).free

theorem uniqueNameIgnoringCase_eq_self_iff :
    uniqueNameIgnoringCase name used = name ↔ lower name ∉ used :=
  (isFirstFree_uniqueNameIgnoringCase name used).eq_self_iff

theorem isFirstFree_uniqueName :
    IsFirstFree id used name (uniqueName name used) :=
  have apart : Function.Injective fun place => id (candidate name place) :=
    candidate_injective name
  isFirstFree_firstFree apart used

theorem uniqueName_not_mem : uniqueName name used ∉ used :=
  (isFirstFree_uniqueName name used).free

end UniqueNames

section Members

variable (name : String) (used : List String)

/-- What the counting passes over is taken, and it ends at a free name unless it
runs out of tries. -/
private theorem memberCounter_passes (tries counter : Nat) :
    let found := memberCounter name used tries counter
    counter ≤ found ∧
      (∀ smaller, counter ≤ smaller → smaller < found →
        numbered name smaller ∈ used) ∧
      (numbered name found ∈ used → found = counter + tries) := by
  induction tries generalizing counter with
  | zero =>
      rw [memberCounter]
      exact ⟨Nat.le_refl _, fun _ _ _ => by omega, fun _ => rfl⟩
  | succ fewer inductionHypothesis =>
      rw [memberCounter]
      by_cases taken : numbered name counter ∈ used
      · rw [if_pos (List.contains_iff_mem.2 taken)]
        obtain ⟨onward, passed, ended⟩ := inductionHypothesis (counter + 1)
        refine ⟨by omega, ?_, fun stuck => by have := ended stuck; omega⟩
        intro smaller least less
        rcases Nat.eq_or_lt_of_le least with rfl | later
        · exact taken
        · exact passed smaller later less
      · rw [if_neg fun present => taken (List.contains_iff_mem.1 present)]
        exact
          ⟨Nat.le_refl _, fun _ _ _ => by omega,
            fun present => absurd present taken⟩

variable {name : String} {used : List String}

private theorem isFirstFree_memberCounter (taken : name ∈ used) :
    IsFirstFree id used name
      (numbered name (memberCounter name used used.length 1)) := by
  obtain ⟨positive, passed, ended⟩ :=
    memberCounter_passes name used used.length 1
  refine .counted taken positive ?_ passed
  intro stuck
  have candidates :
      ∀ place < used.length + 2, id (candidate name place) ∈ used := by
    intro place less
    cases place with
    | zero => exact taken
    | succ counter =>
        rcases Nat.lt_or_ge (counter + 1) (1 + used.length) with before | last
        · exact passed _ (by omega) (by rw [ended stuck]; exact before)
        · have same : counter + 1 = 1 + used.length := by omega
          rw [ended stuck, ← same] at stuck
          exact stuck
  have tooMany := le_card_of_taken (candidate_injective name) candidates
  have atMost := List.toFinset_card_le used
  omega

end Members

/-- Members are counted by a loop of their own, which comes to the same names. -/
theorem memberIdentifier_eq_uniqueName
    (raw owner : String) (used : List String) :
    memberIdentifier raw owner used =
      uniqueName (escapeIdentifier (memberNameWithin raw owner)) used := by
  refine IsFirstFree.unique ?_ (isFirstFree_uniqueName _ used)
  rw [memberIdentifier]
  generalize escapeIdentifier (memberNameWithin raw owner) = name
  by_cases taken : name ∈ used
  · rw [if_pos (List.contains_iff_mem.2 taken)]
    exact isFirstFree_memberCounter taken
  · rw [if_neg fun present => taken (List.contains_iff_mem.1 present)]
    exact .kept taken

theorem memberIdentifier_not_mem (raw owner : String) (used : List String) :
    memberIdentifier raw owner used ∉ used := by
  rw [memberIdentifier_eq_uniqueName]
  exact uniqueName_not_mem _ used

/-- Where every choice is fresh, the names are distinct, and none of them was
in use before. -/
theorem assign_fresh
    {α : Type} {choose : α → List String → String} {key : String → String}
    (fresh : ∀ element used, key (choose element used) ∉ used.map key)
    (used : List String) (elements : List α) :
    ((assign choose used elements).map key).Nodup ∧
      ∀ name ∈ assign choose used elements, key name ∉ used.map key := by
  induction elements generalizing used with
  | nil => simp [assign]
  | cons element rest inductionHypothesis =>
      obtain ⟨distinct, unused⟩ :=
        inductionHypothesis (choose element used :: used)
      simp only [List.map_cons, List.mem_cons, not_or] at unused
      rw [assign]
      constructor
      · rw [List.map_cons, List.nodup_cons]
        refine ⟨?_, distinct⟩
        intro again
        obtain ⟨name, later, same⟩ := List.mem_map.1 again
        exact (unused name later).1 same
      · intro name member
        rcases List.mem_cons.1 member with rfl | later
        · exact fresh element used
        · exact (unused name later).2

theorem nodup_assign
    {α : Type} {choose : α → List String → String}
    (fresh : ∀ element used, choose element used ∉ used)
    (used : List String) (elements : List α) :
    (assign choose used elements).Nodup := by
  have unused : ∀ element used, id (choose element used) ∉ used.map id := by
    intro element used
    rw [List.map_id]
    exact fresh element used
  have distinct := (assign_fresh unused used elements).1
  rwa [List.map_id] at distinct

end OpenApiSharp.Naming
