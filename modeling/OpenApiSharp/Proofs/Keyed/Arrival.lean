import Mathlib.Data.List.Perm.Subperm
import OpenApiSharp.Proofs.Keyed

namespace OpenApiSharp.Keyed

variable {κ α : Type}

section Matches

variable {matchesKey : κ → Bool}

@[simp]
theorem find?_append (front back : List (κ × α)) :
    find? matchesKey (front ++ back) =
      (find? matchesKey front).or (find? matchesKey back) := by
  induction front with
  | nil => rfl
  | cons entry rest inductionHypothesis =>
      obtain ⟨key, value⟩ := entry
      rw [List.cons_append, find?, find?, inductionHypothesis]
      split <;> rfl

@[simp]
theorem find?_eq_none_iff {entries : List (κ × α)} :
    find? matchesKey entries = none ↔
      ∀ entry ∈ entries, matchesKey entry.1 = false := by
  induction entries with
  | nil => simp [find?]
  | cons entry rest inductionHypothesis =>
      obtain ⟨key, value⟩ := entry
      by_cases here : matchesKey key = true
      · simp [find?, here]
      · simp [find?, here, inductionHypothesis]

/-- What is found is the value of the first entry that satisfies the test. -/
theorem exists_first_of_find?_eq_some
    {entries : List (κ × α)} {value : α}
    (found : find? matchesKey entries = some value) :
    ∃ front key back, entries = front ++ (key, value) :: back ∧
      matchesKey key = true ∧
        ∀ earlier ∈ front, matchesKey earlier.1 = false := by
  induction entries with
  | nil => cases found
  | cons entry rest inductionHypothesis =>
      obtain ⟨key, present⟩ := entry
      by_cases here : matchesKey key = true
      · rw [find?, if_pos here, Option.some.injEq] at found
        exact ⟨[], key, rest, by rw [found]; rfl, here, by simp⟩
      · rw [find?, if_neg here] at found
        obtain ⟨front, later, back, rfl, matched, first⟩ :=
          inductionHypothesis found
        refine ⟨(key, present) :: front, later, back, rfl, matched, ?_⟩
        exact List.forall_mem_cons.2 ⟨eq_false_of_ne_true here, first⟩

end Matches

section Kept

variable [BEq κ] [LawfulBEq κ]

/-- A table that has as many entries as were written to it lost none of them to
a later entry under the same key. -/
theorem length_ofList_eq_iff {pairs : List (κ × α)} :
    (ofList (· == ·) pairs).length = pairs.length ↔
      (pairs.map Prod.fst).Nodup := by
  constructor
  · intro length
    have written :
        (ofList (· == ·) pairs).map Prod.fst ⊆ pairs.map Prod.fst := by
      rw [keys_ofList]
      exact fun _ => List.mem_eraseDups.1
    have long :
        (pairs.map Prod.fst).length ≤
          ((ofList (· == ·) pairs).map Prod.fst).length := by
      rw [List.length_map, List.length_map]
      exact Nat.le_of_eq length.symm
    have all :=
      ((nodup_keys_ofList pairs).subperm written).perm_of_length_le long
    exact all.nodup_iff.1 (nodup_keys_ofList pairs)
  · intro once
    rw [ofList_of_nodup once]

end Kept

section Groups

variable [BEq κ]

/-- The groups when one more element has arrived: it is written behind the other
elements of its key. -/
def arrive (keyOf : α → κ) (groups : List (κ × List α)) (element : α) :
    List (κ × List α) :=
  let others := (find? (· == keyOf element) groups).getD []
  put (· == ·) (keyOf element) (others ++ [element]) groups

variable [LawfulBEq κ]

/-- To write under one of several distinct keys changes its value only. -/
private theorem put_map_of_mem
    (valueOf : κ → α) {keys : List κ} {key : κ} (value : α)
    (once : keys.Nodup) (member : key ∈ keys) :
    put (· == ·) key value (keys.map fun other => (other, valueOf other)) =
      keys.map fun other =>
        (other, if other == key then value else valueOf other) := by
  induction keys with
  | nil => cases member
  | cons first rest inductionHypothesis =>
      obtain ⟨fresh, restOnce⟩ := List.nodup_cons.1 once
      rw [List.map_cons, List.map_cons, put]
      by_cases here : (first == key) = true
      · rw [if_pos here, if_pos here]
        congr 1
        apply List.map_congr_left
        intro other later
        rw [if_neg]
        rintro same
        rw [eq_of_beq same, ← eq_of_beq here] at later
        exact fresh later
      · have later : key ∈ rest :=
          (List.mem_cons.1 member).resolve_left fun same =>
            here (beq_iff_eq.2 same.symm)
        rw [if_neg here, if_neg here, inductionHypothesis restOnce later]

omit [LawfulBEq κ] in
@[simp]
private theorem keys_group (keyOf : α → κ) (elements : List α) :
    (group keyOf elements).map Prod.fst = (elements.map keyOf).eraseDups := by
  rw [group, List.map_map]
  exact List.map_id _

private theorem group_concat_of_mem
    {keyOf : α → κ} {elements : List α} {element : α}
    (present : keyOf element ∈ elements.map keyOf) :
    group keyOf (elements ++ [element]) =
      arrive keyOf (group keyOf elements) element := by
  let membersOf := fun key =>
    elements.filter fun member => keyOf member == key
  have keys :
      ((elements ++ [element]).map keyOf).eraseDups =
        (elements.map keyOf).eraseDups := by
    rw [List.map_append, List.eraseDups_append]
    simp [List.removeAll, List.mem_map.1 present]
  have once : (elements.map keyOf).eraseDups.Nodup := by
    rw [← keys_group]
    exact nodup_keys_group keyOf elements
  have found :
      find? (· == keyOf element) (group keyOf elements) =
        some (membersOf (keyOf element)) :=
    find?_eq_some_of_mem (nodup_keys_group keyOf elements)
      (mem_group_iff.2 ⟨present, rfl⟩)
  have written :=
    put_map_of_mem membersOf (membersOf (keyOf element) ++ [element]) once
      (List.mem_eraseDups.2 present)
  rw [arrive, found, Option.getD_some, group, keys]
  refine Eq.trans ?_ written.symm
  apply List.map_congr_left
  intro key _
  by_cases same : key = keyOf element
  · subst same
    simp [membersOf]
  · simp [membersOf, same, Ne.symm same]

private theorem group_concat_of_not_mem
    {keyOf : α → κ} {elements : List α} {element : α}
    (absent : keyOf element ∉ elements.map keyOf) :
    group keyOf (elements ++ [element]) =
      arrive keyOf (group keyOf elements) element := by
  have fresh : keyOf element ∉ (group keyOf elements).map Prod.fst := by
    simpa using absent
  have unfound :
      find? (· == keyOf element) (group keyOf elements) = none := by
    rw [← Option.isNone_iff_eq_none, ← Option.isSome_eq_false_iff,
      ← Bool.not_eq_true, find?_isSome_iff]
    exact fresh
  have keys :
      ((elements ++ [element]).map keyOf).eraseDups =
        (elements.map keyOf).eraseDups ++ [keyOf element] := by
    rw [List.map_append, List.eraseDups_append]
    simp [List.removeAll, absent, List.eraseDups_cons]
  have nobody :
      (elements.filter fun member => keyOf member == keyOf element) = [] := by
    rw [List.filter_eq_nil_iff]
    intro member memberOf same
    exact absent (eq_of_beq same ▸ List.mem_map_of_mem memberOf)
  rw [arrive, unfound, Option.getD_none, put_of_not_mem fresh, group, keys,
    List.map_append, group]
  congr 1
  · apply List.map_congr_left
    intro key member
    have other : keyOf element ≠ key := by
      rintro rfl
      exact absent (List.mem_eraseDups.1 member)
    simp [other]
  · simp [nobody]

/-- Groups arise from one arrival after the other. -/
theorem group_eq_foldl (keyOf : α → κ) (elements : List α) :
    group keyOf elements = elements.foldl (arrive keyOf) [] := by
  induction elements using List.reverseRecOn with
  | nil => rfl
  | append_singleton elements element inductionHypothesis =>
      have arrived :
          group keyOf (elements ++ [element]) =
            arrive keyOf (group keyOf elements) element := by
        by_cases present : keyOf element ∈ elements.map keyOf
        · exact group_concat_of_mem present
        · exact group_concat_of_not_mem present
      rw [arrived, inductionHypothesis, List.foldl_append]
      rfl

end Groups

end OpenApiSharp.Keyed
