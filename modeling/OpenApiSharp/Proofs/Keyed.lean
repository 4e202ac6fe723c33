import Mathlib.Data.List.Induction
import OpenApiSharp.Keyed
import OpenApiSharp.Proofs.Related

/-!
# Laws of tables and groups

What is found in a table was written to it, and under a key written once there
is the value written.  Grouping loses no element and invents none.  Both keep
relations between elements that do not touch the keys.
-/

namespace OpenApiSharp.Keyed

variable {κ α β : Type}

theorem find?_map
    (f : κ → α → β) (matchesKey : κ → Bool) (entries : List (κ × α))
    {wanted : κ} (only : ∀ key, matchesKey key = true → key = wanted) :
    find? matchesKey (entries.map fun entry => (entry.1, f entry.1 entry.2)) =
      (find? matchesKey entries).map (f wanted) := by
  induction entries with
  | nil => rfl
  | cons entry rest inductionHypothesis =>
      obtain ⟨key, value⟩ := entry
      by_cases found : matchesKey key = true
      · have equal : key = wanted := only key found
        subst equal
        simp [find?, found]
      · simp [find?, found, inductionHypothesis]

/-- A look-up among renamed keys finds the image of what it finds among the old
ones, where the tests agree. -/
theorem find?_map_keys
    {κ' : Type} {matchesNew : κ' → Bool} {matchesOld : κ → Bool}
    (rename : κ → κ') (f : α → β) {entries : List (κ × α)}
    (agree : ∀ entry ∈ entries,
      matchesNew (rename entry.1) = matchesOld entry.1) :
    find? matchesNew
        (entries.map fun entry => (rename entry.1, f entry.2)) =
      (find? matchesOld entries).map f := by
  induction entries with
  | nil => rfl
  | cons entry rest inductionHypothesis =>
      have tests := agree entry List.mem_cons_self
      have later := inductionHypothesis fun other member =>
        agree other (List.mem_cons_of_mem _ member)
      rw [List.map_cons, find?, find?, tests, later]
      split <;> rfl

theorem mem_of_find?_eq_some
    {matchesKey : κ → Bool} {entries : List (κ × α)} {value : α}
    (found : find? matchesKey entries = some value) :
    ∃ key, matchesKey key = true ∧ (key, value) ∈ entries := by
  induction entries with
  | nil =>
      cases found
  | cons entry rest inductionHypothesis =>
      obtain ⟨key, present⟩ := entry
      by_cases here : matchesKey key = true
      · simp only [find?, here, if_true, Option.some.injEq] at found
        exact ⟨key, here, by simp [found]⟩
      · simp only [find?, here] at found
        obtain ⟨later, matched, member⟩ := inductionHypothesis found
        exact ⟨later, matched, List.mem_cons_of_mem _ member⟩

theorem mem_put
    {same : κ → κ → Bool} {key : κ} {value : α} {table : List (κ × α)}
    {entry : κ × α} (member : entry ∈ put same key value table) :
    entry.2 = value ∨ entry ∈ table := by
  induction table with
  | nil =>
      simp only [put, List.mem_singleton] at member
      exact Or.inl (by rw [member])
  | cons head rest inductionHypothesis =>
      obtain ⟨present, old⟩ := head
      by_cases found : same present key = true
      · simp only [put, found, if_true, List.mem_cons] at member
        rcases member with equal | later
        · exact Or.inl (by rw [equal])
        · exact Or.inr (List.mem_cons_of_mem _ later)
      · simp only [put, found, Bool.false_eq_true, if_false,
          List.mem_cons] at member
        rcases member with equal | later
        · exact Or.inr (by rw [equal]; exact List.mem_cons_self)
        · rcases inductionHypothesis later with new | old
          · exact Or.inl new
          · exact Or.inr (List.mem_cons_of_mem _ old)

private theorem value_mem_of_mem_foldl_put
    {same : κ → κ → Bool} {pairs table : List (κ × α)} {entry : κ × α}
    (member :
      entry ∈
        pairs.foldl (fun table pair => put same pair.1 pair.2 table) table) :
    entry ∈ table ∨ ∃ key, (key, entry.2) ∈ pairs := by
  induction pairs generalizing table with
  | nil =>
      exact Or.inl member
  | cons pair rest inductionHypothesis =>
      rcases inductionHypothesis member with written | ⟨key, later⟩
      · rcases mem_put written with new | old
        · exact Or.inr ⟨pair.1, by simp [new]⟩
        · exact Or.inl old
      · exact Or.inr ⟨key, List.mem_cons_of_mem _ later⟩

/-- A table holds no value that was not written to it. -/
theorem value_mem_of_mem_ofList
    {same : κ → κ → Bool} {pairs : List (κ × α)} {entry : κ × α}
    (member : entry ∈ ofList same pairs) :
    ∃ key, (key, entry.2) ∈ pairs :=
  (value_mem_of_mem_foldl_put member).resolve_left List.not_mem_nil

section Keys

variable [BEq κ]

@[simp]
theorem find?_isSome_iff
    [LawfulBEq κ] {key : κ} {entries : List (κ × α)} :
    (find? (· == key) entries).isSome = true ↔
      key ∈ entries.map Prod.fst := by
  induction entries with
  | nil =>
      simp [find?]
  | cons entry rest inductionHypothesis =>
      obtain ⟨present, value⟩ := entry
      by_cases found : present = key
      · simp [find?, found]
      · simp [find?, found, Ne.symm found, inductionHypothesis]

/-- Where no key has two values, each value is found under its key. -/
theorem find?_eq_some_of_mem
    [LawfulBEq κ] {key : κ} {value : α} {entries : List (κ × α)}
    (once : (entries.map Prod.fst).Nodup) (member : (key, value) ∈ entries) :
    find? (· == key) entries = some value := by
  induction entries with
  | nil =>
      cases member
  | cons entry rest inductionHypothesis =>
      obtain ⟨present, old⟩ := entry
      rw [List.map_cons, List.nodup_cons] at once
      rcases List.mem_cons.1 member with equal | later
      · obtain ⟨rfl, rfl⟩ := Prod.mk.inj equal
        simp [find?]
      · have other : present ≠ key := by
          rintro rfl
          exact once.1 (List.mem_map.2 ⟨(present, value), later, rfl⟩)
        simp [find?, other, inductionHypothesis once.2 later]

theorem mem_keys_put
    {key other : κ} {value : α} {table : List (κ × α)}
    (member : other ∈ (put (· == ·) key value table).map Prod.fst) :
    other = key ∨ other ∈ table.map Prod.fst := by
  induction table with
  | nil =>
      exact Or.inl (List.mem_singleton.1 member)
  | cons entry rest inductionHypothesis =>
      obtain ⟨present, old⟩ := entry
      rw [put] at member
      split at member
      · exact Or.inr member
      · rcases List.mem_cons.1 member with equal | later
        · rw [equal]
          exact Or.inr List.mem_cons_self
        · rcases inductionHypothesis later with written | kept
          · exact Or.inl written
          · exact Or.inr (List.mem_cons_of_mem _ kept)

variable [LawfulBEq κ]

private theorem nodup_keys_put
    (key : κ) (value : α) {table : List (κ × α)}
    (once : (table.map Prod.fst).Nodup) :
    ((put (· == ·) key value table).map Prod.fst).Nodup := by
  induction table with
  | nil =>
      simp [put]
  | cons entry rest inductionHypothesis =>
      obtain ⟨present, old⟩ := entry
      rw [List.map_cons, List.nodup_cons] at once
      rw [put]
      by_cases found : (present == key) = true
      · rw [if_pos found, List.map_cons, List.nodup_cons]
        exact once
      · rw [if_neg found, List.map_cons, List.nodup_cons]
        refine ⟨?_, inductionHypothesis once.2⟩
        intro again
        rcases mem_keys_put again with equal | later
        · exact found (beq_iff_eq.2 equal)
        · exact once.1 later

/-- No key has two values in a table. -/
theorem nodup_keys_ofList (pairs : List (κ × α)) :
    ((ofList (· == ·) pairs).map Prod.fst).Nodup := by
  have kept :
      ∀ table : List (κ × α), (table.map Prod.fst).Nodup →
        ((pairs.foldl
          (fun table pair => put (· == ·) pair.1 pair.2 table) table).map
            Prod.fst).Nodup := by
    induction pairs with
    | nil =>
        exact fun _ once => once
    | cons pair rest inductionHypothesis =>
        intro table once
        exact inductionHypothesis _ (nodup_keys_put pair.1 pair.2 once)
  exact kept [] List.nodup_nil

/-- A pair under a new key goes to the end. -/
theorem put_of_not_mem
    {key : κ} {table : List (κ × α)} (absent : key ∉ table.map Prod.fst)
    (value : α) :
    put (· == ·) key value table = table ++ [(key, value)] := by
  induction table with
  | nil =>
      rfl
  | cons entry rest inductionHypothesis =>
      obtain ⟨present, old⟩ := entry
      rw [List.map_cons, List.mem_cons, not_or] at absent
      have other : ¬ (present == key) = true :=
        fun same => absent.1 (eq_of_beq same).symm
      rw [put, if_neg other, inductionHypothesis absent.2, List.cons_append]

/-- Pairs under distinct new keys go to the end, in their order. -/
theorem foldl_put_of_nodup
    {pairs table : List (κ × α)} (once : (pairs.map Prod.fst).Nodup)
    (fresh : ∀ key ∈ pairs.map Prod.fst, key ∉ table.map Prod.fst) :
    pairs.foldl (fun table pair => put (· == ·) pair.1 pair.2 table) table =
      table ++ pairs := by
  induction pairs generalizing table with
  | nil =>
      exact (List.append_nil table).symm
  | cons pair rest inductionHypothesis =>
      obtain ⟨key, value⟩ := pair
      rw [List.map_cons, List.nodup_cons] at once
      have absent : key ∉ table.map Prod.fst := fresh key List.mem_cons_self
      have restFresh :
          ∀ other ∈ rest.map Prod.fst,
            other ∉ (table ++ [(key, value)]).map Prod.fst := by
        intro other member
        rw [List.map_append, List.mem_append, not_or]
        refine ⟨fresh other (List.mem_cons_of_mem _ member), ?_⟩
        intro same
        rw [List.mem_singleton.1 same] at member
        exact once.1 member
      rw [List.foldl_cons, put_of_not_mem absent,
        inductionHypothesis once.2 restFresh, List.append_assoc]
      rfl

/-- Pairs under distinct keys are a table as they stand. -/
theorem ofList_of_nodup
    {pairs : List (κ × α)} (once : (pairs.map Prod.fst).Nodup) :
    ofList (· == ·) pairs = pairs :=
  foldl_put_of_nodup once fun _ _ => List.not_mem_nil

omit [LawfulBEq κ] in
theorem put_of_find?
    {key : κ} {value : α} {table : List (κ × α)}
    (found : find? (· == key) table = some value) :
    put (· == ·) key value table = table := by
  induction table with
  | nil =>
      cases found
  | cons entry rest inductionHypothesis =>
      obtain ⟨present, old⟩ := entry
      by_cases here : (present == key) = true
      · rw [find?, if_pos here] at found
        rw [put, if_pos here, Option.some.inj found]
      · rw [find?, if_neg here] at found
        rw [put, if_neg here, inductionHypothesis found]

@[simp]
theorem find?_put_self
    (key : κ) (value : α) (table : List (κ × α)) :
    find? (· == key) (put (· == ·) key value table) = some value := by
  induction table with
  | nil =>
      rw [put, find?, if_pos BEq.rfl]
  | cons entry rest inductionHypothesis =>
      obtain ⟨present, old⟩ := entry
      by_cases here : (present == key) = true
      · rw [put, if_pos here, find?, if_pos here]
      · rw [put, if_neg here, find?, if_neg here, inductionHypothesis]

/-- To write under one key leaves what is found under another. -/
theorem find?_put_of_ne
    {key other : κ} (different : other ≠ key) (value : α)
    (table : List (κ × α)) :
    find? (· == other) (put (· == ·) key value table) =
      find? (· == other) table := by
  have apart : ¬ (key == other) = true := fun same =>
    different (eq_of_beq same).symm
  induction table with
  | nil =>
      exact if_neg apart
  | cons entry rest inductionHypothesis =>
      obtain ⟨present, old⟩ := entry
      by_cases here : (present == key) = true
      · rw [← eq_of_beq here] at apart
        rw [put, if_pos here, find?, find?, if_neg apart, if_neg apart]
      · rw [put, if_neg here, find?, find?, inductionHypothesis]

omit [LawfulBEq κ] in
theorem mem_keys_put_of_mem
    (key : κ) (value : α) {other : κ} {table : List (κ × α)}
    (member : other ∈ table.map Prod.fst) :
    other ∈ (put (· == ·) key value table).map Prod.fst := by
  induction table with
  | nil =>
      cases member
  | cons entry rest inductionHypothesis =>
      obtain ⟨present, old⟩ := entry
      rw [put]
      split
      · exact member
      · rcases List.mem_cons.1 member with equal | later
        · exact List.mem_cons.2 (Or.inl equal)
        · exact List.mem_cons_of_mem _ (inductionHypothesis later)

theorem find?_foldl_put_of_not_mem
    {key : κ} {pairs : List (κ × α)} (absent : key ∉ pairs.map Prod.fst)
    (table : List (κ × α)) :
    find? (· == key)
        (pairs.foldl (fun table pair => put (· == ·) pair.1 pair.2 table)
          table) =
      find? (· == key) table := by
  induction pairs generalizing table with
  | nil => rfl
  | cons pair rest inductionHypothesis =>
      rw [List.map_cons, List.mem_cons, not_or] at absent
      rw [List.foldl_cons, inductionHypothesis absent.2,
        find?_put_of_ne absent.1]

/-- Where pairs under distinct keys are written, each value is found. -/
theorem find?_foldl_put_of_mem
    {key : κ} {value : α} {pairs : List (κ × α)}
    (once : (pairs.map Prod.fst).Nodup) (member : (key, value) ∈ pairs)
    (table : List (κ × α)) :
    find? (· == key)
        (pairs.foldl (fun table pair => put (· == ·) pair.1 pair.2 table)
          table) =
      some value := by
  induction pairs generalizing table with
  | nil =>
      cases member
  | cons pair rest inductionHypothesis =>
      rw [List.map_cons, List.nodup_cons] at once
      rw [List.foldl_cons]
      rcases List.mem_cons.1 member with equal | later
      · rw [← equal] at once ⊢
        simp [find?_foldl_put_of_not_mem once.1]
      · exact inductionHypothesis once.2 later _

private theorem find?_eq_some_iff_mem
    {key : κ} {value : α} {entries : List (κ × α)}
    (once : (entries.map Prod.fst).Nodup) :
    find? (· == key) entries = some value ↔ (key, value) ∈ entries := by
  refine ⟨fun found => ?_, find?_eq_some_of_mem once⟩
  obtain ⟨present, same, member⟩ := mem_of_find?_eq_some found
  rw [← eq_of_beq same]
  exact member

omit [LawfulBEq κ] in
private theorem ofList_concat (pairs : List (κ × α)) (pair : κ × α) :
    ofList (· == ·) (pairs ++ [pair]) =
      put (· == ·) pair.1 pair.2 (ofList (· == ·) pairs) := by
  rw [ofList, List.foldl_append]
  rfl

private theorem keys_put_of_mem
    {key : κ} {table : List (κ × α)} (present : key ∈ table.map Prod.fst)
    (value : α) :
    (put (· == ·) key value table).map Prod.fst = table.map Prod.fst := by
  induction table with
  | nil =>
      cases present
  | cons entry rest inductionHypothesis =>
      obtain ⟨other, old⟩ := entry
      by_cases here : (other == key) = true
      · rw [put, if_pos here, List.map_cons, List.map_cons]
      · have later : key ∈ rest.map Prod.fst :=
          (List.mem_cons.1 present).resolve_left fun same =>
            here (beq_iff_eq.2 same.symm)
        rw [put, if_neg here, List.map_cons, List.map_cons,
          inductionHypothesis later]

/-- The keys of a table are those that were written, each once. -/
theorem keys_ofList (pairs : List (κ × α)) :
    (ofList (· == ·) pairs).map Prod.fst =
      (pairs.map Prod.fst).eraseDups := by
  induction pairs using List.reverseRecOn with
  | nil => rfl
  | append_singleton pairs pair inductionHypothesis =>
      rw [ofList_concat, List.map_append, List.eraseDups_append,
        ← inductionHypothesis]
      by_cases present : pair.1 ∈ (ofList (· == ·) pairs).map Prod.fst
      · rw [keys_put_of_mem present]
        rw [inductionHypothesis, List.mem_eraseDups] at present
        simp [List.removeAll, present]
      · rw [put_of_not_mem present, List.map_append]
        rw [inductionHypothesis, List.mem_eraseDups] at present
        simp [List.removeAll, present, List.eraseDups_cons]

/-- Under each key stands the value that was written last. -/
theorem mem_ofList_iff
    {key : κ} {value : α} {pairs : List (κ × α)} :
    (key, value) ∈ ofList (· == ·) pairs ↔
      ∃ front back, pairs = front ++ (key, value) :: back ∧
        key ∉ back.map Prod.fst := by
  rw [← find?_eq_some_iff_mem (nodup_keys_ofList pairs)]
  constructor
  · intro found
    induction pairs using List.reverseRecOn with
    | nil => cases found
    | append_singleton pairs pair inductionHypothesis =>
        obtain ⟨written, last⟩ := pair
        rw [ofList_concat] at found
        by_cases same : key = written
        · subst same
          rw [find?_put_self, Option.some.injEq] at found
          subst found
          exact ⟨pairs, [], rfl, List.not_mem_nil⟩
        · rw [find?_put_of_ne same] at found
          obtain ⟨front, back, rfl, absent⟩ := inductionHypothesis found
          refine ⟨front, back ++ [(written, last)], by simp, ?_⟩
          rw [List.map_append, List.mem_append, not_or]
          exact ⟨absent, fun again => same (List.mem_singleton.1 again)⟩
  · rintro ⟨front, back, rfl, absent⟩
    rw [ofList, List.foldl_append, List.foldl_cons,
      find?_foldl_put_of_not_mem absent, find?_put_self]

/-- Where no key has two values, the order of the entries does not matter to
what is found. -/
theorem find?_perm
    {entries entries' : List (κ × α)} (perm : entries.Perm entries')
    (once : (entries.map Prod.fst).Nodup) (key : κ) :
    find? (· == key) entries = find? (· == key) entries' := by
  have once' : (entries'.map Prod.fst).Nodup :=
    (perm.map Prod.fst).nodup_iff.1 once
  have mem_of_find :
      ∀ {table : List (κ × α)} {value : α},
        find? (· == key) table = some value → (key, value) ∈ table := by
    intro table value found
    obtain ⟨present, same, member⟩ := mem_of_find?_eq_some found
    rw [← eq_of_beq same]
    exact member
  cases found : find? (· == key) entries' with
  | some value =>
      have member := perm.mem_iff.2 (mem_of_find found)
      exact find?_eq_some_of_mem once member
  | none =>
      cases found' : find? (· == key) entries with
      | none => rfl
      | some value =>
          have member := perm.mem_iff.1 (mem_of_find found')
          rw [find?_eq_some_of_mem once' member] at found
          cases found

end Keys

section Related

variable {R : κ → α → β → Prop}

/-- Entries under the same key whose values are related. -/
def RelatedEntries (R : κ → α → β → Prop) (left : κ × α) (right : κ × β) :
    Prop :=
  left.1 = right.1 ∧ R left.1 left.2 right.2

private theorem put_related
    {same : κ → κ → Bool} {key : κ} {value : α} {value' : β}
    (related : R key value value')
    (transport :
      ∀ present, same present key = true → R present value value')
    {table : List (κ × α)} {table' : List (κ × β)}
    (tables : List.Forall₂ (RelatedEntries R) table table') :
    List.Forall₂ (RelatedEntries R)
      (put same key value table) (put same key value' table') := by
  induction tables with
  | nil =>
      exact .cons ⟨rfl, related⟩ .nil
  | @cons head head' rest rest' heads tails inductionHypothesis =>
      obtain ⟨present, old⟩ := head
      obtain ⟨present', old'⟩ := head'
      obtain ⟨keys, values⟩ := heads
      cases keys
      by_cases found : same present key = true
      · simp only [put, found, if_true]
        exact .cons ⟨rfl, transport present found⟩ tails
      · simp only [put, found]
        exact .cons ⟨rfl, values⟩ inductionHypothesis

private theorem foldl_put_related
    [BEq κ] [LawfulBEq κ] {pairs : List (κ × α)} {pairs' : List (κ × β)}
    (related : List.Forall₂ (RelatedEntries R) pairs pairs')
    {table : List (κ × α)} {table' : List (κ × β)}
    (tables : List.Forall₂ (RelatedEntries R) table table') :
    List.Forall₂ (RelatedEntries R)
      (pairs.foldl (fun table pair => put (· == ·) pair.1 pair.2 table) table)
      (pairs'.foldl (fun table pair => put (· == ·) pair.1 pair.2 table)
        table') := by
  induction related generalizing table table' with
  | nil =>
      exact tables
  | @cons pair pair' rest rest' heads _ inductionHypothesis =>
      obtain ⟨key, value⟩ := pair
      obtain ⟨key', value'⟩ := pair'
      obtain ⟨keys, values⟩ := heads
      cases keys
      apply inductionHypothesis
      apply put_related values _ tables
      intro present equal
      rw [eq_of_beq equal]
      exact values

/-- Tables written from related pairs are related. -/
theorem ofList_related
    [BEq κ] [LawfulBEq κ] {pairs : List (κ × α)} {pairs' : List (κ × β)}
    (related : List.Forall₂ (RelatedEntries R) pairs pairs') :
    List.Forall₂ (RelatedEntries R)
      (ofList (· == ·) pairs) (ofList (· == ·) pairs') :=
  foldl_put_related related .nil

end Related

/-- A change of values that leaves the keys alone can be made before or after
the table is written. -/
theorem ofList_map
    [BEq κ] [LawfulBEq κ] (f : α → β) (pairs : List (κ × α)) :
    ofList (· == ·) (pairs.map fun pair => (pair.1, f pair.2)) =
      (ofList (· == ·) pairs).map fun pair => (pair.1, f pair.2) := by
  have pairwise :
      List.Forall₂ (RelatedEntries fun _ value value' => f value = value')
        pairs (pairs.map fun pair => (pair.1, f pair.2)) := by
    rw [List.forall₂_map_right_iff, List.forall₂_same]
    exact fun _ _ => ⟨rfl, rfl⟩
  have tables := ofList_related pairwise
  rw [← List.map_id (ofList _ (pairs.map _))]
  symm
  apply Related.map_eq _ tables
  rintro ⟨key, value⟩ ⟨key', value'⟩ ⟨keys, values⟩
  exact Prod.ext keys values

/-- Groups of related elements with the same keys are related member by
member. -/
theorem group_related
    [BEq κ] {R : α → β → Prop} {keyOf : α → κ} {keyOf' : β → κ}
    (sameKey : ∀ element element', R element element' →
      keyOf element = keyOf' element')
    {elements : List α} {elements' : List β}
    (related : List.Forall₂ R elements elements') :
    List.Forall₂ (RelatedEntries fun _ => List.Forall₂ R)
      (group keyOf elements) (group keyOf' elements') := by
  have keys : elements.map keyOf = elements'.map keyOf' :=
    Related.map_eq sameKey related
  rw [group, group, keys, List.forall₂_map_left_iff,
    List.forall₂_map_right_iff, List.forall₂_same]
  intro key _
  refine ⟨rfl, List.rel_filter ?_ related⟩
  intro element element' heads
  change (keyOf element == key) = true ↔ (keyOf' element' == key) = true
  rw [sameKey _ _ heads]

theorem group_map
    [BEq κ] (keyOf : β → κ) (f : α → β) (elements : List α) :
    group keyOf (elements.map f) =
      (group (keyOf ∘ f) elements).map fun entry =>
        (entry.1, entry.2.map f) := by
  rw [group, group, List.map_map, List.map_map]
  apply List.map_congr_left
  intro key _
  rw [List.filter_map]
  rfl

section Groups

variable [BEq κ] [LawfulBEq κ]

/-- The first group is that of the first element, and the others are the groups
of the elements outside of it. -/
theorem group_cons (keyOf : α → κ) (element : α) (rest : List α) :
    group keyOf (element :: rest) =
      (keyOf element,
          (element :: rest).filter fun other =>
            keyOf other == keyOf element) ::
        group keyOf
          (rest.filter fun other => !(keyOf other == keyOf element)) := by
  simp only [group, List.map_cons, List.eraseDups_cons, List.filter_map,
    Function.comp_def, List.cons.injEq, true_and]
  apply List.map_congr_left
  intro key member
  obtain ⟨other, otherMember, rfl⟩ :=
    List.mem_map.1 (List.mem_eraseDups.1 member)
  have outside : (keyOf other == keyOf element) = false := by
    simpa using (List.mem_filter.1 otherMember).2
  have headOutside : (keyOf element == keyOf other) = false := by
    rw [beq_eq_false_iff_ne] at outside ⊢
    exact Ne.symm outside
  rw [List.filter_cons_of_neg (by simp [headOutside]), List.filter_filter]
  congr 1
  apply List.filter_congr
  intro later _
  by_cases equal : keyOf later = keyOf other
  · simp [equal, outside]
  · simp [equal]

omit [LawfulBEq κ] in
/-- Induction along the groups: from the elements outside of the first group to
all elements. -/
private theorem group_induction
    {P : List α → Prop} (keyOf : α → κ) (nil : P [])
    (cons : ∀ element rest,
      P (rest.filter fun other => !(keyOf other == keyOf element)) →
        P (element :: rest))
    (elements : List α) : P elements := by
  match elements with
  | [] =>
      exact nil
  | element :: rest =>
      have shorter :
          (rest.filter fun other =>
            !(keyOf other == keyOf element)).length <
            (element :: rest).length :=
        Nat.lt_succ_of_le (List.length_filter_le _ rest)
      exact cons element rest (group_induction keyOf nil cons _)
termination_by elements.length
decreasing_by exact shorter

/-- Every element is in one group, once. -/
theorem group_perm (keyOf : α → κ) (elements : List α) :
    ((group keyOf elements).flatMap Prod.snd).Perm elements := by
  induction elements using group_induction keyOf with
  | nil =>
      exact List.Perm.refl []
  | cons element rest inductionHypothesis =>
      have outside :
          (rest.filter fun other => !(keyOf other == keyOf element)) =
            (element :: rest).filter fun other =>
              !(keyOf other == keyOf element) := by
        rw [List.filter_cons_of_neg (by simp)]
      rw [group_cons, List.flatMap_cons]
      refine (inductionHypothesis.append_left _).trans ?_
      rw [outside]
      exact List.filter_append_perm _ _

theorem mem_group_iff
    {keyOf : α → κ} {elements members : List α} {key : κ} :
    (key, members) ∈ group keyOf elements ↔
      key ∈ elements.map keyOf ∧
        members = elements.filter fun element => keyOf element == key := by
  simp only [group, List.mem_map, List.mem_eraseDups, Prod.mk.injEq]
  constructor
  · rintro ⟨_, present, rfl, rfl⟩
    exact ⟨present, rfl⟩
  · rintro ⟨present, rfl⟩
    exact ⟨key, present, rfl, rfl⟩

theorem ne_nil_of_mem_group
    {keyOf : α → κ} {elements members : List α} {key : κ}
    (grouped : (key, members) ∈ group keyOf elements) : members ≠ [] := by
  obtain ⟨present, rfl⟩ := mem_group_iff.1 grouped
  obtain ⟨element, member, rfl⟩ := List.mem_map.1 present
  exact List.ne_nil_of_mem (List.mem_filter.2 ⟨member, beq_self_eq_true _⟩)

omit [BEq κ] [LawfulBEq κ] in
/-- Which of two kinds of elements comes first does not depend on elements of
neither kind. -/
private theorem findIdx_lt_of_filter
    {p q kept : α → Bool} (left : ∀ element, p element → kept element)
    (right : ∀ element, q element → kept element) {elements : List α}
    (before :
      (elements.filter kept).findIdx p < (elements.filter kept).findIdx q) :
    elements.findIdx p < elements.findIdx q := by
  induction elements with
  | nil =>
      exact before
  | cons element rest inductionHypothesis =>
      by_cases keep : kept element = true
      · rw [List.filter_cons_of_pos keep, List.findIdx_cons,
          List.findIdx_cons] at before
        rw [List.findIdx_cons, List.findIdx_cons]
        cases isRight : q element with
        | true =>
            simp [isRight] at before
        | false =>
            cases isLeft : p element with
            | true =>
                simp
            | false =>
                simp only [isLeft, isRight, cond_false,
                  Nat.add_lt_add_iff_right] at before ⊢
                exact inductionHypothesis before
      · have noLeft : p element = false :=
          eq_false_of_ne_true fun holds => keep (left element holds)
        have noRight : q element = false :=
          eq_false_of_ne_true fun holds => keep (right element holds)
        rw [List.filter_cons_of_neg keep] at before
        simp [List.findIdx_cons, noLeft, noRight, inductionHypothesis before]

/-- The groups come in the order of their first elements. -/
theorem group_order (keyOf : α → κ) (elements : List α) :
    (group keyOf elements).Pairwise fun earlier later =>
      (elements.findIdx fun element => keyOf element == earlier.1) <
        elements.findIdx fun element => keyOf element == later.1 := by
  induction elements using group_induction keyOf with
  | nil =>
      exact List.Pairwise.nil
  | cons element rest inductionHypothesis =>
      have otherKey :
          ∀ entry ∈ group keyOf
              (rest.filter fun other => !(keyOf other == keyOf element)),
            (keyOf element == entry.1) = false := by
        rintro ⟨key, members⟩ grouped
        obtain ⟨present, _⟩ := mem_group_iff.1 grouped
        obtain ⟨other, member, rfl⟩ := List.mem_map.1 present
        have outside := (List.mem_filter.1 member).2
        rw [Bool.not_eq_true', beq_eq_false_iff_ne] at outside
        exact beq_eq_false_iff_ne.2 outside.symm
      rw [group_cons, List.pairwise_cons]
      constructor
      · intro later grouped
        simp [List.findIdx_cons, otherKey later grouped]
      · refine inductionHypothesis.imp_of_mem ?_
        intro earlier later earlierGrouped laterGrouped before
        have outside :
            ∀ entry, (keyOf element == entry) = false →
              ∀ other, (keyOf other == entry) = true →
                (!(keyOf other == keyOf element)) = true := by
          intro entry apart other same
          rw [eq_of_beq same, Bool.not_eq_true', beq_eq_false_iff_ne]
          exact (beq_eq_false_iff_ne.1 apart).symm
        have restBefore :=
          findIdx_lt_of_filter
            (outside _ (otherKey earlier earlierGrouped))
            (outside _ (otherKey later laterGrouped)) before
        simp [List.findIdx_cons, otherKey earlier earlierGrouped,
          otherKey later laterGrouped, restBefore]

/-- The keys of a table come in the order in which they first arrived. -/
theorem keys_ofList_order (pairs : List (κ × α)) :
    ((ofList (· == ·) pairs).map Prod.fst).Pairwise fun earlier later =>
      (pairs.findIdx fun pair => pair.1 == earlier) <
        pairs.findIdx fun pair => pair.1 == later := by
  have keys :
      (ofList (· == ·) pairs).map Prod.fst =
        (group Prod.fst pairs).map Prod.fst := by
    rw [keys_ofList, group, List.map_map]
    exact (List.map_id _).symm
  rw [keys]
  exact List.pairwise_map.2 (group_order Prod.fst pairs)

theorem nodup_keys_group (keyOf : α → κ) (elements : List α) :
    ((group keyOf elements).map Prod.fst).Nodup := by
  rw [List.Nodup, List.pairwise_map]
  refine (group_order keyOf elements).imp ?_
  intro earlier later before same
  rw [same] at before
  exact Nat.lt_irrefl _ before

theorem mem_of_mem_group
    {keyOf : α → κ} {elements members : List α} {key : κ} {element : α}
    (grouped : (key, members) ∈ group keyOf elements)
    (member : element ∈ members) : element ∈ elements :=
  (group_perm keyOf elements).mem_iff.1
    (List.mem_flatMap.2 ⟨(key, members), grouped, member⟩)

end Groups

end OpenApiSharp.Keyed
