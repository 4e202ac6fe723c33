import Mathlib.Data.Nat.Find
import OpenApiSharp.Naming.ServiceName
import OpenApiSharp.Proofs.Text.LowerCase
import OpenApiSharp.Proofs.Text.Search

namespace OpenApiSharp.Text

/-- The characters from a position on begin with those of a word, in any case. -/
def StandsAt (word cs : List Char) (position : Nat) : Prop :=
  ((cs.drop position).take word.length).map lowerChar =
    word.map fun c => [c]

instance (word cs : List Char) (position : Nat) :
    Decidable (StandsAt word cs position) :=
  inferInstanceAs (Decidable (_ = _))

structure IsFirstPlace (word cs : List Char) (position : Nat) : Prop where
  here : StandsAt word cs position
  least : ∀ earlier, earlier < position → ¬ StandsAt word cs earlier

@[simp]
theorem standsAt_cons_zero {c d : Char} {word rest : List Char} :
    StandsAt (d :: word) (c :: rest) 0 ↔
      lowerChar c = [d] ∧ StandsAt word rest 0 := by
  simp [StandsAt]

@[simp]
theorem standsAt_cons_succ
    {c : Char} {word rest : List Char} {position : Nat} :
    StandsAt word (c :: rest) (position + 1) ↔ StandsAt word rest position :=
  Iff.rfl

theorem not_standsAt_nil
    {word : List Char} (filled : word ≠ []) (position : Nat) :
    ¬ StandsAt word [] position := by
  rw [StandsAt, List.drop_nil, List.take_nil, List.map_nil, eq_comm,
    List.map_eq_nil_iff]
  exact filled

/-- A word that stands somewhere fits in behind the position. -/
private theorem StandsAt.lt_length
    {word cs : List Char} {position : Nat}
    (stands : StandsAt word cs position) (filled : word ≠ []) :
    position < cs.length := by
  by_contra beyond
  have nothing : cs.drop position = [] := List.drop_eq_nil_of_le (by omega)
  apply not_standsAt_nil filled position
  rw [StandsAt, nothing] at stands
  rw [StandsAt, List.drop_nil]
  exact stands

private theorem IsFirstPlace.unique
    {word cs : List Char} {position other : Nat}
    (first : IsFirstPlace word cs position)
    (second : IsFirstPlace word cs other) : position = other := by
  rcases Nat.lt_trichotomy position other with less | same | greater
  · exact absurd first.here (second.least position less)
  · exact same
  · exact absurd second.here (first.least other greater)

private theorem exists_isFirstPlace
    {word cs : List Char} {position : Nat}
    (stands : StandsAt word cs position) :
    ∃ first, IsFirstPlace word cs first := by
  have somewhere : ∃ place, StandsAt word cs place := ⟨position, stands⟩
  exact
    ⟨Nat.find somewhere, Nat.find_spec somewhere,
      fun _ earlier => Nat.find_min somewhere earlier⟩

/-- A word that is found in a lower-case form only where it stands in the text:
it has no sigma, and nothing of it can be a part of the two characters of the
dotted capital I. -/
structure IsPlain (word : List Char) : Prop where
  noSigma : 'ς' ∉ word ∧ 'σ' ∉ word
  noDot : '\u0307' ∉ word
  noFinalI : ¬ ['i'] <:+ word

private theorem IsPlain.tail
    {d : Char} {word : List Char} (plain : IsPlain (d :: word)) :
    IsPlain word where
  noSigma :=
    ⟨fun member => plain.noSigma.1 (List.mem_cons_of_mem d member),
      fun member => plain.noSigma.2 (List.mem_cons_of_mem d member)⟩
  noDot := fun member => plain.noDot (List.mem_cons_of_mem d member)
  noFinalI := fun final =>
    plain.noFinalI (final.trans (List.suffix_cons d word))

/-- At the beginning of a lower-case form the word is found if it stands there
in the text. -/
theorem prefix_lowerAfter_iff
    {word : List Char} (plain : IsPlain word) (before cs : List Char) :
    word <+: lowerAfter before cs ↔ StandsAt word cs 0 := by
  induction word generalizing before cs with
  | nil => exact iff_of_true (List.nil_prefix) rfl
  | cons d word inductionHypothesis =>
      cases cs with
      | nil =>
          refine iff_of_false ?_ (not_standsAt_nil (List.cons_ne_nil d word) 0)
          rw [lowerAfter, List.prefix_nil]
          exact List.cons_ne_nil d word
      | cons c rest =>
          obtain ⟨image, contributes, form⟩ := exists_lowerImage before c rest
          rw [form, standsAt_cons_zero]
          cases contributes with
          | @sigma image capital sigmas =>
              have own : lowerChar 'Σ' = ['σ'] := by decide
              rw [List.singleton_append, List.cons_prefix_cons, capital, own,
                List.singleton_inj]
              refine iff_of_false (fun both => ?_) (fun both => ?_)
              · have sigma := both.1
                rcases sigmas with rfl | rfl
                · exact plain.noSigma.1 (sigma ▸ List.mem_cons_self)
                · exact plain.noSigma.2 (sigma ▸ List.mem_cons_self)
              · exact plain.noSigma.2 (both.1 ▸ List.mem_cons_self)
          | dotted capital =>
              have own : lowerChar '\u0130' = ['i', '\u0307'] := by
                decide
              rw [capital, own]
              refine iff_of_false (fun found => ?_) (fun both => by
                cases both.1)
              obtain ⟨isI, behind⟩ := List.cons_prefix_cons.1 found
              cases word with
              | nil =>
                  rw [isI] at plain
                  exact plain.noFinalI (List.suffix_refl _)
              | cons e more =>
                  have dot := (List.cons_prefix_cons.1 behind).1
                  exact plain.noDot (dot ▸ by simp)
          | @single image _ own =>
              rw [List.singleton_append, List.cons_prefix_cons, own,
                List.singleton_inj, inductionHypothesis plain.tail]
              exact and_congr_left fun _ => eq_comm

section Positions

variable {word : List Char} (plain : IsPlain word) (filled : word ≠ [])

include plain filled

/-- One character of the text takes the search further by as many characters as
it has in lower case. -/
theorem indexOf?_lowerAfter_cons
    {c : Char} {rest : List Char} (elsewhere : ¬ StandsAt word (c :: rest) 0)
    (before : List Char) :
    indexOf? word (lowerAfter before (c :: rest)) =
      (indexOf? word (lowerAfter (c :: before) rest)).map
        (· + 1 + [c].count '\u0130') := by
  have unfound := mt (prefix_lowerAfter_iff plain before (c :: rest)).1 elsewhere
  obtain ⟨image, contributes, form⟩ := exists_lowerImage before c rest
  rw [form] at unfound ⊢
  cases contributes with
  | sigma capital _ =>
      have none : [c].count '\u0130' = 0 := by
        rw [capital]
        decide
      rw [List.singleton_append] at unfound ⊢
      rw [indexOf?_cons_of_unfound unfound, none]
  | dotted capital =>
      have one : [c].count '\u0130' = 1 := by
        rw [capital]
        decide
      have inside :
          ¬ word <+: '\u0307' :: lowerAfter (c :: before) rest := by
        intro found
        cases word with
        | nil => exact filled rfl
        | cons d more =>
            have dot := (List.cons_prefix_cons.1 found).1
            exact plain.noDot (dot ▸ List.mem_cons_self)
      change ¬ word <+: 'i' :: '\u0307' :: lowerAfter (c :: before) rest
        at unfound
      change indexOf? word ('i' :: '\u0307' :: lowerAfter (c :: before) rest) = _
      rw [indexOf?_cons_of_unfound unfound,
        indexOf?_cons_of_unfound inside, one, Option.map_map]
      rfl
  | single undotted _ =>
      have none : [c].count '\u0130' = 0 := by
        rw [List.count_eq_zero, List.mem_singleton]
        exact Ne.symm undotted
      rw [List.singleton_append] at unfound ⊢
      rw [indexOf?_cons_of_unfound unfound, none]

/-- Where the word stands first, the search finds it, further on by the number of
dotted capitals in front. -/
private theorem indexOf?_lowerAfter_of_isFirstPlace
    {cs : List Char} {position : Nat}
    (first : IsFirstPlace word cs position) (before : List Char) :
    indexOf? word (lowerAfter before cs) =
      some (position + (cs.take position).count '\u0130') := by
  induction position generalizing cs before with
  | zero =>
      have found := (prefix_lowerAfter_iff plain before cs).2 first.here
      exact indexOf?_of_prefix found
  | succ position inductionHypothesis =>
      cases cs with
      | nil => exact absurd first.here (not_standsAt_nil filled _)
      | cons c rest =>
          have later : IsFirstPlace word rest position :=
            { here := standsAt_cons_succ.1 first.here
              least := fun earlier less =>
                mt standsAt_cons_succ.2
                  (first.least (earlier + 1) (by omega)) }
          have counted :
              (c :: rest.take position).count '\u0130' =
                [c].count '\u0130' + (rest.take position).count '\u0130' := by
            rw [← List.count_append, List.singleton_append]
          rw [indexOf?_lowerAfter_cons plain filled
              (first.least 0 (by omega)),
            inductionHypothesis later, Option.map_some, List.take_succ_cons,
            counted]
          congr 1
          omega

private theorem indexOf?_lowerAfter_eq_none
    {cs : List Char} (nowhere : ∀ position, ¬ StandsAt word cs position)
    (before : List Char) :
    indexOf? word (lowerAfter before cs) = none := by
  induction cs generalizing before with
  | nil =>
      cases word with
      | nil => exact absurd rfl filled
      | cons d more => rfl
  | cons c rest inductionHypothesis =>
      rw [indexOf?_lowerAfter_cons plain filled (nowhere 0),
        inductionHypothesis fun position =>
          mt standsAt_cons_succ.2 (nowhere (position + 1))]
      rfl

end Positions

end OpenApiSharp.Text

namespace OpenApiSharp.Naming

open Text

/-- The identifier without the first `using` in any case and what is behind it.
One that begins with it is whole. -/
inductive IsCut (operationId : String) : String → Prop
  | absent
      (nowhere : ∀ position,
        ¬ StandsAt "using".toList operationId.toList position) :
      IsCut operationId operationId
  | leading
      (first : IsFirstPlace "using".toList operationId.toList 0) :
      IsCut operationId operationId
  | front {position : Nat} (positive : 0 < position)
      (first : IsFirstPlace "using".toList operationId.toList position) :
      IsCut operationId (String.ofList (operationId.toList.take position))

private theorem isPlain_using : IsPlain "using".toList where
  noSigma := by decide
  noDot := by decide
  noFinalI := by decide

theorem using_ne_nil : "using".toList ≠ [] := by
  decide

section Cut

variable {operationId : String}

private theorem cleanOperationId_of_absent
    (nowhere : ∀ position,
      ¬ StandsAt "using".toList operationId.toList position) :
    cleanOperationId operationId = operationId := by
  rw [cleanOperationId, toList_lower,
    indexOf?_lowerAfter_eq_none isPlain_using using_ne_nil nowhere]

private theorem cleanOperationId_of_leading
    (first : IsFirstPlace "using".toList operationId.toList 0) :
    cleanOperationId operationId = operationId := by
  rw [cleanOperationId, toList_lower,
    indexOf?_lowerAfter_of_isFirstPlace isPlain_using using_ne_nil first]
  rfl

private theorem cleanOperationId_of_isFirstPlace
    {position : Nat} (positive : 0 < position)
    (first : IsFirstPlace "using".toList operationId.toList position) :
    cleanOperationId operationId =
      String.ofList
        (operationId.toList.take
          (position +
            (operationId.toList.take position).count '\u0130')) := by
  obtain ⟨before, rfl⟩ := Nat.exists_eq_add_of_lt positive
  rw [cleanOperationId, toList_lower,
    indexOf?_lowerAfter_of_isFirstPlace isPlain_using using_ne_nil first,
    Nat.zero_add, Nat.add_right_comm]

end Cut

/-- An identifier is cut in front of its first `using`, in any case, if and only
if no dotted capital I stands there; else the cut is as many characters too late
as there are dotted capitals. -/
theorem cleanOperationId_isCut_iff (operationId : String) :
    (IsCut operationId (cleanOperationId operationId) ↔
      ∀ position,
        IsFirstPlace "using".toList operationId.toList position →
          '\u0130' ∉ operationId.toList.take position) ∧
    ∀ position, 0 < position →
      IsFirstPlace "using".toList operationId.toList position →
        cleanOperationId operationId =
          String.ofList
            (operationId.toList.take
              (position +
                (operationId.toList.take position).count '\u0130')) := by
  refine ⟨⟨?_, ?_⟩, fun position => cleanOperationId_of_isFirstPlace⟩
  · intro cut position first
    generalize result : cleanOperationId operationId = cleaned at cut
    cases cut with
    | absent nowhere => exact absurd first.here (nowhere position)
    | leading atStart =>
        rw [first.unique atStart, List.take_zero]
        exact List.not_mem_nil
    | @front other positive atOther =>
        obtain rfl := first.unique atOther
        rw [cleanOperationId_of_isFirstPlace positive first] at result
        have lengths := congrArg String.length result
        have inside := first.here.lt_length using_ne_nil
        rw [String.length_ofList, String.length_ofList, List.length_take,
          List.length_take] at lengths
        rw [← List.count_eq_zero]
        omega
  · intro undotted
    by_cases somewhere :
        ∃ place, StandsAt "using".toList operationId.toList place
    · obtain ⟨_, stands⟩ := somewhere
      obtain ⟨position, first⟩ := exists_isFirstPlace stands
      rcases Nat.eq_zero_or_pos position with rfl | positive
      · rw [cleanOperationId_of_leading first]
        exact .leading first
      · have none := List.count_eq_zero.2 (undotted position first)
        rw [cleanOperationId_of_isFirstPlace positive first, none]
        exact .front positive first
    · have nowhere := not_exists.1 somewhere
      rw [cleanOperationId_of_absent nowhere]
      exact .absent nowhere

/-- An identifier with a dotted capital in front of its `using`. -/
def dottedId : String :=
  "getİtemUsingGET"

private theorem isFirstPlace_dottedId :
    IsFirstPlace "using".toList dottedId.toList 7 where
  here := by decide +kernel
  least := by decide +kernel

theorem dottedId_cut_late :
    0 < 7 ∧ IsFirstPlace "using".toList dottedId.toList 7 ∧
      cleanOperationId dottedId =
        String.ofList
          (dottedId.toList.take
            (7 + (dottedId.toList.take 7).count '\u0130')) :=
  ⟨by decide, isFirstPlace_dottedId,
    (cleanOperationId_isCut_iff dottedId).2 7 (by decide)
      isFirstPlace_dottedId⟩

/-- A letter of the word is left over behind the name. -/
theorem dottedId_not_isCut :
    cleanOperationId dottedId = "getİtemU" ∧
      ¬ IsCut dottedId (cleanOperationId dottedId) := by
  have result : cleanOperationId dottedId = "getİtemU" := by
    decide +kernel
  refine ⟨result, fun cut => ?_⟩
  rw [result] at cut
  generalize cleaned : "getİtemU" = rest at cut
  cases cut with
  | absent nowhere => exact nowhere 7 isFirstPlace_dottedId.here
  | leading atStart =>
      cases isFirstPlace_dottedId.unique atStart
  | front _ first =>
      rw [← isFirstPlace_dottedId.unique first] at cleaned
      exact absurd cleaned (by decide +kernel)

end OpenApiSharp.Naming
