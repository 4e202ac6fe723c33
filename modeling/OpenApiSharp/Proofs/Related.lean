import Mathlib.Data.List.Flatten
import Mathlib.Data.List.Forall2

namespace OpenApiSharp.Related

variable {α β γ δ : Type} {R : α → β → Prop}

theorem map_eq_of_mem
    {f : α → γ} {g : β → γ} {lefts : List α} {rights : List β}
    (agree : ∀ left ∈ lefts, ∀ right, R left right → f left = g right)
    (related : List.Forall₂ R lefts rights) :
    lefts.map f = rights.map g := by
  induction related with
  | nil => rfl
  | cons heads _ inductionHypothesis =>
      have rest := inductionHypothesis fun left member =>
        agree left (List.mem_cons_of_mem _ member)
      rw [List.map_cons, List.map_cons, rest,
        agree _ List.mem_cons_self _ heads]

/-- Related lists have the same image under functions that agree on related
elements. -/
theorem map_eq
    {f : α → γ} {g : β → γ}
    (agree : ∀ left right, R left right → f left = g right)
    {lefts : List α} {rights : List β}
    (related : List.Forall₂ R lefts rights) :
    lefts.map f = rights.map g :=
  map_eq_of_mem (fun left _ => agree left) related

theorem flatMap_eq
    {f : α → List γ} {g : β → List γ}
    (agree : ∀ left right, R left right → f left = g right)
    {lefts : List α} {rights : List β}
    (related : List.Forall₂ R lefts rights) :
    lefts.flatMap f = rights.flatMap g := by
  rw [List.flatMap_def, List.flatMap_def, map_eq agree related]

theorem exists_left_of_mem
    {lefts : List α} {rights : List β}
    (related : List.Forall₂ R lefts rights) {right : β}
    (member : right ∈ rights) : ∃ left ∈ lefts, R left right := by
  induction related with
  | nil =>
      cases member
  | @cons left _ _ _ heads _ inductionHypothesis =>
      rcases List.mem_cons.1 member with equal | later
      · subst equal
        exact ⟨left, List.mem_cons_self, heads⟩
      · obtain ⟨other, otherMember, otherRelated⟩ :=
          inductionHypothesis later
        exact ⟨other, List.mem_cons_of_mem _ otherMember, otherRelated⟩

/-- Where an element of the second list tells which image its partner has,
distinct images make distinct elements. -/
theorem nodup_map_of_determined
    {f : α → γ} {g : β → δ}
    (determined : ∀ left left' right right', R left right → R left' right' →
      g right = g right' → f left = f left')
    {lefts : List α} {rights : List β}
    (related : List.Forall₂ R lefts rights)
    (distinct : (lefts.map f).Nodup) : (rights.map g).Nodup := by
  induction related with
  | nil => exact List.nodup_nil
  | @cons left right lefts rights heads others inductionHypothesis =>
      rw [List.map_cons, List.nodup_cons] at distinct
      rw [List.map_cons, List.nodup_cons]
      refine ⟨?_, inductionHypothesis distinct.2⟩
      intro repeated
      obtain ⟨right', member, same⟩ := List.mem_map.1 repeated
      obtain ⟨left', present, partners⟩ := exists_left_of_mem others member
      apply distinct.1
      rw [determined left left' right right' heads partners same.symm]
      exact List.mem_map_of_mem present

/-- Combined with a list of its own length, a list is related element by
element to the result. -/
theorem zipWith_right
    {S : α → γ → Prop} {f : α → β → γ}
    {elements : List α} {names : List β}
    (sameLength : names.length = elements.length)
    (related :
      ∀ element ∈ elements, ∀ name ∈ names, S element (f element name)) :
    List.Forall₂ S elements (elements.zipWith f names) := by
  induction elements generalizing names with
  | nil =>
      exact List.Forall₂.nil
  | cons element rest inductionHypothesis =>
      cases names with
      | nil =>
          simp at sameLength
      | cons name others =>
          refine List.Forall₂.cons
            (related element List.mem_cons_self name List.mem_cons_self) ?_
          apply inductionHypothesis (by simpa using sameLength)
          intro later laterMember other otherMember
          exact related later (List.mem_cons_of_mem _ laterMember)
            other (List.mem_cons_of_mem _ otherMember)

/-- Combined with a list that it is related to, a list is related element by
element to the result. -/
theorem zipWith_of_related
    {S : α → γ → Prop} {f : α → β → γ}
    (step : ∀ left right, R left right → S left (f left right))
    {lefts : List α} {rights : List β}
    (related : List.Forall₂ R lefts rights) :
    List.Forall₂ S lefts (lefts.zipWith f rights) := by
  induction related with
  | nil => exact .nil
  | cons heads _ inductionHypothesis =>
      exact .cons (step _ _ heads) inductionHypothesis

theorem findSome?_eq_map
    {f : α → Option γ} {g : α → Option β} {image : β → γ}
    {elements : List α}
    (agree : ∀ element ∈ elements, f element = (g element).map image) :
    elements.findSome? f = (elements.findSome? g).map image := by
  induction elements with
  | nil => rfl
  | cons element rest inductionHypothesis =>
      have later := inductionHypothesis fun other member =>
        agree other (List.mem_cons_of_mem _ member)
      rw [List.findSome?_cons, List.findSome?_cons,
        agree element List.mem_cons_self, later]
      cases g element <;> rfl

/-- What is combined with enough elements can be read off the result. -/
theorem map_zipWith_eq_right
    {f : α → β → γ} {g : γ → β}
    (inverse : ∀ left right, g (f left right) = right)
    {lefts : List α} {rights : List β}
    (enough : rights.length ≤ lefts.length) :
    (lefts.zipWith f rights).map g = rights := by
  rw [List.map_zipWith]
  simp only [inverse]
  refine Eq.trans ?_ (List.map_snd_zip enough)
  rw [List.zip, List.map_zipWith]

theorem zipWith_same
    {ε : Type} {S : γ → δ → Prop} {f : α → ε → γ} {g : β → ε → δ}
    (step : ∀ left right name, R left right → S (f left name) (g right name))
    {lefts : List α} {rights : List β}
    (related : List.Forall₂ R lefts rights) (names : List ε) :
    List.Forall₂ S (lefts.zipWith f names) (rights.zipWith g names) := by
  induction related generalizing names with
  | nil =>
      exact List.Forall₂.nil
  | @cons left right _ _ heads _ inductionHypothesis =>
      cases names with
      | nil => exact List.Forall₂.nil
      | cons name others =>
          exact .cons (step left right name heads)
            (inductionHypothesis others)

/-- Two lists that agree outside of one key, where no key occurs twice, have
the same image or differ at a single place. -/
theorem map_eq_or_split
    {κ : Type} {keyOf : α → κ} {key : κ} {f : α → γ} {g : β → γ}
    (agree : ∀ left right, R left right →
      keyOf left = key ∨ f left = g right)
    {lefts : List α} {rights : List β}
    (related : List.Forall₂ R lefts rights)
    (once : (lefts.map keyOf).Nodup) :
    lefts.map f = rights.map g ∨
      ∃ before left after before' right after',
        lefts = before ++ left :: after ∧
        rights = before' ++ right :: after' ∧
        keyOf left = key ∧ R left right ∧
        before.map f = before'.map g ∧ after.map f = after'.map g := by
  induction related with
  | nil =>
      exact Or.inl rfl
  | @cons left right lefts rights heads tails inductionHypothesis =>
      rw [List.map_cons, List.nodup_cons] at once
      rcases agree left right heads with here | same
      · have others : lefts.map f = rights.map g := by
          refine map_eq_of_mem ?_ tails
          intro other member right' related
          rcases agree other right' related with again | equal
          · rw [here, ← again] at once
            exact absurd (List.mem_map_of_mem member) once.1
          · exact equal
        exact Or.inr
          ⟨[], left, lefts, [], right, rights, rfl, rfl, here, heads, rfl,
            others⟩
      · rcases inductionHypothesis once.2 with equal | split
        · exact Or.inl (by rw [List.map_cons, List.map_cons, same, equal])
        · obtain ⟨before, place, after, before', place', after', parts, parts',
            found, related, fronts, backs⟩ := split
          refine Or.inr
            ⟨left :: before, place, after, right :: before', place', after',
              ?_, ?_, found, related, ?_, backs⟩
          · rw [parts, List.cons_append]
          · rw [parts', List.cons_append]
          · rw [List.map_cons, List.map_cons, same, fronts]

/-- A relation of lists that holds of what is put together from related lists. -/
structure Joins {α β : Type} (R : List α → List β → Prop) : Prop where
  nil : R [] []
  append {front back : List α} {front' back' : List β} :
    R front front' → R back back' → R (front ++ back) (front' ++ back')

namespace Joins

variable {α β γ : Type} {R : List α → List β → Prop} (joins : Joins R)

include joins

theorem flatten
    {lefts : List (List α)} {rights : List (List β)}
    (related : List.Forall₂ R lefts rights) :
    R lefts.flatten rights.flatten := by
  induction related with
  | nil => exact joins.nil
  | cons heads _ inductionHypothesis =>
      exact joins.append heads inductionHypothesis

theorem flatMap
    {elements : List γ} {left : γ → List α} {right : γ → List β}
    (each : ∀ element ∈ elements, R (left element) (right element)) :
    R (elements.flatMap left) (elements.flatMap right) := by
  rw [List.flatMap_def, List.flatMap_def]
  apply joins.flatten
  rw [List.forall₂_map_left_iff, List.forall₂_map_right_iff, List.forall₂_same]
  exact each

theorem intercalate
    {separator : List α} {separator' : List β} (between : R separator separator')
    {lefts : List (List α)} {rights : List (List β)}
    (related : List.Forall₂ R lefts rights) :
    R (separator.intercalate lefts) (separator'.intercalate rights) := by
  induction related with
  | nil => exact joins.nil
  | cons heads others inductionHypothesis =>
      cases others with
      | nil =>
          rw [List.intercalate_singleton, List.intercalate_singleton]
          exact heads
      | cons =>
          rw [List.intercalate_cons_cons, List.intercalate_cons_cons]
          exact joins.append (joins.append heads between) inductionHypothesis

end Joins

end OpenApiSharp.Related
