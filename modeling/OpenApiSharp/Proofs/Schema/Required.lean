import OpenApiSharp.Proofs.Document.Value
import OpenApiSharp.Schema

namespace OpenApiSharp.Schema

open Document

/-- A rule by which a property is mandatory or optional. -/
inductive RequirementRule where
  | listedByParent
  | markedRequired
  | markedNullable
  | plainValue
  | constrained
  | otherwise
  deriving DecidableEq, Repr

/-- The type of a property is a number or a truth value. -/
def HasValueType (property : Value) : Prop :=
  ∃ schemaType ∈ ["integer", "number", "boolean"],
    property.get? "type" = some (.text schemaType)

namespace RequirementRule

/-- The rules in the order in which they are tried. -/
def inOrder : List RequirementRule :=
  [listedByParent, markedRequired, markedNullable, plainValue, constrained,
   otherwise]

/-- Whether a property is mandatory by a rule. -/
def verdict : RequirementRule → Bool
  | listedByParent => true
  | markedRequired => true
  | markedNullable => false
  | plainValue => true
  | constrained => true
  | otherwise => false

/-- When a rule applies to a property of a parent schema. -/
def Applies (property : Value) (name : String) (parent : Value) :
    RequirementRule → Prop
  | listedByParent =>
      ∃ names, parent.get? "required" = some (.list names) ∧
        .text name ∈ names
  | markedRequired =>
      property.get? "required" = some (.scalar (.bool true))
  | markedNullable =>
      property.get? "nullable" = some (.scalar (.bool true))
  | plainValue =>
      HasValueType property ∧
        property.get? "x-nullable" ≠ some (.scalar (.bool true))
  | constrained =>
      ∃ key ∈ ["minLength", "maxLength", "minimum", "maximum", "pattern",
        "enum"], ∃ value, property.get? key = some value
  | otherwise => True

/-- The rules that are tried before a rule. -/
def before (rule : RequirementRule) : List RequirementRule :=
  inOrder.takeWhile (· != rule)

/-- A rule decides about a property if it applies and none before it does. -/
structure Decides
    (rule : RequirementRule) (property : Value) (name : String)
    (parent : Value) : Prop where
  applies : rule.Applies property name parent
  first : ∀ earlier ∈ rule.before, ¬ earlier.Applies property name parent

theorem mem_before_or_mem_before
    {rule other : RequirementRule} (different : rule ≠ other) :
    rule ∈ other.before ∨ other ∈ rule.before := by
  cases rule <;> cases other <;>
    first | decide | exact absurd rfl different

theorem before_eq_of_inOrder_eq
    {rule : RequirementRule} {front back : List RequirementRule}
    (split : inOrder = front ++ rule :: back) : rule.before = front := by
  have once : inOrder.Nodup := by decide
  rw [split] at once
  have apart : ∀ earlier ∈ front, (earlier != rule) = true := by
    intro earlier member
    rw [bne_iff_ne]
    exact (List.nodup_append.1 once).2.2 earlier member rule
      List.mem_cons_self
  rw [before, split, List.takeWhile_append_of_pos apart,
    List.takeWhile_cons_of_neg (by simp), List.append_nil]

section Deciding

variable {property : Value} {name : String} {parent : Value}

private theorem Decides.unique
    {rule other : RequirementRule}
    (decides : rule.Decides property name parent)
    (otherDecides : other.Decides property name parent) : other = rule := by
  by_cases same : other = rule
  · exact same
  · rcases mem_before_or_mem_before same with earlier | earlier
    · exact absurd otherDecides.applies (decides.first other earlier)
    · exact absurd decides.applies (otherDecides.first rule earlier)

variable (property name parent)

/-- The last rule always applies, so one of them decides. -/
private theorem exists_decides :
    ∃ rule : RequirementRule, rule.Decides property name parent := by
  classical
  cases found : inOrder.find? fun rule =>
      decide (rule.Applies property name parent) with
  | none =>
      have refused := List.find?_eq_none.1 found otherwise (by decide)
      have applies : Applies property name parent otherwise := trivial
      exact absurd (decide_eq_true applies) refused
  | some rule =>
      obtain ⟨applies, front, back, split, refused⟩ :=
        List.find?_eq_some_iff_append.1 found
      refine ⟨rule, of_decide_eq_true applies, ?_⟩
      rw [before_eq_of_inOrder_eq split]
      intro earlier member
      simpa using refused earlier member

end Deciding

end RequirementRule

section Check

variable (property : Value) (name : String) (parent : Value)

theorem isValueType_iff :
    isValueType property = true ↔ HasValueType property := by
  simp only [isValueType, Option.any_eq_true, Value.getText?_eq_some_iff,
    List.contains_iff_mem, HasValueType]
  exact exists_congr fun _ => and_comm

theorem listsAsRequired_iff :
    listsAsRequired parent name = true ↔
      RequirementRule.listedByParent.Applies property name parent := by
  simp only [listsAsRequired, Option.any_eq_true, List.any_eq_true,
    beq_iff_eq, Value.text?_eq_some_iff, exists_eq_right,
    Value.mem_elements_iff, RequirementRule.Applies]
  constructor
  · rintro ⟨_, found, names, rfl, member⟩
    exact ⟨names, found, member⟩
  · rintro ⟨names, found, member⟩
    exact ⟨_, found, names, rfl, member⟩

theorem isConstrained_iff :
    isConstrained property = true ↔
      RequirementRule.constrained.Applies property name parent := by
  simp only [isConstrained, constraintKeys, List.any_eq_true, Value.has_iff,
    RequirementRule.Applies]

/-- What the check comes to: behind the first three rules the type of the
property tells which one of the next two is tried. -/
theorem isRequired_iff :
    isRequired property name parent = true ↔
      RequirementRule.listedByParent.Applies property name parent ∨
        RequirementRule.markedRequired.Applies property name parent ∨
        ¬ RequirementRule.markedNullable.Applies property name parent ∧
          (RequirementRule.plainValue.Applies property name parent ∨
            ¬ HasValueType property ∧
              RequirementRule.constrained.Applies property name parent) := by
  rw [← listsAsRequired_iff, ← isConstrained_iff]
  simp only [RequirementRule.Applies, ne_eq, ← isValueType_iff,
    ← Value.isTrue_iff, isRequired]
  cases listsAsRequired parent name <;>
    cases property.isTrue "required" <;>
    cases property.isTrue "nullable" <;>
    cases isValueType property <;> simp

end Check

/-- One rule decides about a property, and the check agrees with it unless the
constraints decide and the property is a number or a truth value. -/
theorem isRequired_eq_verdict_iff
    (property : Value) (name : String) (parent : Value) :
    ∃ rule : RequirementRule,
      rule.Decides property name parent ∧
        (∀ other : RequirementRule,
          other.Decides property name parent → other = rule) ∧
        (isRequired property name parent = rule.verdict ↔
          ¬ (rule = .constrained ∧ HasValueType property)) := by
  obtain ⟨rule, decides⟩ :=
    RequirementRule.exists_decides property name parent
  refine ⟨rule, decides, fun _ => decides.unique, ?_⟩
  have applies := decides.applies
  have first := decides.first
  rw [Bool.eq_iff_iff, isRequired_iff]
  cases rule with
  | listedByParent =>
      simp [RequirementRule.verdict, applies]
  | markedRequired =>
      simp [RequirementRule.verdict, applies]
  | markedNullable =>
      have unlisted := first .listedByParent (by decide)
      have unmarked := first .markedRequired (by decide)
      simp [RequirementRule.verdict, applies, unlisted, unmarked]
  | plainValue =>
      have notNullable := first .markedNullable (by decide)
      simp [RequirementRule.verdict, applies, notNullable]
  | constrained =>
      have unlisted := first .listedByParent (by decide)
      have unmarked := first .markedRequired (by decide)
      have notNullable := first .markedNullable (by decide)
      have notPlain := first .plainValue (by decide)
      simp [RequirementRule.verdict, applies, unlisted, unmarked,
        notNullable, notPlain]
  | otherwise =>
      have unlisted := first .listedByParent (by decide)
      have unmarked := first .markedRequired (by decide)
      have notPlain := first .plainValue (by decide)
      have unconstrained := first .constrained (by decide)
      simp [RequirementRule.verdict, unlisted, unmarked, notPlain,
        unconstrained]

/-- A number that may be null and has a least value. -/
def boundedCount : Value :=
  .map [(.text "type", .text "integer"),
    (.text "x-nullable", .scalar (.bool true)),
    (.text "minimum", .scalar (.int 0))]

/-- The constraints of this number decide, and yet it is optional. -/
theorem boundedCount_is_optional :
    RequirementRule.constrained.Decides boundedCount "count" (.map []) ∧
      RequirementRule.constrained.verdict = true ∧
      isRequired boundedCount "count" (.map []) = false := by
  refine ⟨⟨⟨"minimum", by decide, .scalar (.int 0), rfl⟩, ?_⟩, rfl, rfl⟩
  intro earlier member applies
  cases earlier with
  | listedByParent =>
      obtain ⟨_, found, _⟩ := applies
      cases found
  | markedRequired => cases applies
  | markedNullable => cases applies
  | plainValue => exact applies.2 rfl
  | constrained => exact absurd member (by decide)
  | otherwise => exact absurd member (by decide)

end OpenApiSharp.Schema
