import Mathlib.Data.List.Sort
import Mathlib.Data.String.Basic
import OpenApiSharp.CSharp.Source
import OpenApiSharp.Proofs.Text.Search

namespace OpenApiSharp.CSharp

open Text

@[simp]
theorem mem_insertName {name other : String} {names : List String} :
    other ∈ insertName name names ↔ other = name ∨ other ∈ names := by
  induction names with
  | nil => simp [insertName]
  | cons head rest inductionHypothesis =>
      rw [insertName]
      by_cases before : name < head
      · simp [before]
      · by_cases same : name = head
        · simp [same]
        · rw [if_neg before, if_neg same, List.mem_cons, inductionHypothesis,
            List.mem_cons]
          exact or_left_comm

@[simp]
theorem mem_sortNames {name : String} {names : List String} :
    name ∈ sortNames names ↔ name ∈ names := by
  induction names with
  | nil => simp [sortNames]
  | cons head rest inductionHypothesis =>
      rw [sortNames, List.foldr_cons, mem_insertName, ← sortNames,
        inductionHypothesis, List.mem_cons]

theorem mem_usings
    {types always : List String} {ownNamespace name : String}
    {index : Model.NamespaceIndex} :
    name ∈ usings types ownNamespace index always ↔
      name ∈ always ∨
        ∃ typeText ∈ types, name ∈ namespacesOf ownNamespace index typeText := by
  rw [usings, List.mem_append, List.mem_filter, List.mem_filter,
    mem_sortNames, List.mem_append, List.mem_flatMap]
  cases isSystem name <;> simp

/-- The namespace of a model is imported by every file of another namespace
that has a type referring to the model. -/
theorem mem_usings_of_lookup
    {types always : List String} {ownNamespace typeText name found : String}
    {index : Model.NamespaceIndex} (occurs : typeText ∈ types)
    (referenced : name ∈ referencedNames typeText)
    (known : index.lookup? name = some found) (named : found ≠ "")
    (foreign : found ≠ ownNamespace) :
    found ∈ usings types ownNamespace index always := by
  refine mem_usings.2 (Or.inr ⟨typeText, occurs, ?_⟩)
  have looked : found ∈ (referencedNames typeText).filterMap index.lookup? :=
    List.mem_filterMap.2 ⟨name, referenced, known⟩
  rw [namespacesOf, List.mem_append]
  refine Or.inr (List.mem_filter.2 ⟨looked, ?_⟩)
  simp [named, foreign]

/-- An index enters the imports only through what it finds. -/
theorem usings_congr
    {index index' : Model.NamespaceIndex}
    (same : index.lookup? = index'.lookup?)
    (types : List String) (ownNamespace : String) (always : List String) :
    usings types ownNamespace index always =
      usings types ownNamespace index' always := by
  have needed :
      namespacesOf ownNamespace index = namespacesOf ownNamespace index' := by
    funext typeText
    rw [namespacesOf, namespacesOf, same]
  rw [usings, usings, needed]

section Needs

variable (types always : List String) (ownNamespace : String)
  (index : Model.NamespaceIndex)

/-- The namespaces that a file needs for its types, besides those that it needs
in any case. -/
inductive Needs : String → Prop
  | always {name : String} (member : name ∈ always) : Needs name
  | time {typeText : String} (member : typeText ∈ types)
      (mentioned : "DateTime".toList <:+: typeText.toList) : Needs "System"
  | generic {typeText : String} (member : typeText ∈ types)
      (bracket : '<' ∈ typeText.toList) : Needs "System.Collections.Generic"
  | model {typeText name found : String} (member : typeText ∈ types)
      (referenced : name ∈ referencedNames typeText)
      (known : index.lookup? name = some found) (named : found ≠ "")
      (foreign : found ≠ ownNamespace) : Needs found

variable {types always ownNamespace index}

private theorem Needs.mono
    {types' always' : List String}
    (moreTypes : ∀ typeText ∈ types, typeText ∈ types')
    (moreAlways : ∀ name ∈ always, name ∈ always')
    {name : String} (needed : Needs types always ownNamespace index name) :
    Needs types' always' ownNamespace index name := by
  cases needed with
  | always member =>
      exact .always (moreAlways _ member)
  | time member mentioned =>
      exact .time (moreTypes _ member) mentioned
  | generic member bracket =>
      exact .generic (moreTypes _ member) bracket
  | model member referenced known named foreign =>
      exact .model (moreTypes _ member) referenced known named foreign

@[simp]
theorem bracket_occursIn_iff {typeText : String} :
    occursIn "<" typeText = true ↔ '<' ∈ typeText.toList := by
  have bracket : "<".toList = ['<'] := rfl
  simp [occursIn, bracket]

theorem mem_namespacesOf {typeText name : String} :
    name ∈ namespacesOf ownNamespace index typeText ↔
      ("DateTime".toList <:+: typeText.toList ∧ name = "System") ∨
        ('<' ∈ typeText.toList ∧ name = "System.Collections.Generic") ∨
        (∃ model ∈ referencedNames typeText,
          index.lookup? model = some name) ∧
          name ≠ "" ∧ name ≠ ownNamespace := by
  have time :
      name ∈ (if occursIn "DateTime" typeText then [systemNamespace] else []) ↔
        "DateTime".toList <:+: typeText.toList ∧ name = "System" := by
    rw [← occursIn_iff]
    split <;> simp_all [systemNamespace]
  have generic :
      name ∈ (if occursIn "<" typeText then [collectionsNamespace] else []) ↔
        '<' ∈ typeText.toList ∧ name = "System.Collections.Generic" := by
    rw [← bracket_occursIn_iff]
    split <;> simp_all [collectionsNamespace]
  have filled :
      (!name.isEmpty && name != ownNamespace) = true ↔
        name ≠ "" ∧ name ≠ ownNamespace := by
    simp
  rw [namespacesOf, List.mem_append, List.mem_append, List.mem_filter, time,
    generic, filled, List.mem_filterMap, or_assoc]

theorem mem_usings_iff_needs {name : String} :
    name ∈ usings types ownNamespace index always ↔
      Needs types always ownNamespace index name := by
  rw [mem_usings]
  constructor
  · intro imported
    rcases imported with inAnyCase | ⟨typeText, member, needed⟩
    · exact .always inAnyCase
    · rcases mem_namespacesOf.1 needed with
        ⟨mentioned, rfl⟩ | ⟨bracket, rfl⟩ | ⟨looked, named, foreign⟩
      · exact .time member mentioned
      · exact .generic member bracket
      · obtain ⟨model, referenced, known⟩ := looked
        exact .model member referenced known named foreign
  · intro needed
    cases needed with
    | always member =>
        exact Or.inl member
    | time member mentioned =>
        exact Or.inr
          ⟨_, member, mem_namespacesOf.2 (Or.inl ⟨mentioned, rfl⟩)⟩
    | generic member bracket =>
        exact Or.inr
          ⟨_, member, mem_namespacesOf.2 (Or.inr (Or.inl ⟨bracket, rfl⟩))⟩
    | model member referenced known named foreign =>
        refine Or.inr ⟨_, member, mem_namespacesOf.2 (Or.inr (Or.inr ?_))⟩
        exact ⟨⟨_, referenced, known⟩, named, foreign⟩

end Needs

/-- Texts in the order of their code points. -/
def CodePointOrder (left right : String) : Prop :=
  List.Lex (fun c d => c.toNat < d.toNat) left.toList right.toList

private theorem codePointOrder_iff_lt {left right : String} :
    CodePointOrder left right ↔ left < right :=
  Iff.rfl

def OfSystem (name : String) : Prop :=
  name = "System" ∨ "System.".toList <+: name.toList

theorem isSystem_iff {name : String} :
    isSystem name = true ↔ OfSystem name := by
  rw [isSystem, Bool.or_eq_true, beq_iff_eq, beginsWith_iff_prefix]
  rfl

private theorem pairwise_insertName
    {names : List String} (increasing : names.Pairwise (· < ·))
    (name : String) : (insertName name names).Pairwise (· < ·) := by
  induction names with
  | nil =>
      exact List.pairwise_singleton _ _
  | cons head rest inductionHypothesis =>
      rw [insertName]
      obtain ⟨least, others⟩ := List.pairwise_cons.1 increasing
      by_cases before : name < head
      · rw [if_pos before]
        refine List.pairwise_cons.2 ⟨?_, increasing⟩
        intro other member
        rcases List.mem_cons.1 member with rfl | later
        · exact before
        · exact before.trans (least other later)
      · by_cases same : name = head
        · rw [if_neg before, if_pos same]
          exact increasing
        · rw [if_neg before, if_neg same]
          refine List.pairwise_cons.2 ⟨?_, inductionHypothesis others⟩
          intro other member
          rcases mem_insertName.1 member with rfl | later
          · exact (not_lt.1 before).lt_of_ne (Ne.symm same)
          · exact least other later

private theorem pairwise_sortNames (names : List String) :
    (sortNames names).Pairwise (· < ·) := by
  induction names with
  | nil =>
      exact List.Pairwise.nil
  | cons head rest inductionHypothesis =>
      exact pairwise_insertName inductionHypothesis head

/-- A list of imports: what is needed and nothing else, each namespace once,
those of the system first, and either part in the order of code points. -/
structure IsImportList (needed : String → Prop) (names : List String) :
    Prop where
  mem_iff : ∀ name, name ∈ names ↔ needed name
  nodup : names.Nodup
  ordered :
    ∃ system others,
      names = system ++ others ∧
        (∀ name ∈ system, OfSystem name) ∧
        (∀ name ∈ others, ¬ OfSystem name) ∧
        system.Pairwise CodePointOrder ∧ others.Pairwise CodePointOrder

/-- Lists in order are known by their members. -/
private theorem eq_of_codePointOrder
    {left right : List String} (leftOrdered : left.Pairwise CodePointOrder)
    (rightOrdered : right.Pairwise CodePointOrder)
    (same : ∀ name, name ∈ left ↔ name ∈ right) : left = right := by
  have increasing : left.Pairwise (· < ·) :=
    leftOrdered.imp codePointOrder_iff_lt.1
  exact increasing.eq_of_mem_iff
    (rightOrdered.imp codePointOrder_iff_lt.1) same

/-- What tells two parts of a list apart finds the members of either. -/
theorem mem_parts_iff
    {P : String → Prop} {front back : List String}
    (holds : ∀ name ∈ front, P name) (fails : ∀ name ∈ back, ¬ P name)
    (name : String) :
    (name ∈ front ↔ name ∈ front ++ back ∧ P name) ∧
      (name ∈ back ↔ name ∈ front ++ back ∧ ¬ P name) := by
  have inFront := holds name
  have inBack := fails name
  rw [List.mem_append]
  constructor <;> tauto

/-- There is one list of imports for what is needed. -/
private theorem IsImportList.unique
    {needed : String → Prop} {left right : List String}
    (leftList : IsImportList needed left)
    (rightList : IsImportList needed right) : left = right := by
  obtain ⟨system, others, parts, ofSystem, foreign, ordered, ordered'⟩ :=
    leftList.ordered
  obtain ⟨system₁, others₁, parts₁, ofSystem₁, foreign₁, ordered₁, ordered₁'⟩ :=
    rightList.ordered
  have members := mem_parts_iff ofSystem foreign
  have members₁ := mem_parts_iff ofSystem₁ foreign₁
  rw [← parts] at members
  rw [← parts₁] at members₁
  have systems : system = system₁ := by
    apply eq_of_codePointOrder ordered ordered₁
    intro name
    rw [(members name).1, (members₁ name).1, leftList.mem_iff,
      rightList.mem_iff]
  have rest : others = others₁ := by
    apply eq_of_codePointOrder ordered' ordered₁'
    intro name
    rw [(members name).2, (members₁ name).2, leftList.mem_iff,
      rightList.mem_iff]
  rw [parts, parts₁, systems, rest]

private theorem IsImportList.congr
    {needed needed' : String → Prop} {names : List String}
    (imports : IsImportList needed names)
    (same : ∀ name, needed name ↔ needed' name) :
    IsImportList needed' names where
  mem_iff := fun name => (imports.mem_iff name).trans (same name)
  nodup := imports.nodup
  ordered := imports.ordered

private theorem isImportList_usings
    (types always : List String) (ownNamespace : String)
    (index : Model.NamespaceIndex) :
    IsImportList (Needs types always ownNamespace index)
      (usings types ownNamespace index always) := by
  have increasing :=
    pairwise_sortNames
      (always ++ types.flatMap (namespacesOf ownNamespace index))
  constructor
  · intro name
    exact mem_usings_iff_needs
  · rw [usings]
    refine List.nodup_append.2
      ⟨(increasing.filter _).nodup, (increasing.filter _).nodup, ?_⟩
    rintro name inSystem _ outside rfl
    simp_all
  · refine ⟨_, _, rfl, ?_, ?_, ?_, ?_⟩
    · intro name member
      exact isSystem_iff.1 (List.mem_filter.1 member).2
    · intro name member ofSystem
      have outside := (List.mem_filter.1 member).2
      rw [isSystem_iff.2 ofSystem] at outside
      cases outside
    · exact (increasing.filter _).imp codePointOrder_iff_lt.2
    · exact (increasing.filter _).imp codePointOrder_iff_lt.2

/-- The imports of a file are what it needs, in order and each once, and they
stay the same when types or namespaces are asked for in another order or
repeatedly. -/
theorem usings_listed_in_order
    (types always : List String) (ownNamespace : String)
    (index : Model.NamespaceIndex) :
    IsImportList (Needs types always ownNamespace index)
        (usings types ownNamespace index always) ∧
      ∀ types' always' : List String,
        (∀ typeText, typeText ∈ types' ↔ typeText ∈ types) →
        (∀ name, name ∈ always' ↔ name ∈ always) →
        usings types' ownNamespace index always' =
          usings types ownNamespace index always := by
  refine ⟨isImportList_usings types always ownNamespace index, ?_⟩
  intro types' always' sameTypes sameAlways
  have needs :
      ∀ name,
        Needs types' always' ownNamespace index name ↔
          Needs types always ownNamespace index name := by
    intro name
    constructor
    · apply Needs.mono
      · exact fun typeText => (sameTypes typeText).1
      · exact fun other => (sameAlways other).1
    · apply Needs.mono
      · exact fun typeText => (sameTypes typeText).2
      · exact fun other => (sameAlways other).2
  have imports := isImportList_usings types' always' ownNamespace index
  exact
    (imports.congr needs).unique
      (isImportList_usings types always ownNamespace index)

/-- Orders in a namespace of their own, asked for twice beside two namespaces
that begin with the same letters. -/
theorem usings_listed_in_order_orders :
    usings ["List<Order>", "DateTime", "List<Order>"] "Shop"
        (.ofList [("Order", "Shop.Orders")]) ["Systems", "System.Linq", "Systems"] =
      usings ["DateTime", "List<Order>"] "Shop"
        (.ofList [("Order", "Shop.Orders")]) ["System.Linq", "Systems"] ∧
    usings ["DateTime", "List<Order>"] "Shop"
        (.ofList [("Order", "Shop.Orders")]) ["System.Linq", "Systems"] =
      ["System", "System.Collections.Generic", "System.Linq", "Shop.Orders",
       "Systems"] := by
  refine ⟨?_, by decide +kernel⟩
  refine
    (usings_listed_in_order ["DateTime", "List<Order>"]
      ["System.Linq", "Systems"] "Shop"
      (.ofList [("Order", "Shop.Orders")])).2 _ _ ?_ ?_
  · intro typeText
    simp only [List.mem_cons, List.not_mem_nil]
    tauto
  · intro name
    simp only [List.mem_cons, List.not_mem_nil]
    tauto

end OpenApiSharp.CSharp
