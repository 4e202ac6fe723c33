import OpenApiSharp.Model.Declaration
import OpenApiSharp.Model.Inventory
import OpenApiSharp.Proofs.Document.Value
import OpenApiSharp.Proofs.Keyed
import OpenApiSharp.Proofs.Naming.Fresh

namespace OpenApiSharp.Model.NamespaceIndex

open Text

theorem contains_iff {index : NamespaceIndex} {name : String} :
    index.contains name = true ↔
      lower name ∈ index.entries.map Prod.fst :=
  Keyed.find?_isSome_iff

theorem entries_insertNew_of_not_mem
    {index : NamespaceIndex} {name : String}
    (absent : lower name ∉ index.entries.map Prod.fst)
    (namespaceName : String) :
    (index.insertNew name namespaceName).entries =
      index.entries ++ [(lower name, namespaceName)] := by
  rw [insertNew, if_neg (fun present => absent (contains_iff.1 present))]

/-- The invariant of filling an index: the entries so far and the names still
to come are distinct in any case. -/
private theorem entries_foldl_insertNew
    {index : NamespaceIndex} {names : List (String × String)}
    (distinct :
      (index.entries.map Prod.fst ++
        names.map fun entry => lower entry.1).Nodup) :
    (names.foldl (fun index entry => index.insertNew entry.1 entry.2)
        index).entries =
      index.entries ++ names.map fun entry => (lower entry.1, entry.2) := by
  induction names generalizing index with
  | nil =>
      simp
  | cons entry rest inductionHypothesis =>
      obtain ⟨name, namespaceName⟩ := entry
      have absent : lower name ∉ index.entries.map Prod.fst := by
        intro present
        exact (List.nodup_append.1 distinct).2.2 _ present _
          List.mem_cons_self rfl
      have added := entries_insertNew_of_not_mem absent namespaceName
      have restDistinct :
          ((index.insertNew name namespaceName).entries.map Prod.fst ++
            rest.map fun entry => lower entry.1).Nodup := by
        rw [added, List.map_append, List.append_assoc]
        exact distinct
      rw [List.foldl_cons, inductionHypothesis restDistinct, added,
        List.append_assoc]
      rfl

section OfList

variable {names : List (String × String)}
  (distinct : (names.map fun entry => lower entry.1).Nodup)

include distinct

theorem entries_ofList :
    (ofList names).entries =
      names.map fun entry => (lower entry.1, entry.2) :=
  @entries_foldl_insertNew {} names distinct

theorem size_ofList : (ofList names).size = names.length := by
  rw [size, entries_ofList distinct, List.length_map]

theorem lookup?_ofList
    {entry : String × String} (member : entry ∈ names) :
    (ofList names).lookup? entry.1 = some entry.2 := by
  rw [lookup?, entries_ofList distinct]
  apply Keyed.find?_eq_some_of_mem
  · rw [List.map_map]
    exact distinct
  · exact List.mem_map.2 ⟨entry, member, rfl⟩

end OfList

end OpenApiSharp.Model.NamespaceIndex

namespace OpenApiSharp.Model

open Document Naming

/-- What a descriptor takes over from its definition and its category. -/
structure Descriptor.Describes (descriptor : Descriptor) (config : Config)
    (definition : String × String × Value) : Prop where
  category : descriptor.category = definition.1
  sourceName : descriptor.sourceName = definition.2.1
  node : descriptor.node = definition.2.2
  kind : descriptor.kind = Schema.classify definition.2.2
  namespaceName :
    descriptor.namespaceName =
      modelNamespace config definition.1 (Schema.classify definition.2.2)

theorem inventory_describes
    (schemas : List (String × Value)) (config : Config) :
    List.Forall₂
      (fun definition descriptor =>
        descriptor.Describes config definition)
      (categorized schemas) (inventory schemas config) := by
  apply Related.zipWith_right
  · simp [modelNames]
  · rintro ⟨category, sourceName, node⟩ _ name _
    exact ⟨rfl, rfl, rfl, rfl, rfl⟩

theorem namespaceName_eq
    {schemas : List (String × Value)} {config : Config}
    {descriptor : Descriptor}
    (member : descriptor ∈ inventory schemas config) :
    descriptor.namespaceName =
      modelNamespace config descriptor.category descriptor.kind := by
  obtain ⟨definition, _, describes⟩ :=
    Related.exists_left_of_mem (inventory_describes schemas config) member
  rw [describes.namespaceName, describes.category, describes.kind]

/-- Sorting into categories keeps every definition, once. -/
theorem categorized_perm (schemas : List (String × Value)) :
    ((categorized schemas).map Prod.snd).Perm schemas := by
  have members :
      (categorized schemas).map Prod.snd =
        (categorizeAll schemas).flatMap Prod.snd := by
    simp only [categorized, List.map_flatMap, List.map_map,
      Function.comp_def, List.map_id']
  rw [members]
  exact Keyed.group_perm _ schemas

/-- The source names of the descriptors are the names of the definitions. -/
theorem inventory_sourceNames_perm
    (schemas : List (String × Value)) (config : Config) :
    ((inventory schemas config).map Descriptor.sourceName).Perm
      (schemas.map Prod.fst) := by
  have names :
      (inventory schemas config).map Descriptor.sourceName =
        ((categorized schemas).map Prod.snd).map Prod.fst := by
    rw [List.map_map]
    exact
      (Related.map_eq
        (fun _ _ describes => describes.sourceName.symm)
        (inventory_describes schemas config)).symm
  rw [names]
  exact (categorized_perm schemas).map Prod.fst

/-- The node of a descriptor is that of the definition with its name. -/
theorem mem_schemas_of_mem_inventory
    {schemas : List (String × Value)} {config : Config}
    {descriptor : Descriptor}
    (member : descriptor ∈ inventory schemas config) :
    (descriptor.sourceName, descriptor.node) ∈ schemas := by
  obtain ⟨definition, definitionMember, describes⟩ :=
    Related.exists_left_of_mem (inventory_describes schemas config) member
  rw [describes.sourceName, describes.node]
  exact (categorized_perm schemas).mem_iff.1
    (List.mem_map_of_mem definitionMember)

/-- Descriptors that differ at most in their nodes, which are related. -/
structure Descriptor.Twin (R : String → Value → Value → Prop)
    (left right : Descriptor) : Prop where
  name : left.name = right.name
  kind : left.kind = right.kind
  category : left.category = right.category
  namespaceName : left.namespaceName = right.namespaceName
  sourceName : left.sourceName = right.sourceName
  node : R left.sourceName left.node right.node

section Relations

variable {R : String → Value → Value → Prop}
  {schemas schemas' : List (String × Value)}

private theorem categorized_related
    (related : List.Forall₂ (Keyed.RelatedEntries R) schemas schemas') :
    List.Forall₂
      (fun left right =>
        left.1 = right.1 ∧ Keyed.RelatedEntries R left.2 right.2)
      (categorized schemas) (categorized schemas') := by
  have groups :
      List.Forall₂
        (Keyed.RelatedEntries fun _ =>
          List.Forall₂ (Keyed.RelatedEntries R))
        (categorizeAll schemas) (categorizeAll schemas') :=
    Keyed.group_related (fun _ _ sameEntry => by rw [sameEntry.1]) related
  refine List.rel_flatMap groups ?_
  rintro ⟨category, members⟩ ⟨category', members'⟩ ⟨keys, grouped⟩
  cases keys
  rw [List.forall₂_map_left_iff, List.forall₂_map_right_iff]
  exact grouped.imp fun left right sameEntry => ⟨rfl, sameEntry⟩

/-- The inventory knows a definition only through its name and its kind: where
these agree, the descriptors agree in all but their nodes. -/
theorem inventory_twins
    (sameKind : ∀ name node node', R name node node' →
      Schema.classify node = Schema.classify node')
    (related : List.Forall₂ (Keyed.RelatedEntries R) schemas schemas')
    (config : Config) :
    List.Forall₂ (Descriptor.Twin R)
      (inventory schemas config) (inventory schemas' config) := by
  have definitions := categorized_related related
  have sourceNames :
      (categorized schemas).map (fun definition => definition.2.1) =
        (categorized schemas').map fun definition => definition.2.1 :=
    Related.map_eq (fun _ _ heads => heads.2.1) definitions
  rw [inventory, inventory, ← sourceNames]
  refine Related.zipWith_same ?_ definitions _
  rintro ⟨category, sourceName, node⟩ ⟨category', sourceName', node'⟩ name
    ⟨categories, names, nodes⟩
  cases categories
  cases names
  have kinds := sameKind sourceName node node' nodes
  exact
    { name := rfl
      kind := kinds
      category := rfl
      namespaceName := congrArg (modelNamespace config category) kinds
      sourceName := rfl
      node := nodes }

/-- Twin descriptors have the same index and the same renamings. -/
theorem indexOf_twins
    {descriptors descriptors' : List Descriptor}
    (twins : List.Forall₂ (Descriptor.Twin R) descriptors descriptors') :
    indexOf descriptors = indexOf descriptors' := by
  rw [indexOf, indexOf]
  congr 1
  exact
    Related.map_eq
      (fun _ _ twin => by rw [twin.name, twin.namespaceName]) twins

theorem renamings_twins
    {descriptors descriptors' : List Descriptor}
    (twins : List.Forall₂ (Descriptor.Twin R) descriptors descriptors') :
    renamings descriptors = renamings descriptors' :=
  Related.flatMap_eq
    (fun left right twin => by
      rw [Descriptor.renaming, Descriptor.renaming, twin.name,
        twin.sourceName])
    twins

private theorem mapM_isOk
    {ε α β : Type} {f : α → Except ε β} {elements : List α}
    (each : ∀ element ∈ elements, ∃ result, f element = .ok result) :
    ∃ results, elements.mapM f = .ok results := by
  induction elements with
  | nil =>
      exact ⟨[], rfl⟩
  | cons element rest inductionHypothesis =>
      obtain ⟨result, computed⟩ := each element List.mem_cons_self
      obtain ⟨results, restComputed⟩ :=
        inductionHypothesis fun later member =>
          each later (List.mem_cons_of_mem _ member)
      exact
        ⟨result :: results, by
          rw [List.mapM_cons, computed, restComputed]; rfl⟩

def enumEntries (definition : Value) : List Value :=
  ((definition.get? "enum").map Value.elements).getD []

private theorem enumTexts_isOk
    {definition : Value}
    (texts : ∀ entry ∈ enumEntries definition,
      ∃ content, entry.asText = .ok content) :
    ∃ contents, enumTexts definition = .ok contents := by
  obtain ⟨contents, written⟩ := mapM_isOk texts
  refine ⟨contents.filter fun text => !Text.allBlank text, ?_⟩
  rw [enumEntries] at written
  simp only [enumTexts, written]
  rfl

private theorem isJson_of_mem_enumEntries
    {definition entry : Value} (json : definition.isJson = true)
    (member : entry ∈ enumEntries definition) : entry.isJson = true := by
  cases found : definition.get? "enum" with
  | none =>
      simp [enumEntries, found] at member
  | some declared =>
      simp only [enumEntries, found, Option.map_some,
        Option.getD_some] at member
      exact
        Value.isJson_of_mem_elements
          (Value.isJson_of_get? json found) member

end Relations

namespace Descriptor

open CSharp

variable {descriptor : Descriptor} {index : NamespaceIndex}

/-- What the body of a model is made of, by its kind. -/
inductive Builds (descriptor : Descriptor) (index : NamespaceIndex) :
    Body → Prop where
  | enumeration {texts : List String} (kind : descriptor.kind = .enumeration)
      (written : enumTexts descriptor.node = .ok texts) :
      Builds descriptor index
        (.enumeration (enumMembers descriptor.name texts))
  | record (kind : descriptor.kind = .record) :
      Builds descriptor index
        (.record
          (usings
            ((recordFields descriptor.name descriptor.node).map (·.typeText))
            descriptor.namespaceName index [jsonNamespace])
          (recordFields descriptor.name descriptor.node))
  | wrapper (kind : descriptor.kind = .wrapper) :
      Builds descriptor index
        (.wrapper
          (usings [Schema.typeText descriptor.node] descriptor.namespaceName
            index [jsonNamespace])
          (Schema.typeText descriptor.node)
          (memberIdentifier "Value" descriptor.name []))
  | fallback (kind : descriptor.kind = .fallback) :
      Builds descriptor index (.fallback [jsonNamespace])

theorem body_eq_ok_iff {body : Body} :
    descriptor.body index = .ok body ↔ descriptor.Builds index body := by
  constructor
  · intro built
    cases kind : descriptor.kind with
    | enumeration =>
        cases written : enumTexts descriptor.node with
        | error fault =>
            simp only [Descriptor.body, kind, written] at built
            cases built
        | ok texts =>
            simp only [Descriptor.body, kind, written] at built
            cases built
            exact .enumeration kind written
    | record =>
        simp only [Descriptor.body, kind] at built
        cases built
        exact .record kind
    | wrapper =>
        simp only [Descriptor.body, kind] at built
        cases built
        exact .wrapper kind
    | fallback =>
        simp only [Descriptor.body, kind] at built
        cases built
        exact .fallback kind
  · intro builds
    cases builds with
    | enumeration kind written =>
        simp only [Descriptor.body, kind, written]
        rfl
    | record kind => simp only [Descriptor.body, kind]
    | wrapper kind => simp only [Descriptor.body, kind]
    | fallback kind => simp only [Descriptor.body, kind]

theorem declaration_eq_ok_iff {declaration : Declaration} :
    descriptor.declaration index = .ok declaration ↔
      ∃ body, descriptor.Builds index body ∧
        declaration =
          { name := descriptor.name
            namespaceName := descriptor.namespaceName
            summary := summaryBlock (Schema.description descriptor.node)
            body } := by
  simp only [← body_eq_ok_iff, Descriptor.declaration]
  cases descriptor.body index with
  | error fault => simp [bind, Except.bind]
  | ok body => simp [bind, Except.bind, pure, Except.pure, eq_comm]

end Descriptor

/-- A definition without an enumeration always has a declaration, and one with
an enumeration has one if its entries have texts. -/
private theorem Descriptor.declaration_isOk
    {descriptor : Descriptor} (index : NamespaceIndex)
    (texts : descriptor.kind = .enumeration →
      ∀ entry ∈ enumEntries descriptor.node,
        ∃ content, entry.asText = .ok content) :
    ∃ declaration, descriptor.declaration index = .ok declaration := by
  have builds : ∃ body, descriptor.Builds index body := by
    cases kind : descriptor.kind with
    | enumeration =>
        obtain ⟨contents, written⟩ := enumTexts_isOk (texts kind)
        exact ⟨_, .enumeration kind written⟩
    | record => exact ⟨_, .record kind⟩
    | wrapper => exact ⟨_, .wrapper kind⟩
    | fallback => exact ⟨_, .fallback kind⟩
  obtain ⟨body, builds⟩ := builds
  exact ⟨_, Descriptor.declaration_eq_ok_iff.2 ⟨body, builds, rfl⟩⟩

theorem Descriptor.declaration_isOk_of_isJson
    {descriptor : Descriptor} (index : NamespaceIndex)
    (json : descriptor.node.isJson = true) :
    ∃ declaration, descriptor.declaration index = .ok declaration :=
  descriptor.declaration_isOk index fun _ _ member =>
    Value.asText_isOk (isJson_of_mem_enumEntries json member)

end OpenApiSharp.Model
