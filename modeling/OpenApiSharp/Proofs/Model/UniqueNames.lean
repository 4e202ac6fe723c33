import OpenApiSharp.Proofs.Model.Inventory
import OpenApiSharp.Proofs.Naming.Fresh
import OpenApiSharp.Proofs.Naming.Segment

namespace OpenApiSharp.Model

open Document Naming Text

variable (schemas : List (String × Value)) (config : Config)

private theorem inventory_names :
    (inventory schemas config).map Descriptor.name =
      modelNames ((inventory schemas config).map Descriptor.sourceName) := by
  have sourceNames :
      (inventory schemas config).map Descriptor.sourceName =
        (categorized schemas).map fun definition => definition.2.1 :=
    (Related.map_eq (fun _ _ describes => describes.sourceName.symm)
      (inventory_describes schemas config)).symm
  rw [sourceNames, inventory]
  apply Related.map_zipWith_eq_right
  · intro definition name
    rfl
  · simp [modelNames]

variable {schemas config}

/-- The name of a descriptor is chosen in view of the descriptors before it. -/
theorem name_eq_uniqueName
    {front back : List Descriptor} {descriptor : Descriptor}
    (parts : inventory schemas config = front ++ descriptor :: back) :
    descriptor.name =
      uniqueNameIgnoringCase (typeName descriptor.sourceName)
        (front.reverse.map fun earlier => lower earlier.name) := by
  have names := inventory_names schemas config
  rw [parts, modelNames, List.map_append, List.map_append,
    assign_append] at names
  obtain ⟨fronts, backs⟩ := List.append_inj names (by simp)
  rw [List.map_cons, List.map_cons, assign, ← fronts,
    List.append_nil] at backs
  rw [(List.cons.inj backs).1, ← List.map_reverse, List.map_map]
  rfl

/-- A descriptor has the name of its definition exactly if no descriptor before
it has that name in any case. -/
theorem name_eq_typeName_iff
    {front back : List Descriptor} {descriptor : Descriptor}
    (parts : inventory schemas config = front ++ descriptor :: back) :
    descriptor.name = typeName descriptor.sourceName ↔
      ∀ earlier ∈ front,
        lower earlier.name ≠ lower (typeName descriptor.sourceName) := by
  rw [name_eq_uniqueName parts, uniqueNameIgnoringCase_eq_self_iff]
  simp

theorem name_eq_typeName_or_numbered
    {descriptor : Descriptor}
    (member : descriptor ∈ inventory schemas config) :
    descriptor.name = typeName descriptor.sourceName ∨
      ∃ counter, 0 < counter ∧
        descriptor.name =
          typeName descriptor.sourceName ++ toString counter := by
  obtain ⟨front, back, parts⟩ := List.append_of_mem member
  rw [name_eq_uniqueName parts]
  exact firstFree_eq _ _ _

/-- What holds of all type names, with and without a counter, holds of the names
of models. -/
theorem name_induction
    (P : String → Prop) (own : ∀ raw, P (typeName raw))
    (counted : ∀ name (counter : Nat), P name → P (name ++ toString counter))
    {descriptor : Descriptor}
    (member : descriptor ∈ inventory schemas config) : P descriptor.name := by
  rcases name_eq_typeName_or_numbered member with same | ⟨counter, _, equal⟩
  · rw [same]
    exact own descriptor.sourceName
  · rw [equal]
    exact counted _ counter (own descriptor.sourceName)

theorem isTypeName_name
    {descriptor : Descriptor}
    (member : descriptor ∈ inventory schemas config) :
    IsTypeName descriptor.name :=
  name_induction IsTypeName isTypeName_typeName
    (fun _ counter named => named.append_counter counter) member

theorem namespaceName_ne_empty
    {descriptor : Descriptor}
    (member : descriptor ∈ inventory schemas config) :
    descriptor.namespaceName ≠ "" := by
  rw [namespaceName_eq member, modelNamespace]
  intro empty
  have lists := congrArg String.toList empty
  simp at lists

variable (schemas config)

/-- No two descriptors have the same name in any case. -/
theorem nodup_lower_names :
    ((inventory schemas config).map
      fun descriptor => lower descriptor.name).Nodup := by
  have fresh :=
    assign_fresh
      (fun sourceName used =>
        lower_uniqueNameIgnoringCase_not_mem (typeName sourceName)
          (used.map lower))
      [] ((inventory schemas config).map Descriptor.sourceName)
  have names := inventory_names schemas config
  rw [modelNames] at names
  rw [← names, List.map_map] at fresh
  exact fresh.1

private theorem distinct_index_names :
    (((inventory schemas config).map fun descriptor =>
      (descriptor.name, descriptor.namespaceName)).map
        fun entry => lower entry.1).Nodup := by
  rw [List.map_map]
  exact nodup_lower_names schemas config

variable {schemas config}

theorem entries_indexOf
    {descriptors : List Descriptor}
    (distinct :
      (descriptors.map fun descriptor => lower descriptor.name).Nodup) :
    (indexOf descriptors).entries =
      descriptors.map fun descriptor =>
        (lower descriptor.name, descriptor.namespaceName) := by
  rw [indexOf, NamespaceIndex.entries_ofList
    (by rw [List.map_map]; exact distinct), List.map_map]
  rfl

/-- The index gives only the namespaces of its descriptors. -/
theorem exists_namespaceName_of_lookup?
    {name found : String}
    (looked :
      (indexOf (inventory schemas config)).lookup? name = some found) :
    ∃ descriptor ∈ inventory schemas config,
      descriptor.namespaceName = found := by
  rw [NamespaceIndex.lookup?,
    entries_indexOf (nodup_lower_names schemas config)] at looked
  obtain ⟨key, _, entry⟩ := Keyed.mem_of_find?_eq_some looked
  obtain ⟨descriptor, member, same⟩ := List.mem_map.1 entry
  exact ⟨descriptor, member, (Prod.mk.inj same).2⟩

theorem lookup?_indexOf_inventory
    {descriptor : Descriptor}
    (member : descriptor ∈ inventory schemas config) :
    (indexOf (inventory schemas config)).lookup? descriptor.name =
      some descriptor.namespaceName := by
  have entry :
      (descriptor.name, descriptor.namespaceName) ∈
        (inventory schemas config).map fun descriptor =>
          (descriptor.name, descriptor.namespaceName) :=
    List.mem_map.2 ⟨descriptor, member, rfl⟩
  have found :=
    NamespaceIndex.lookup?_ofList (distinct_index_names schemas config) entry
  exact found

variable (schemas config)

/-- The definitions category by category, in the order in which the categories
first appear, and in document order within each of them. -/
def regrouped (schemas : List (String × Value)) :
    List (String × String × Value) :=
  let categories :=
    (schemas.map fun definition => categorize definition.1).eraseDups
  categories.flatMap fun category =>
    (schemas.filter fun definition =>
      categorize definition.1 == category).map fun definition =>
        (category, definition)

theorem categorized_eq_regrouped : categorized schemas = regrouped schemas := by
  rw [categorized, categorizeAll, Keyed.group, List.flatMap_map]
  rfl

theorem inventory_regroups :
    ((inventory schemas config).map fun descriptor =>
      (descriptor.category, descriptor.sourceName, descriptor.node)) =
      regrouped schemas := by
  have definitions :
      (inventory schemas config).map (fun descriptor =>
        (descriptor.category, descriptor.sourceName, descriptor.node)) =
        (categorized schemas).map id :=
    (Related.map_eq
      (fun definition descriptor describes => by
        rw [describes.category, describes.sourceName, describes.node]
        rfl)
      (inventory_describes schemas config)).symm
  rw [definitions, List.map_id, categorized_eq_regrouped]

/-- The remark on a definition that is emitted under another name. -/
def Descriptor.renameWarning (descriptor : Descriptor) : Diagnostic where
  level := .warning
  item := descriptor.sourceName
  message :=
    "type name " ++ typeName descriptor.sourceName ++
      " already used, emitted as " ++ descriptor.name

/-- Exactly the descriptors whose name is not that of their definition give
rise to a remark, one each. -/
private theorem renamings_eq_map (descriptors : List Descriptor) :
    renamings descriptors =
      (descriptors.filter fun descriptor =>
        descriptor.name ≠ typeName descriptor.sourceName).map
          Descriptor.renameWarning := by
  induction descriptors with
  | nil => rfl
  | cons descriptor rest inductionHypothesis =>
      rw [renamings, List.flatMap_cons, ← renamings, inductionHypothesis]
      by_cases kept : descriptor.name = typeName descriptor.sourceName
      · simp [Descriptor.renaming, kept]
      · simp [Descriptor.renaming, Descriptor.renameWarning, kept]

/-- What holds of the descriptors of some definitions, of the index of their
namespaces, and of the report before and after they are made. -/
structure InventoryInvariant
    (schemas : List (String × Value)) (descriptors : List Descriptor)
    (index : NamespaceIndex) (before after : Report) : Prop where
  /-- There is one descriptor for each definition. -/
  sources :
    (descriptors.map fun descriptor =>
      (descriptor.sourceName, descriptor.node)).Perm schemas
  order :
    (descriptors.map fun descriptor =>
      (descriptor.category, descriptor.sourceName, descriptor.node)) =
      regrouped schemas
  distinct : (descriptors.map fun descriptor => lower descriptor.name).Nodup
  names :
    ∀ descriptor ∈ descriptors,
      descriptor.name = typeName descriptor.sourceName ∨
        ∃ counter, 0 < counter ∧
          descriptor.name =
            typeName descriptor.sourceName ++ toString counter
  frozen : index.frozen = true
  size : index.size = descriptors.length
  lookup :
    ∀ descriptor ∈ descriptors,
      index.lookup? descriptor.name = some descriptor.namespaceName
  artifacts : after.artifacts = before.artifacts
  diagnostics :
    after.diagnostics =
      before.diagnostics ++
        (descriptors.filter fun descriptor =>
          descriptor.name ≠ typeName descriptor.sourceName).map
            Descriptor.renameWarning

/-- Whatever the definitions are called, the inventory has one descriptor for
each of them, with names distinct in any case that the index knows, and one
remark for each name that had to change. -/
theorem inventory_invariant (report : Report) :
    InventoryInvariant schemas (inventory schemas config)
      (indexOf (inventory schemas config)) report
      (report.note (renamings (inventory schemas config))) where
  sources := by
    have perm := categorized_perm schemas
    rw [categorized_eq_regrouped, ← inventory_regroups schemas config,
      List.map_map] at perm
    exact perm
  order := inventory_regroups schemas config
  distinct := nodup_lower_names schemas config
  names := fun _ => name_eq_typeName_or_numbered
  frozen := rfl
  size := by
    rw [indexOf,
      NamespaceIndex.size_ofList (distinct_index_names schemas config),
      List.length_map]
  lookup := fun _ => lookup?_indexOf_inventory
  artifacts := rfl
  diagnostics := by
    rw [← renamings_eq_map]
    rfl

end OpenApiSharp.Model

namespace OpenApiSharp.Schema

open Document Naming

private theorem lastSegment_append_slash
    (front : String) {segment : String} (whole : '/' ∉ segment.toList) :
    lastSegment (front ++ "/" ++ segment) = segment := by
  have noSlash : ∀ c ∈ segment.toList.reverse, (c != '/') = true := by
    intro c member
    rw [bne_iff_ne]
    rintro rfl
    exact whole (List.mem_reverse.1 member)
  have slash : "/".toList = ['/'] := rfl
  rw [lastSegment, String.toList_append, String.toList_append, slash,
    List.reverse_append, List.reverse_append,
    List.takeWhile_append_of_pos noSlash]
  simp

/-- A pointer names what its last segment makes as a type name. -/
private theorem referenceName_append_slash
    (front : String) {segment : String} (whole : '/' ∉ segment.toList) :
    referenceName (front ++ "/" ++ segment) = typeName segment := by
  have filled : (front ++ "/" ++ segment).isEmpty = false := by
    rw [String.isEmpty_eq_false_iff]
    intro empty
    have lists := congrArg String.toList empty
    simp at lists
  rw [referenceName, filled, if_neg Bool.false_ne_true,
    lastSegment_append_slash front whole]

/-- A schema with a reference is of the type that the reference names, whatever
else stands in it. -/
private theorem typeText_of_reference
    {schema : Value} {pointer : String}
    (refers : schema.getText? "$ref" = some pointer) :
    typeText schema = referenceName pointer := by
  cases schema with
  | map entries =>
      rw [typeText, resolve, refers]
      rfl
  | _ => cases refers

/-- A schema that refers to the definition under a key. -/
def referenceTo (key : String) : Value :=
  .map [(.text "$ref", Value.text ("#/definitions/" ++ key))]

private theorem typeText_referenceTo {key : String} (whole : '/' ∉ key.toList) :
    typeText (referenceTo key) = typeName key := by
  have refers :
      (referenceTo key).getText? "$ref" = some ("#/definitions/" ++ key) :=
    rfl
  have split : "#/definitions/" = "#/definitions" ++ "/" := by
    decide
  rw [typeText_of_reference refers, split,
    referenceName_append_slash _ whole]

end OpenApiSharp.Schema

namespace OpenApiSharp.Model

open Document Naming Text

theorem renaming_eq_nil_iff (descriptor : Descriptor) :
    descriptor.renaming = [] ↔
      descriptor.name = typeName descriptor.sourceName := by
  by_cases kept : descriptor.name = typeName descriptor.sourceName
  · simp [Descriptor.renaming, kept]
  · simp [Descriptor.renaming, kept]

/-- Making a type name is a retraction onto the texts that can name a type, and a
reference to the name of a descriptor gives that name back, as does one to the
key of a definition that is not renamed. -/
structure TypeNamesRetract : Prop where
  legal : ∀ raw, IsTypeName (typeNameOf raw)
  kept : ∀ text, IsTypeName text → typeNameOf (some text) = text
  idempotent : ∀ raw, typeNameOf (some (typeNameOf raw)) = typeNameOf raw
  range : Set.range typeNameOf = {text | IsTypeName text}
  named :
    ∀ schemas config, ∀ descriptor ∈ inventory schemas config, ∀ front,
      Schema.referenceName (front ++ "/" ++ descriptor.name) = descriptor.name
  unrenamed :
    ∀ schemas config, ∀ descriptor ∈ inventory schemas config,
      descriptor.renaming = [] → '/' ∉ descriptor.sourceName.toList → ∀ front,
        Schema.referenceName (front ++ "/" ++ descriptor.sourceName) =
          descriptor.name

theorem typeNames_retract : TypeNamesRetract where
  legal raw := isTypeName_typeName (raw.getD "")
  kept _ named := named.typeName_eq
  idempotent raw := typeName_typeName (raw.getD "")
  range := range_typeNameOf
  named := by
    intro schemas config descriptor member front
    have named := isTypeName_name member
    rw [Schema.referenceName_append_slash front named.slash_not_mem,
      named.typeName_eq]
  unrenamed := by
    intro schemas config descriptor member unremarked whole front
    rw [Schema.referenceName_append_slash front whole]
    exact ((renaming_eq_nil_iff descriptor).1 unremarked).symm

/-- How a reference to the definition under a key relates to the descriptor that
the inventory makes for it. -/
structure ReferenceResolves
    (schemas : List (String × Value)) (config : Config) (key : String) :
    Prop where
  resolved : Schema.typeText (Schema.referenceTo key) = typeName key
  described :
    ∃ descriptor ∈ inventory schemas config, descriptor.sourceName = key
  /-- They agree exactly if no descriptor in front has the name in any case. -/
  agrees :
    ∀ front descriptor back,
      inventory schemas config = front ++ descriptor :: back →
      descriptor.sourceName = key →
        (Schema.typeText (Schema.referenceTo key) = descriptor.name ↔
          ∀ earlier ∈ front, lower earlier.name ≠ lower (typeName key))
  unremarked :
    ∀ descriptor ∈ inventory schemas config,
      descriptor.sourceName = key →
        (Schema.typeText (Schema.referenceTo key) = descriptor.name ↔
          descriptor.renaming = [])

/-- A reference to a definition has the name that the key of the definition
makes.  This is the name of its descriptor exactly if no descriptor before it
has that name in any case, which is to say that the definition is not
renamed. -/
theorem reference_eq_name_iff
    (schemas : List (String × Value)) (config : Config) {key : String}
    (defined : key ∈ schemas.map Prod.fst) (whole : '/' ∉ key.toList) :
    ReferenceResolves schemas config key where
  resolved := Schema.typeText_referenceTo whole
  described := by
    have named :=
      (inventory_sourceNames_perm schemas config).mem_iff.2 defined
    exact List.mem_map.1 named
  agrees := by
    rintro front descriptor back parts rfl
    rw [Schema.typeText_referenceTo whole, eq_comm]
    exact name_eq_typeName_iff parts
  unremarked := by
    rintro descriptor member rfl
    rw [Schema.typeText_referenceTo whole, renaming_eq_nil_iff, eq_comm]

def caseTwins : List (String × Value) :=
  [("Order", .map [(.text "type", .text "string")]),
   ("order", .map [(.text "type", .text "integer")])]

private theorem caseTwins_names :
    (inventory caseTwins {}).map (fun descriptor =>
      (descriptor.sourceName, descriptor.name)) =
      [("Order", "Order"), ("order", "order1")] := by
  decide +kernel

theorem reference_eq_name_iff_order :
    "order" ∈ caseTwins.map Prod.fst ∧ '/' ∉ "order".toList ∧
      ReferenceResolves caseTwins {} "order" :=
  ⟨by decide, by decide,
    reference_eq_name_iff caseTwins {} (by decide) (by decide)⟩

/-- The second of the two gets another name, and a reference to it has the name
of the first. -/
theorem reference_to_renamed_definition :
    "order" ∈ caseTwins.map Prod.fst ∧
      (∀ c ∈ ['/', '~', '%'], c ∉ "order".toList) ∧
      ∃ descriptor ∈ inventory caseTwins {},
        descriptor.sourceName = "order" ∧
          Schema.typeText (Schema.referenceTo "order") ≠ descriptor.name := by
  have present :
      ("order", "order1") ∈ (inventory caseTwins {}).map fun descriptor =>
        (descriptor.sourceName, descriptor.name) := by
    rw [caseTwins_names]
    decide
  obtain ⟨descriptor, member, equal⟩ := List.mem_map.1 present
  obtain ⟨source, name⟩ := Prod.mk.inj equal
  refine ⟨by decide, List.all_iff_forall_prop.1 (by decide), descriptor,
    member, source, ?_⟩
  rw [name, Schema.typeText_referenceTo (by decide)]
  decide +kernel

end OpenApiSharp.Model
