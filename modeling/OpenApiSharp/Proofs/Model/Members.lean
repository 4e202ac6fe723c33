import OpenApiSharp.Proofs.Model.Inventory
import OpenApiSharp.Proofs.Model.UniqueNames
import OpenApiSharp.Proofs.Naming.Member
import OpenApiSharp.Proofs.Related

/-!
# Members of models

A record has one field for each property of its definition, and an enumeration
has one member for each entry that is not blank.  The members of one type are
distinct.  None of them has the name of the type, unless counting leads a field
of a record back to it.
-/

namespace OpenApiSharp.Model

open Document Naming Text CSharp

/-- A name that a member gets: its own, or its own with a counter. -/
def NamedAfter (raw owner name : String) : Prop :=
  name = escapeIdentifier (memberNameWithin raw owner) ∨
    ∃ counter, 0 < counter ∧
      name = numbered (escapeIdentifier (memberNameWithin raw owner)) counter

private theorem namedAfter_memberIdentifier
    (raw owner : String) (used : List String) :
    NamedAfter raw owner (memberIdentifier raw owner used) := by
  rw [memberIdentifier_eq_uniqueName]
  exact firstFree_eq _ _ _

/-- The properties that a definition declares: none unless they are the entries
of a mapping. -/
def propertyEntries (definition : Value) : List (Scalar × Value) :=
  match definition.get? "properties" with
  | some (.map entries) => entries
  | _ => []

private theorem properties_eq_map (definition : Value) :
    properties definition =
      (propertyEntries definition).map fun entry =>
        (entry.1.label, entry.2) := by
  rw [properties, propertyEntries]
  cases definition.get? "properties" with
  | none => rfl
  | some declared => cases declared <;> rfl

/-- What a field says about the property that it stands for, in a record with a
name and a definition. -/
structure Field.StandsFor
    (owner : String) (definition : Value) (entry : Scalar × Value)
    (field : Field) : Prop where
  name : NamedAfter entry.1.label owner field.name
  jsonName : field.jsonName = literal entry.1.label
  typeText : field.typeText = Schema.typeText entry.2
  required :
    field.required = Schema.isRequired entry.2 entry.1.label definition
  summary : field.summary = summaryBlock (Schema.description entry.2)

theorem recordFields_standFor (owner : String) (definition : Value) :
    List.Forall₂ (Field.StandsFor owner definition)
      (propertyEntries definition) (recordFields owner definition) := by
  have named :
      List.Forall₂ (fun raw name => NamedAfter raw owner name)
        ((properties definition).map Prod.fst)
        (assign (fun raw used => memberIdentifier raw owner used) []
          ((properties definition).map Prod.fst)) :=
    assign_forall₂
      (fun raw used => namedAfter_memberIdentifier raw owner used) [] _
  rw [List.forall₂_map_left_iff] at named
  have standFor :
      List.Forall₂
        (fun property field =>
          ∀ entry : Scalar × Value, (entry.1.label, entry.2) = property →
            Field.StandsFor owner definition entry field)
        (properties definition) (recordFields owner definition) := by
    refine Related.zipWith_of_related ?_ named
    rintro property name chosen entry rfl
    exact ⟨chosen, rfl, rfl, rfl, rfl⟩
  rw [properties_eq_map, List.forall₂_map_left_iff] at standFor
  exact standFor.imp fun entry field stands => stands entry rfl

theorem map_name_recordFields (owner : String) (definition : Value) :
    (recordFields owner definition).map Field.name =
      assign (fun entry used => memberIdentifier entry.1.label owner used) []
        (propertyEntries definition) := by
  have names :
      (recordFields owner definition).map Field.name =
        assign (fun raw used => memberIdentifier raw owner used) []
          ((properties definition).map Prod.fst) := by
    apply Related.map_zipWith_eq_right
    · intro property name
      rfl
    · simp
  rw [names, properties_eq_map, List.map_map, assign_map]
  rfl

private theorem mapM_eq_ok
    {ε α β : Type} {f : α → Except ε β} {elements : List α}
    {results : List β}
    (computed : List.Forall₂ (fun element result => f element = .ok result)
      elements results) : elements.mapM f = .ok results := by
  induction computed with
  | nil => rfl
  | cons head _ inductionHypothesis =>
      rw [List.mapM_cons, head, inductionHypothesis]
      rfl

def hasVisibleChar (text : String) : Bool :=
  text.toList.any fun c => !isBlank c

private theorem enumTexts_eq_ok
    {definition : Value} {texts : List String}
    (written : List.Forall₂ (fun entry text => entry.asText = .ok text)
      (enumEntries definition) texts) :
    enumTexts definition = .ok (texts.filter hasVisibleChar) := by
  have computed := mapM_eq_ok written
  have visible :
      (fun text : String => !allBlank text) = hasVisibleChar := by
    funext text
    rw [allBlank, hasVisibleChar, List.all_eq_not_any_not, Bool.not_not]
  rw [enumEntries] at computed
  simp only [enumTexts, computed, visible]
  rfl

private theorem enumMembers_named (owner : String) (texts : List String) :
    List.Forall₂
      (fun text member => NamedAfter (enumMemberName text) owner member)
      texts (enumMembers owner texts) := by
  refine assign_forall₂ ?_ [] texts
  intro text used
  exact namedAfter_memberIdentifier (enumMemberName text) owner used

@[simp]
theorem memberLines_cons_cons
    (value : Nat) (member next : String) (others : List String) :
    memberLines value (member :: next :: others) =
      indented (member ++ " = " ++ toString value ++ ",") ::
        memberLines (value + 1) (next :: others) :=
  rfl

@[simp]
theorem length_memberLines (value : Nat) (members : List String) :
    (memberLines value members).length = members.length := by
  induction members generalizing value with
  | nil => rfl
  | cons member rest inductionHypothesis =>
      cases rest with
      | nil => rfl
      | cons next others =>
          rw [memberLines_cons_cons, List.length_cons, inductionHypothesis]
          rfl

private theorem getElem?_memberLines
    {members : List String} {place : Nat} {member : String}
    (value : Nat) (found : members[place]? = some member) :
    ∃ comma ∈ ["", ","],
      (memberLines value members)[place]? =
        some (indented
          (member ++ " = " ++ toString (value + place) ++ comma)) := by
  induction members generalizing value place with
  | nil => cases found
  | cons first rest inductionHypothesis =>
      cases rest with
      | nil =>
          cases place with
          | zero =>
              cases found
              exact ⟨"", by simp, by rw [String.append_empty]; rfl⟩
          | succ place => cases found
      | cons next others =>
          rw [memberLines_cons_cons]
          cases place with
          | zero =>
              cases found
              exact ⟨",", by simp, rfl⟩
          | succ place =>
              rw [List.getElem?_cons_succ] at found
              obtain ⟨comma, either, line⟩ :=
                inductionHypothesis (value + 1) found
              refine ⟨comma, either, ?_⟩
              rw [List.getElem?_cons_succ, line, Nat.add_right_comm,
                Nat.add_assoc]

/-- The lines of an enumeration, of which each gives a member the number of its
place. -/
structure NumberedInOrder (members lines : List String) : Prop where
  length : lines.length = members.length
  values :
    ∀ (value : Nat) (member : String), members[value]? = some member →
      ∃ comma ∈ ["", ","],
        lines[value]? =
          some (indented (member ++ " = " ++ toString value ++ comma))

private theorem numberedInOrder_memberLines (members : List String) :
    NumberedInOrder members (memberLines 0 members) where
  length := length_memberLines 0 members
  values := by
    intro value member found
    have line := getElem?_memberLines 0 found
    rw [Nat.zero_add] at line
    exact line

/-- A record declares one field for each property, and an enumeration whose
entries have texts one member for each text that is not blank, numbered from zero
on.  In either case the members are distinct, also as identifiers. -/
theorem Descriptor.declares_members
    (descriptor : Descriptor) (index : NamespaceIndex) :
    (descriptor.kind = .record →
      ∃ usings fields, descriptor.body index = .ok (.record usings fields) ∧
        List.Forall₂ (Field.StandsFor descriptor.name descriptor.node)
          (propertyEntries descriptor.node) fields ∧
        Distinguished (fields.map Field.name)) ∧
    (descriptor.kind = .enumeration →
      ∀ texts : List String,
        List.Forall₂ (fun entry text => entry.asText = .ok text)
          (enumEntries descriptor.node) texts →
        ∃ members, descriptor.body index = .ok (.enumeration members) ∧
          List.Forall₂
            (fun text member =>
              NamedAfter (enumMemberName text) descriptor.name member)
            (texts.filter hasVisibleChar) members ∧
          NumberedInOrder members (memberLines 0 members) ∧
          Distinguished members) := by
  constructor
  · intro kind
    refine
      ⟨_, _, Descriptor.body_eq_ok_iff.2 (.record kind),
        recordFields_standFor _ _, ?_⟩
    rw [map_name_recordFields]
    exact
      distinguished_members (fun entry : Scalar × Value => entry.1.label)
        descriptor.name (propertyEntries descriptor.node)
  · intro kind texts written
    exact
      ⟨enumMembers descriptor.name (texts.filter hasVisibleChar),
        Descriptor.body_eq_ok_iff.2
          (.enumeration kind (enumTexts_eq_ok written)),
        enumMembers_named descriptor.name _, numberedInOrder_memberLines _,
        distinguished_members enumMemberName descriptor.name _⟩

/-- A record with two properties of one name but for case, one that begins with
a digit, and one that is named as the record. -/
def orderRecord : Descriptor where
  name := "Order"
  kind := .record
  category := "Order"
  namespaceName := "Models.Orders"
  sourceName := "Order"
  node := .map [(.text "properties", .map
    [(.text "id", .map []), (.text "Id", .map []), (.int 1, .map []),
     (.text "order", .map [])])]

/-- An enumeration with a blank entry, and two entries that are named as it is. -/
def statusEnumeration : Descriptor where
  name := "Status"
  kind := .enumeration
  category := "Status"
  namespaceName := "Models.Statuses.Enums"
  sourceName := "Status"
  node := .map [(.text "enum", .list
    [.text "status", .text " ", .scalar (.int 3), .text "Status"])]

theorem order_and_status_declare_members :
    orderRecord.kind = .record ∧
    (∃ usings fields,
      orderRecord.body (indexOf []) = .ok (.record usings fields) ∧
      List.Forall₂ (Field.StandsFor "Order" orderRecord.node)
        (propertyEntries orderRecord.node) fields ∧
      Distinguished (fields.map Field.name)) ∧
    (propertyEntries orderRecord.node).length = 4 ∧
    statusEnumeration.kind = .enumeration ∧
    List.Forall₂ (fun entry text => entry.asText = .ok text)
      (enumEntries statusEnumeration.node) ["status", " ", "3", "Status"] ∧
    (∃ members,
      statusEnumeration.body (indexOf []) = .ok (.enumeration members) ∧
      List.Forall₂
        (fun text member => NamedAfter (enumMemberName text) "Status" member)
        (["status", " ", "3", "Status"].filter hasVisibleChar) members ∧
      NumberedInOrder members (memberLines 0 members) ∧
      Distinguished members) ∧
    ["status", " ", "3", "Status"].filter hasVisibleChar =
      ["status", "3", "Status"] := by
  have written :
      List.Forall₂ (fun entry text => entry.asText = .ok text)
        (enumEntries statusEnumeration.node)
        ["status", " ", "3", "Status"] :=
    .cons rfl (.cons rfl (.cons rfl (.cons rfl .nil)))
  exact
    ⟨rfl, (orderRecord.declares_members (indexOf [])).1 rfl, rfl, rfl, written,
      (statusEnumeration.declares_members (indexOf [])).2 rfl _ written,
      by decide +kernel⟩

/-- The name of a field is chosen in view of the fields before it. -/
private theorem name_eq_memberIdentifier
    {owner : String} {definition : Value} {front back : List Field}
    {field : Field} {entry : Scalar × Value}
    (parts : recordFields owner definition = front ++ field :: back)
    (place : (propertyEntries definition)[front.length]? = some entry) :
    field.name =
      memberIdentifier entry.1.label owner
        (front.map Field.name).reverse := by
  obtain ⟨within, found⟩ := List.getElem?_eq_some_iff.1 place
  have entries :
      propertyEntries definition =
        (propertyEntries definition).take front.length ++
          entry :: (propertyEntries definition).drop (front.length + 1) := by
    rw [← found, ← List.drop_eq_getElem_cons within,
      List.take_append_drop]
  have names := map_name_recordFields owner definition
  rw [parts, entries, assign_append, List.map_append] at names
  have sameLength :
      (front.map Field.name).length =
        (assign
          (fun (entry : Scalar × Value) used =>
            memberIdentifier entry.1.label owner used)
          [] ((propertyEntries definition).take front.length)).length := by
    rw [List.length_map, assign_length, List.length_take]
    omega
  obtain ⟨fronts, backs⟩ := List.append_inj names sameLength
  rw [List.map_cons, assign, ← fronts, List.append_nil] at backs
  exact (List.cons.inj backs).1

/-- A member gets the name of its type exactly if counting leads it back there,
which happens in records only. -/
theorem member_eq_typeName_iff
    (schemas : List (String × Value)) (config : Config) :
    (∀ source raw used,
      memberIdentifier raw (typeName source) used = typeName source ↔
        LeadsBack raw (typeName source) used) ∧
    ∀ descriptor ∈ inventory schemas config, ∀ index : NamespaceIndex,
      (∀ usings valueType valueName,
        descriptor.body index = .ok (.wrapper usings valueType valueName) →
        valueName ≠ descriptor.name) ∧
      ∀ usings fields,
        descriptor.body index = .ok (.record usings fields) →
        ∀ front field back entry, fields = front ++ field :: back →
          (propertyEntries descriptor.node)[front.length]? = some entry →
          (field.name = descriptor.name ↔
            LeadsBack entry.1.label descriptor.name
              (front.map Field.name)) := by
  refine ⟨fun source raw used =>
    memberIdentifier_eq_iff_leadsBack (typeName_typeName source) raw used, ?_⟩
  intro descriptor member index
  have itself := (isTypeName_name member).typeName_eq
  constructor
  · intro usings valueType valueName built same
    cases Descriptor.body_eq_ok_iff.1 built with
    | wrapper kind =>
        rw [memberIdentifier_eq_iff_leadsBack itself] at same
        obtain ⟨_, _, _, taken, _⟩ := same
        cases taken
  · intro usings fields built front field back entry parts place
    cases Descriptor.body_eq_ok_iff.1 built
    rw [name_eq_memberIdentifier parts place,
      memberIdentifier_eq_iff_leadsBack itself]
    simp only [LeadsBack, List.mem_reverse]

/-- A record with a numbered name and two properties that have its name without
the number, and a wrapper that is named as its only member. -/
def collidingSchemas : List (String × Value) :=
  [("Order1", .map [(.text "properties", .map
    [(.text "order", .map []), (.text "Order", .map [])])]),
   ("Value", .map [(.text "type", .text "string")])]

theorem member_eq_typeName_iff_order :
    (∃ descriptor ∈ inventory collidingSchemas {},
      ∃ usings first second entry,
        descriptor.body (indexOf []) =
          .ok (.record usings ([first] ++ second :: [])) ∧
        (propertyEntries descriptor.node)[[first].length]? = some entry ∧
        (second.name = descriptor.name ↔
          LeadsBack entry.1.label descriptor.name ([first].map Field.name)) ∧
        second.name = descriptor.name) ∧
    ∃ descriptor ∈ inventory collidingSchemas {},
      ∃ usings valueType valueName,
        descriptor.body (indexOf []) =
          .ok (.wrapper usings valueType valueName) ∧
        valueName ≠ descriptor.name ∧ valueName = "ValueValue" := by
  have records :
      ∃ descriptor ∈ inventory collidingSchemas {},
        descriptor.kind = .record ∧ descriptor.name = "Order1" ∧
          (propertyEntries descriptor.node).length = 2 ∧
          (recordFields descriptor.name descriptor.node).map Field.name =
            ["Order", "Order1"] := by
    decide +kernel
  have wrappers :
      ∃ descriptor ∈ inventory collidingSchemas {},
        descriptor.kind = .wrapper ∧
          memberIdentifier "Value" descriptor.name [] = "ValueValue" := by
    decide +kernel
  constructor
  · obtain ⟨descriptor, member, kind, name, entryCount, names⟩ := records
    obtain ⟨first, second, fields⟩ : ∃ first second,
        recordFields descriptor.name descriptor.node = [first, second] := by
      apply List.length_eq_two.1
      rw [← List.length_map Field.name, names]
      rfl
    obtain ⟨entry, place⟩ : ∃ entry,
        (propertyEntries descriptor.node)[1]? = some entry :=
      ⟨_, List.getElem?_eq_getElem (by omega)⟩
    have builds : descriptor.Builds (indexOf []) _ := .record kind
    rw [fields] at names builds
    have built := Descriptor.body_eq_ok_iff.2 builds
    exact
      ⟨descriptor, member, _, first, second, entry, built, place,
        ((member_eq_typeName_iff collidingSchemas {}).2 descriptor member
          (indexOf [])).2 _ _ built [first] second [] entry rfl place,
        (List.cons.inj (List.cons.inj names).2).1.trans name.symm⟩
  · obtain ⟨descriptor, member, kind, name⟩ := wrappers
    have builds : descriptor.Builds (indexOf []) _ := .wrapper kind
    have built := Descriptor.body_eq_ok_iff.2 builds
    exact
      ⟨descriptor, member, _, _, _, built,
        ((member_eq_typeName_iff collidingSchemas {}).2 descriptor member
          (indexOf [])).1 _ _ _ built, name⟩

theorem record_declares_member_of_its_own_name :
    typeName "Order1" = "Order1" ∧
    memberIdentifier "order" (typeName "Order1") ["Order"] =
      typeName "Order1" ∧
    ∃ descriptor ∈ inventory collidingSchemas {},
      descriptor.kind = .record ∧
        ∃ field ∈ recordFields descriptor.name descriptor.node,
          field.name = descriptor.name := by
  decide +kernel

end OpenApiSharp.Model
