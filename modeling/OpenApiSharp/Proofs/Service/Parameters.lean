import Mathlib.Data.Finset.Card
import OpenApiSharp.Proofs.Document.Value
import OpenApiSharp.Proofs.Keyed
import OpenApiSharp.Proofs.Service.Survey

/-!
# The parameters of an operation

The nodes of a path item come before those of an operation.  Of several nodes
with one name and location the last gives the parameter, and it stands in the
place of the first.  A request body goes behind all others.

Nodes without a name or a location are merged in the same way before they are
reported, so nodes that lack the same are reported once.
-/

namespace OpenApiSharp.Service

open Document

/-- The parameters that a path item or an operation declares. -/
def declaredParameters (holder : Value) : List Value :=
  ((holder.get? "parameters").map Value.elements).getD []

/-- All parameter nodes of an operation: those of its path item, then its
own. -/
def allParameters (pathItem operation : Value) : List Value :=
  declaredParameters pathItem ++ declaredParameters operation

/-- The name and the location of a node, so far as they are texts. -/
def nodeLabel (node : Value) : Option String × Option String :=
  (node.getText? "name", node.getText? "in")

section Merging

variable (pathItem operation : Value)

/-- The nodes of an operation under their labels. -/
def labelledNodes : List ((Option String × Option String) × Value) :=
  Keyed.ofList (· == ·)
    ((allParameters pathItem operation).map fun node => (nodeLabel node, node))

theorem parameterNodes_eq :
    parameterNodes pathItem operation =
      (labelledNodes pathItem operation).map Prod.snd := by
  simp only [parameterNodes, labelledNodes, allParameters, declaredParameters,
    nodeLabel, List.flatMap_cons, List.flatMap_nil, List.append_nil]

variable {pathItem operation}

theorem mem_labelledNodes_iff
    {label : Option String × Option String} {node : Value} :
    (label, node) ∈ labelledNodes pathItem operation ↔
      nodeLabel node = label ∧
        ∃ front back, allParameters pathItem operation = front ++ node :: back ∧
          ∀ later ∈ back, nodeLabel later ≠ label := by
  rw [labelledNodes, Keyed.mem_ofList_iff]
  constructor
  · rintro ⟨pairsBefore, pairsBehind, split, last⟩
    obtain ⟨front, rest, whole, rfl, behind⟩ := List.map_eq_append_iff.1 split
    obtain ⟨written, back, rfl, pair, rfl⟩ := List.map_eq_cons_iff.1 behind
    obtain ⟨rfl, rfl⟩ := Prod.mk.inj pair
    refine ⟨rfl, front, back, whole, fun later member same => last ?_⟩
    rw [List.map_map]
    exact List.mem_map.2 ⟨later, member, same⟩
  · rintro ⟨rfl, front, back, whole, last⟩
    refine
      ⟨front.map fun node => (nodeLabel node, node),
        back.map fun node => (nodeLabel node, node), ?_, ?_⟩
    · rw [whole, List.map_append, List.map_cons]
    · rw [List.map_map]
      intro again
      obtain ⟨later, member, same⟩ := List.mem_map.1 again
      exact last later member same

/-- The nodes that remain are the last ones with their labels. -/
theorem mem_parameterNodes_iff {node : Value} :
    node ∈ parameterNodes pathItem operation ↔
      ∃ front back, allParameters pathItem operation = front ++ node :: back ∧
        ∀ later ∈ back, nodeLabel later ≠ nodeLabel node := by
  rw [parameterNodes_eq, List.mem_map]
  constructor
  · rintro ⟨⟨label, node⟩, member, rfl⟩
    obtain ⟨rfl, split⟩ := mem_labelledNodes_iff.1 member
    exact split
  · intro split
    exact ⟨(_, node), mem_labelledNodes_iff.2 ⟨rfl, split⟩, rfl⟩

variable (pathItem operation)

theorem map_nodeLabel_parameterNodes :
    (parameterNodes pathItem operation).map nodeLabel =
      (labelledNodes pathItem operation).map Prod.fst := by
  rw [parameterNodes_eq, List.map_map]
  apply List.map_congr_left
  rintro ⟨label, node⟩ member
  exact (mem_labelledNodes_iff.1 member).1

private theorem nodup_nodeLabels :
    ((parameterNodes pathItem operation).map nodeLabel).Nodup := by
  rw [map_nodeLabel_parameterNodes]
  exact Keyed.nodup_keys_ofList _

/-- Every label of a declared node remains. -/
theorem mem_nodeLabels_iff (label : Option String × Option String) :
    label ∈ (parameterNodes pathItem operation).map nodeLabel ↔
      ∃ node ∈ allParameters pathItem operation, nodeLabel node = label := by
  rw [map_nodeLabel_parameterNodes, labelledNodes, Keyed.keys_ofList,
    List.mem_eraseDups, List.map_map]
  exact List.mem_map

private theorem nodeLabels_order :
    ((parameterNodes pathItem operation).map nodeLabel).Pairwise
      fun earlier later =>
        ((allParameters pathItem operation).findIdx fun node =>
            nodeLabel node == earlier) <
          (allParameters pathItem operation).findIdx fun node =>
            nodeLabel node == later := by
  have order :=
    Keyed.keys_ofList_order
      ((allParameters pathItem operation).map fun node =>
        (nodeLabel node, node))
  simp only [List.findIdx_map] at order
  rw [map_nodeLabel_parameterNodes]
  exact order

end Merging

def Parameter.label (parameter : Parameter) : Option String × Option String :=
  (some parameter.name, some parameter.location)

/-- A parameter has all that it is made of from a node. -/
structure Parameter.Reads (parameter : Parameter) (node : Value) : Prop where
  label : nodeLabel node = parameter.label
  name : parameter.name ≠ ""
  location : parameter.location ≠ ""
  typeText : parameter.typeText = Schema.parameterTypeText node
  required :
    parameter.required = true ↔
      node.get? "required" = some (.scalar (.bool true))
  description : parameter.description = (node.getText? "description").getD ""

theorem parameterOf?_eq_some_iff
    {node : Value} {parameter : Parameter} :
    parameterOf? node = some parameter ↔ parameter.Reads node := by
  constructor
  · intro found
    rw [parameterOf?] at found
    split at found
    · next name location named located =>
        split at found
        · cases found
        · next filled =>
            simp only [Bool.or_eq_true, String.isEmpty_iff, not_or] at filled
            cases found
            exact
              { label := by rw [nodeLabel, named, located]; rfl
                name := filled.1
                location := filled.2
                typeText := rfl
                required := Value.isTrue_iff
                description := rfl }
    · cases found
  · intro reads
    obtain ⟨named, located⟩ := Prod.mk.inj reads.label
    have required : node.isTrue "required" = parameter.required :=
      Bool.eq_iff_iff.2 (Value.isTrue_iff.trans reads.required.symm)
    have description : Schema.description node = parameter.description :=
      reads.description.symm
    simp [parameterOf?, named, located, reads.name, reads.location,
      ← reads.typeText, required, description]

/-- A node with a filled name and a filled location gives a parameter. -/
private theorem exists_reads
    {node : Value} {name location : String}
    (label : nodeLabel node = (some name, some location))
    (filledName : name ≠ "") (filledLocation : location ≠ "") :
    ∃ parameter : Parameter,
      parameter.Reads node ∧ parameter.label = (some name, some location) :=
  ⟨{ name, location
     typeText := Schema.parameterTypeText node
     required := node.isTrue "required"
     description := Schema.description node },
    { label
      name := filledName
      location := filledLocation
      typeText := rfl
      required := Value.isTrue_iff
      description := rfl },
    rfl⟩

/-- The parameters that come of the nodes of a list. -/
structure MergesNodes (nodes : List Value) (parameters : List Parameter) :
    Prop where
  /-- There is a parameter for every filled name and location of a node. -/
  complete :
    ∀ name location, name ≠ "" → location ≠ "" →
      ((∃ parameter ∈ parameters,
          parameter.label = (some name, some location)) ↔
        ∃ node ∈ nodes, nodeLabel node = (some name, some location))
  /-- It has its content from the last such node. -/
  last :
    ∀ parameter ∈ parameters, ∃ front node back,
      nodes = front ++ node :: back ∧ parameter.Reads node ∧
        ∀ later ∈ back, nodeLabel later ≠ parameter.label
  /-- It has the place of the first such node. -/
  order :
    parameters.Pairwise fun earlier later =>
      (nodes.findIdx fun node => nodeLabel node == earlier.label) <
        nodes.findIdx fun node => nodeLabel node == later.label

section Named

variable (pathItem operation : Value)

/-- The parameters of an operation that come of its nodes. -/
def namedParameters : List Parameter :=
  (parameterNodes pathItem operation).filterMap parameterOf?

theorem map_label_namedParameters_sublist :
    ((namedParameters pathItem operation).map Parameter.label).Sublist
      ((parameterNodes pathItem operation).map nodeLabel) := by
  rw [namedParameters]
  induction parameterNodes pathItem operation with
  | nil => exact .slnil
  | cons node rest inductionHypothesis =>
      cases found : parameterOf? node with
      | none =>
          rw [List.filterMap_cons_none found]
          exact inductionHypothesis.cons _
      | some parameter =>
          have reads := parameterOf?_eq_some_iff.1 found
          rw [List.filterMap_cons_some found, List.map_cons, List.map_cons,
            reads.label]
          exact inductionHypothesis.cons_cons _

private theorem namedParameters_merge :
    MergesNodes (allParameters pathItem operation)
      (namedParameters pathItem operation) where
  complete := by
    intro name location filledName filledLocation
    rw [← mem_nodeLabels_iff]
    constructor
    · rintro ⟨parameter, member, label⟩
      rw [← label]
      exact (map_label_namedParameters_sublist pathItem operation).subset
        (List.mem_map_of_mem member)
    · intro labelled
      obtain ⟨node, member, label⟩ := List.mem_map.1 labelled
      obtain ⟨parameter, reads, same⟩ :=
        exists_reads label filledName filledLocation
      have found := parameterOf?_eq_some_iff.2 reads
      exact ⟨parameter, List.mem_filterMap.2 ⟨node, member, found⟩, same⟩
  last := by
    intro parameter member
    obtain ⟨node, remains, found⟩ := List.mem_filterMap.1 member
    have reads := parameterOf?_eq_some_iff.1 found
    obtain ⟨front, back, whole, last⟩ := mem_parameterNodes_iff.1 remains
    rw [reads.label] at last
    exact ⟨front, node, back, whole, reads, last⟩
  order := by
    have order :=
      (nodeLabels_order pathItem operation).sublist
        (map_label_namedParameters_sublist pathItem operation)
    rw [List.pairwise_map] at order
    exact order

end Named

/-- The parameter for the request body of an operation beside its other
parameters. -/
structure SendsBody
    (operation : Value) (named : List Parameter) (body : Option Parameter) :
    Prop where
  present :
    body.isSome = true ↔
      (∀ parameter ∈ named, parameter.location ≠ "body") ∧
        Schema.requestBody? operation ≠ none
  content :
    ∀ parameter, body = some parameter →
      parameter.label = (some "body", some "body") ∧
        ∃ schema required,
          Schema.requestBody? operation = some (schema, required) ∧
            parameter.typeText = Schema.typeText schema ∧
            parameter.required = required

/-- The parameter for the request body, unless there is a body among the other
parameters. -/
def sentBody? (named : List Parameter) (operation : Value) : Option Parameter :=
  if named.any (·.location == "body") then none else bodyParameter? operation

theorem sentBody?_sendsBody (named : List Parameter) (operation : Value) :
    SendsBody operation named (sentBody? named operation) where
  present := by
    rw [sentBody?, bodyParameter?]
    split
    · next isBody =>
        obtain ⟨parameter, member, location⟩ := List.any_eq_true.1 isBody
        have found : parameter.location = "body" := eq_of_beq location
        simpa using fun none => absurd found (none parameter member)
    · next noBody =>
        have apart : ∀ parameter ∈ named, parameter.location ≠ "body" := by
          simpa using noBody
        rw [Option.isSome_map, Option.isSome_iff_ne_none]
        exact (and_iff_right apart).symm
  content := by
    intro parameter sent
    rw [sentBody?] at sent
    split at sent
    · cases sent
    · obtain ⟨⟨schema, required⟩, found, rfl⟩ := Option.map_eq_some_iff.1 sent
      exact ⟨rfl, schema, required, found, rfl, rfl⟩

theorem parametersOf_eq (pathItem operation : Value) :
    parametersOf pathItem operation =
      namedParameters pathItem operation ++
        (sentBody? (namedParameters pathItem operation) operation).toList := by
  change
    (if (namedParameters pathItem operation).any (·.location == "body") then
        namedParameters pathItem operation
      else
        namedParameters pathItem operation ++
          (bodyParameter? operation).toList) = _
  by_cases isBody :
      (namedParameters pathItem operation).any (·.location == "body") = true
  · rw [sentBody?, if_pos isBody, if_pos isBody, Option.toList_none,
      List.append_nil]
  · rw [sentBody?, if_neg isBody, if_neg isBody]

/-- The parameters of an operation are those of its nodes and behind them the
one for its request body, all with names and locations of their own. -/
theorem parametersOf_merges (pathItem operation : Value) :
    ∃ named body,
      parametersOf pathItem operation = named ++ body.toList ∧
        MergesNodes (allParameters pathItem operation) named ∧
        SendsBody operation named body ∧
        ((parametersOf pathItem operation).map Parameter.label).Nodup := by
  have sends :=
    sentBody?_sendsBody (namedParameters pathItem operation) operation
  refine
    ⟨_, _, parametersOf_eq pathItem operation,
      namedParameters_merge pathItem operation, sends, ?_⟩
  have once :=
    (nodup_nodeLabels pathItem operation).sublist
      (map_label_namedParameters_sublist pathItem operation)
  rw [parametersOf_eq, List.map_append]
  cases sent : sentBody? (namedParameters pathItem operation) operation with
  | none => simpa using once
  | some body =>
      have apart := (sends.present.1 (by rw [sent]; rfl)).1
      have label := (sends.content body sent).1
      refine List.nodup_append.2 ⟨once, List.nodup_singleton _, ?_⟩
      intro earlier member later last same
      obtain ⟨parameter, present, rfl⟩ := List.mem_map.1 member
      rw [List.mem_singleton.1 last, label] at same
      exact apart parameter present (Option.some.inj (Prod.mk.inj same).2)

section Nameless

variable (pathItem operation : Value)

/-- The declared nodes that give no parameter. -/
def namelessNodes : List Value :=
  (allParameters pathItem operation).filter isNameless

private theorem isNameless_congr
    {left right : Value} (same : nodeLabel left = nodeLabel right) :
    isNameless left = isNameless right := by
  obtain ⟨name, location⟩ := Prod.mk.inj same
  rw [isNameless, isNameless, name, location]

/-- The nodes that are reported have the labels of the nodes without a name or
a location, each label once. -/
private theorem nodeLabels_reported :
    (((parameterNodes pathItem operation).filter isNameless).map
        nodeLabel).toFinset =
      ((namelessNodes pathItem operation).map nodeLabel).toFinset := by
  ext label
  simp only [List.mem_toFinset, List.mem_map, List.mem_filter, namelessNodes]
  constructor
  · rintro ⟨node, ⟨remains, nameless⟩, rfl⟩
    obtain ⟨front, back, whole, _⟩ := mem_parameterNodes_iff.1 remains
    refine ⟨node, ⟨?_, nameless⟩, rfl⟩
    rw [whole]
    exact List.mem_append_right front List.mem_cons_self
  · rintro ⟨node, ⟨declared, nameless⟩, rfl⟩
    obtain ⟨kept, remains, same⟩ :=
      List.mem_map.1
        ((mem_nodeLabels_iff pathItem operation _).2 ⟨node, declared, rfl⟩)
    exact ⟨kept, ⟨remains, by rw [isNameless_congr same, nameless]⟩, same⟩

private theorem namelessCount_eq_card :
    namelessCount pathItem operation =
      ((namelessNodes pathItem operation).map nodeLabel).toFinset.card := by
  have once :
      (((parameterNodes pathItem operation).filter isNameless).map
        nodeLabel).Nodup :=
    (nodup_nodeLabels pathItem operation).sublist
      (List.filter_sublist.map nodeLabel)
  rw [← nodeLabels_reported, List.toFinset_card_of_nodup once,
    List.length_map, namelessCount, List.countP_eq_length_filter]
  simp

/-- Of the nodes without a name or a location as many are reported as there are
different labels among them, so all are reported exactly if no two of them have
the same label. -/
theorem nameless_reported_by_label (item : String) (report : Report) :
    (report.note
          (namelessWarnings item
            (namelessCount pathItem operation))).diagnostics =
        report.diagnostics ++
          List.replicate
            ((namelessNodes pathItem operation).map nodeLabel).toFinset.card
            ⟨.warning, item, "parameter without 'name' or 'in' ignored"⟩ ∧
      (namelessCount pathItem operation =
          (namelessNodes pathItem operation).length ↔
        ((namelessNodes pathItem operation).map nodeLabel).Nodup) := by
  rw [namelessCount_eq_card]
  refine ⟨rfl, ?_⟩
  rw [← List.length_map nodeLabel]
  exact Multiset.toFinset_card_eq_card_iff_nodup

end Nameless

/-- Two references to parameters that are declared elsewhere. -/
def referencedParameters : Value :=
  .map [(.text "parameters", .list [
    .map [(.text "$ref", .text "#/parameters/page")],
    .map [(.text "$ref", .text "#/parameters/size")]])]

/-- Both are ignored, and only one of them is reported. -/
theorem referencedParameters_reported_once :
    (namelessNodes (.map []) referencedParameters).length = 2 ∧
      namelessWarnings "GET /orders"
          (namelessCount (.map []) referencedParameters) =
        [⟨.warning, "GET /orders",
          "parameter without 'name' or 'in' ignored"⟩] := by
  decide +kernel

end OpenApiSharp.Service
