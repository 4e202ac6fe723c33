import OpenApiSharp.Proofs.Documentation.Service
import OpenApiSharp.Proofs.Model.UniqueNames
import OpenApiSharp.Proofs.Naming.Segment
import OpenApiSharp.Proofs.Report
import OpenApiSharp.Proofs.Text.Search

/-!
# Where files are placed

A file lies in one of four places below the output root, and the names on the
way to it come from the document.  They are segments, so a path can be read in
one way only, and none leads elsewhere.  The folder of a model is the last part
of its namespace, whatever the user has put in front of it.
-/

namespace OpenApiSharp

open Document Naming Text

/-- The place of a file, with the names that it has from the document. -/
inductive Placement where
  | model (folder name : String)
  | enumeration (folder name : String)
  | interface (service : String)
  | implementation (service : String)
  deriving DecidableEq, Repr

namespace Placement

def path : Placement → String
  | model folder name => "Models/" ++ folder ++ "/" ++ name ++ ".cs"
  | enumeration folder name =>
      "Models/" ++ folder ++ "/Enums/" ++ name ++ ".cs"
  | interface service => "Services/Interfaces/I" ++ service ++ "Service.cs"
  | implementation service =>
      "Services/Implementations/" ++ service ++ "Service.cs"

/-- The kinds of files that are put in a place. -/
def kinds : Placement → List String
  | model _ _ => ["object", "simple", "fallback"]
  | enumeration _ _ => ["enum"]
  | interface _ => ["interface"]
  | implementation _ => ["implementation"]

def names : Placement → List String
  | model folder name | enumeration folder name => [folder, name]
  | interface service | implementation service => [service]

def Safe (placement : Placement) : Prop :=
  ∀ name ∈ placement.names, IsSegment name

def directory : Placement → List String
  | model folder _ => ["Models", folder]
  | enumeration folder _ => ["Models", folder, "Enums"]
  | interface _ => ["Services", "Interfaces"]
  | implementation _ => ["Services", "Implementations"]

def fileName : Placement → String
  | model _ name | enumeration _ name => name ++ ".cs"
  | interface service => "I" ++ service ++ "Service.cs"
  | implementation service => service ++ "Service.cs"

def steps (placement : Placement) : List String :=
  placement.directory ++ [placement.fileName]

theorem path_eq_intercalate (placement : Placement) :
    placement.path = "/".intercalate placement.steps := by
  apply String.toList_inj.1
  cases placement with
  | model folder name =>
      change ("Models/" ++ folder ++ "/" ++ name ++ ".cs").toList =
        ("/".intercalate ["Models", folder, name ++ ".cs"]).toList
      simp
  | enumeration folder name =>
      change ("Models/" ++ folder ++ "/Enums/" ++ name ++ ".cs").toList =
        ("/".intercalate ["Models", folder, "Enums", name ++ ".cs"]).toList
      simp
  | interface service =>
      change ("Services/Interfaces/I" ++ service ++ "Service.cs").toList =
        ("/".intercalate
          ["Services", "Interfaces", "I" ++ service ++ "Service.cs"]).toList
      simp
  | implementation service =>
      change ("Services/Implementations/" ++ service ++ "Service.cs").toList =
        ("/".intercalate
          ["Services", "Implementations", service ++ "Service.cs"]).toList
      simp

private theorem Safe.not_mem_slash
    {placement : Placement} (safe : placement.Safe) {name : String}
    (given : name ∈ placement.names) : '/' ∉ name.toList :=
  (safe name given).not_mem (by decide)

theorem Safe.not_mem_slash_of_mem_steps
    {placement : Placement} (safe : placement.Safe) :
    ∀ step ∈ placement.steps, '/' ∉ step.toList := by
  cases placement with
  | model folder name =>
      have inFolder : '/' ∉ folder.toList :=
        safe.not_mem_slash (by simp [names])
      have inName : '/' ∉ name.toList :=
        safe.not_mem_slash (by simp [names])
      simp [steps, directory, fileName, inFolder, inName]
  | enumeration folder name =>
      have inFolder : '/' ∉ folder.toList :=
        safe.not_mem_slash (by simp [names])
      have inName : '/' ∉ name.toList :=
        safe.not_mem_slash (by simp [names])
      simp [steps, directory, fileName, inFolder, inName]
  | interface service =>
      have inName : '/' ∉ service.toList :=
        safe.not_mem_slash (by simp [names])
      simp [steps, directory, fileName, inName]
  | implementation service =>
      have inName : '/' ∉ service.toList :=
        safe.not_mem_slash (by simp [names])
      simp [steps, directory, fileName, inName]

theorem eq_of_path_eq
    {placement other : Placement} (safe : placement.Safe) (safe' : other.Safe)
    (same : placement.path = other.path) : placement = other := by
  rw [path_eq_intercalate, path_eq_intercalate] at same
  have steps : placement.steps = other.steps :=
    intercalate_slash_injective (by simp [Placement.steps])
      (by simp [Placement.steps])
      safe.not_mem_slash_of_mem_steps safe'.not_mem_slash_of_mem_steps same
  cases placement <;> cases other <;>
    simp_all [Placement.steps, directory, fileName]

/-- A place is that of a file. -/
structure Holds (placement : Placement) (artifact : Artifact) : Prop where
  safe : placement.Safe
  path : artifact.path = placement.path
  kind : artifact.kind ∈ placement.kinds

end Placement

namespace Model

@[simp]
private theorem lastOf_append_length {α : Type} (front back : List α) :
    lastOf back.length (front ++ back) = back := by
  rw [lastOf, List.length_append, Nat.add_sub_cancel, List.drop_left]

/-- What a kind adds to the namespace of its models, as parts. -/
def kindParts (kind : Schema.Kind) : List String :=
  if kind = .enumeration then ["Enums"] else []

/-- Whatever the user's part of a namespace holds, its last parts are those of
the category and the kind. -/
private theorem parts_modelNamespace
    (config : Config) (category : String) (kind : Schema.Kind) :
    (pieces '.' (modelNamespace config category kind).toList).map
        String.ofList =
      (pieces '.' config.modelsNamespace.toList).map String.ofList ++
        categoryFolder category :: kindParts kind := by
  have whole : '.' ∉ (categoryFolder category).toList :=
    (isSegment_categoryFolder category).not_mem (by decide +kernel)
  have last : '.' ∉ "Enums".toList := by decide
  have dot : ".".toList = ['.'] := rfl
  rw [modelNamespace, kindParts]
  by_cases enumeration : kind = .enumeration
  · have enums : ".Enums".toList = '.' :: "Enums".toList := rfl
    simp only [enumeration, if_true, String.toList_append, dot, enums,
      List.append_assoc, List.cons_append, List.nil_append]
    rw [pieces_append_separator, pieces_append_separator,
      pieces_of_not_mem whole, pieces_of_not_mem last]
    simp
  · simp only [enumeration, if_false, String.toList_append, dot,
      List.append_assoc, List.singleton_append, String.toList_empty,
      List.append_nil]
    rw [pieces_append_separator, pieces_of_not_mem whole]
    simp

variable {schemas : List (String × Value)} {config : Config}
  {descriptor : Descriptor}

theorem folder_eq (member : descriptor ∈ inventory schemas config) :
    descriptor.folder =
      "/".intercalate
        ("Models" :: categoryFolder descriptor.category ::
          kindParts descriptor.kind) := by
  have count :
      (if descriptor.kind = .enumeration then 2 else 1) =
        (categoryFolder descriptor.category ::
          kindParts descriptor.kind).length := by
    rw [kindParts]
    split <;> rfl
  rw [Descriptor.folder, namespaceName_eq member, parts_modelNamespace, count,
    lastOf_append_length]

def Descriptor.placement (descriptor : Descriptor) : Placement :=
  if descriptor.kind = .enumeration then
    .enumeration (categoryFolder descriptor.category) descriptor.name
  else
    .model (categoryFolder descriptor.category) descriptor.name

private theorem isSegment_name
    (member : descriptor ∈ inventory schemas config) :
    IsSegment descriptor.name := by
  obtain ⟨front, back, parts⟩ := List.append_of_mem member
  rw [name_eq_uniqueName parts]
  exact isSegment_uniqueNameIgnoringCase (isSegment_typeName _) _

theorem path_eq_placement
    (member : descriptor ∈ inventory schemas config) :
    descriptor.path = descriptor.placement.path := by
  rw [Descriptor.path, folder_eq member, Descriptor.placement, kindParts]
  apply String.toList_inj.1
  by_cases enumeration : descriptor.kind = .enumeration
  · simp only [enumeration, if_true]
    change _ =
      ("Models/" ++ categoryFolder descriptor.category ++ "/Enums/" ++
        descriptor.name ++ ".cs").toList
    simp
  · simp only [enumeration, if_false]
    change _ =
      ("Models/" ++ categoryFolder descriptor.category ++ "/" ++
        descriptor.name ++ ".cs").toList
    simp

theorem placement_holds
    (member : descriptor ∈ inventory schemas config)
    {index : NamespaceIndex} {artifact : Artifact}
    (emitted : artifact ∈ (descriptor.generate index).artifacts) :
    descriptor.placement.Holds artifact := by
  have folder := isSegment_categoryFolder descriptor.category
  have name := isSegment_name member
  rw [Descriptor.generate] at emitted
  cases declared : descriptor.declaration index with
  | error fault =>
      rw [declared] at emitted
      cases emitted
  | ok declaration =>
      rw [declared] at emitted
      rw [List.mem_singleton.1 emitted]
      refine ⟨?_, path_eq_placement member, ?_⟩
      · intro given present
        have either :
            given = categoryFolder descriptor.category ∨
              given = descriptor.name := by
          rw [Descriptor.placement] at present
          split at present <;>
            simpa only [Placement.names, List.mem_cons, List.not_mem_nil,
              or_false] using present
        rcases either with rfl | rfl
        · exact folder
        · exact name
      · cases kind : descriptor.kind <;>
          simp [Descriptor.placement, kind, Placement.kinds, Schema.Kind.text]

end Model

private theorem isSegment_of_mem_serviceNames
    {cleanup : Cleanup} {tags : List String} {name : String}
    (member : name ∈ serviceNames cleanup tags) : IsSegment name := by
  obtain ⟨tag, _, used, chosen⟩ := exists_choice_of_mem_assign member
  rw [chosen]
  exact isSegment_uniqueNameIgnoringCase (isSegment_serviceBaseName _ _) _

theorem Run.services_names (config : Config) (document : Value) :
    let run := Run.ofDocument config document
    run.services.map (fun service => service.declaration.serviceName) =
      serviceNames config.cleanup (run.survey.groups.map Prod.fst) := by
  intro run
  apply Related.map_zipWith_eq_right
  · intro group name
    rfl
  · apply Nat.le_of_eq
    simp [serviceNames]

private theorem placements_hold
    {service : Service.Declaration} (name : IsSegment service.serviceName) :
    List.Forall₂ Placement.Holds
      [.interface service.serviceName, .implementation service.serviceName]
      service.artifacts := by
  refine .cons ?_ (.cons ?_ .nil)
  · exact
      { safe := List.forall_mem_singleton.2 name
        path := service.interfaceArtifact_path
        kind := List.mem_singleton_self _ }
  · exact
      { safe := List.forall_mem_singleton.2 name
        path := service.classArtifact_path
        kind := List.mem_singleton_self _ }

section Reports

variable (config : Config) (document : Value)

theorem service_placements_hold
    {service : ServiceRun}
    (present : service ∈ (Run.ofDocument config document).services) :
    List.Forall₂ Placement.Holds
      [.interface service.declaration.serviceName,
       .implementation service.declaration.serviceName]
      service.declaration.artifacts := by
  have named :
      service.declaration.serviceName ∈
        serviceNames config.cleanup
          ((Run.ofDocument config document).survey.groups.map Prod.fst) := by
    rw [← Run.services_names config document]
    exact List.mem_map_of_mem present
  exact placements_hold (isSegment_of_mem_serviceNames named)

theorem exists_placement
    {artifact : Artifact}
    (member : artifact ∈ (Run.ofDocument config document).report.artifacts) :
    ∃ placement : Placement, placement.Holds artifact := by
  rw [Run.report_artifacts] at member
  rcases List.mem_append.1 member with ofModel | ofService
  · obtain ⟨outcome, produced, emitted⟩ := List.mem_flatMap.1 ofModel
    obtain ⟨descriptor, present, rfl⟩ := List.mem_map.1 produced
    exact ⟨descriptor.placement, Model.placement_holds present emitted⟩
  · obtain ⟨service, present, emitted⟩ := List.mem_flatMap.1 ofService
    obtain ⟨placement, _, holds⟩ :=
      Related.exists_left_of_mem
        (service_placements_hold config document present) emitted
    exact ⟨placement, holds⟩

end Reports

/-- Where the files of a run are, and where its models are. -/
structure WellPlaced (config : Config) (document : Value)
    (report : Report) : Prop where
  /-- A file has one of the four places, and its path is that of no other. -/
  artifacts :
    ∀ artifact ∈ report.artifacts, ∃ placement : Placement,
      placement.Holds artifact ∧
        ∀ other : Placement, other.Safe → other.path = artifact.path →
          other = placement
  /-- The folder of a model has the name of the last part of its namespace,
  apart from that of enumerations. -/
  folders :
    ∀ descriptor ∈ Model.inventory (Specification.schemas document) config,
      ∃ folder, IsSegment folder ∧
        descriptor.namespaceName =
          config.modelsNamespace ++ "." ++ folder ++
            (if descriptor.kind = .enumeration then ".Enums" else "") ∧
        descriptor.folder =
          "Models/" ++ folder ++
            (if descriptor.kind = .enumeration then "/Enums" else "")

theorem generate_well_placed
    {config : Config} {document : Value} {report : Report}
    (completed : generate config document = .ok report) :
    WellPlaced config document report where
  artifacts := by
    intro artifact member
    rw [report_of_generate completed] at member
    obtain ⟨placement, holds⟩ := exists_placement config document member
    refine ⟨placement, holds, fun other safe same => ?_⟩
    exact Placement.eq_of_path_eq safe holds.safe (same.trans holds.path)
  folders := by
    intro descriptor member
    refine ⟨Model.categoryFolder descriptor.category,
      isSegment_categoryFolder _, Model.namespaceName_eq member, ?_⟩
    rw [Model.folder_eq member, Model.kindParts]
    apply String.toList_inj.1
    split <;> simp

/-- An enumeration whose name has steps and a blank, a record, and an operation
with a tag of the same make. -/
def coinDocument : Value :=
  .map
    [(.text "paths", .map
      [(.text "/coins", .map
        [(.text "get", .map
          [(.text "tags", .list [.text "../coin purse"]),
           (.text "operationId", .text "listCoins")])])]),
     (.text "definitions", .map
      [(.text "../Coin Side", .map [(.text "enum", .list [.text "heads"])]),
       (.text "ßCoin", .map [(.text "properties", .map [])])])]

/-- Namespaces that lead out of the output root. -/
def coinConfig : Config :=
  { modelsNamespace := "../ Models."
    servicesNamespace := "/etc" }

theorem generate_well_placed_coins :
    generate coinConfig coinDocument =
        .ok (Run.ofDocument coinConfig coinDocument).report ∧
      WellPlaced coinConfig coinDocument
        (Run.ofDocument coinConfig coinDocument).report := by
  have completed :
      generate coinConfig coinDocument =
        .ok (Run.ofDocument coinConfig coinDocument).report := by
    rfl
  exact ⟨completed, generate_well_placed completed⟩

end OpenApiSharp
