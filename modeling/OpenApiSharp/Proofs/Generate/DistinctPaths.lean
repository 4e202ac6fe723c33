import OpenApiSharp.Proofs.Files.Walk
import OpenApiSharp.Proofs.Generate.Placement

/-!
# No two files have the same path

The names of models are distinct in any case, and so are those of services,
but a path is more than a name.  What is put around a name can change the small
form of a sigma in it: `ΑΣ` and `Ασ` differ in lower case, `ΑΣ.cs` and `Ασ.cs`
do not.  No other letter looks around, so files without a capital sigma in their
names stay apart in any case, and all files stay apart as they are written.
-/

namespace OpenApiSharp

open Document Naming Text

/-- The name of a file, which is the last step of its path. -/
def Artifact.fileName (artifact : Artifact) : List Char :=
  (pieces '/' artifact.path.toList).getLastD []

/-- Files with different paths, in any case if neither name has a capital
sigma. -/
structure Apart (artifact other : Artifact) : Prop where
  paths : artifact.path ≠ other.path
  lowerPaths :
    'Σ' ∉ artifact.fileName → 'Σ' ∉ other.fileName →
      lower artifact.path ≠ lower other.path

/-- What is put around the name of a model or of a service. -/
inductive FileSort where
  | model
  | interface
  | implementation

def FileSort.fileName (sort : FileSort) (name : String) : String :=
  match sort with
  | model => name ++ ".cs"
  | interface => "I" ++ name ++ "Service.cs"
  | implementation => name ++ "Service.cs"

private theorem lower_eq_of_append_suffix
    {name other back : String} (plain : 'Σ' ∉ (name ++ back).toList)
    (plain' : 'Σ' ∉ (other ++ back).toList)
    (same : lower (name ++ back) = lower (other ++ back)) :
    lower name = lower other := by
  rw [lower_append_of_no_sigma plain, lower_append_of_no_sigma plain'] at same
  exact (String.append_left_inj _).1 same

private theorem lower_eq_of_append_prefix
    {name other front : String} (plain : 'Σ' ∉ (front ++ name).toList)
    (plain' : 'Σ' ∉ (front ++ other).toList)
    (same : lower (front ++ name) = lower (front ++ other)) :
    lower name = lower other := by
  rw [lower_append_of_no_sigma plain, lower_append_of_no_sigma plain'] at same
  exact (String.append_right_inj _).1 same

private theorem FileSort.lower_eq_of_fileName
    {sort : FileSort} {name other : String}
    (plain : 'Σ' ∉ (sort.fileName name).toList)
    (plain' : 'Σ' ∉ (sort.fileName other).toList)
    (same : lower (sort.fileName name) = lower (sort.fileName other)) :
    lower name = lower other := by
  cases sort with
  | model =>
      exact lower_eq_of_append_suffix plain plain' same
  | interface =>
      have fronts : lower ("I" ++ name) = lower ("I" ++ other) :=
        lower_eq_of_append_suffix plain plain' same
      simp only [fileName] at plain plain'
      rw [String.toList_append, List.mem_append, not_or] at plain plain'
      exact lower_eq_of_append_prefix plain.1 plain'.1 fronts
  | implementation =>
      exact lower_eq_of_append_suffix plain plain' same

namespace Placement

def sort : Placement → FileSort
  | model _ _ | enumeration _ _ => .model
  | interface _ => .interface
  | implementation _ => .implementation

def ownName : Placement → String
  | model _ name | enumeration _ name => name
  | interface service | implementation service => service

private theorem fileName_eq_sort (placement : Placement) :
    placement.fileName = placement.sort.fileName placement.ownName := by
  cases placement <;> rfl

/-- The folders tell the sort of the file, in lower case as well. -/
private theorem sort_eq_of_directory
    {placement other : Placement}
    (same : placement.directory.map lower = other.directory.map lower) :
    placement.sort = other.sort := by
  have tops : lower "Models" ≠ lower "Services" := by decide
  have folders : lower "Interfaces" ≠ lower "Implementations" := by
    decide
  cases placement <;> cases other <;>
    simp_all [directory, sort, tops.symm, folders.symm]

variable {placement other : Placement} {artifact artifact' : Artifact}

theorem Holds.fileName_eq (holds : placement.Holds artifact) :
    artifact.fileName = placement.fileName.toList := by
  have slash : "/".toList = ['/'] := rfl
  rw [Artifact.fileName, holds.path, path_eq_intercalate,
    String.toList_intercalate, slash,
    pieces_intercalate (by simp [steps])
      (by simpa using holds.safe.not_mem_slash_of_mem_steps)]
  simp [steps]

private theorem ownName_of_mem_places
    {service : String}
    (present : placement ∈ [interface service, implementation service]) :
    placement.ownName = service := by
  rw [List.mem_pair] at present
  rcases present with rfl | rfl <;> rfl

private theorem sort_ne_model_of_mem_places
    {service : String}
    (present : placement ∈ [interface service, implementation service]) :
    placement.sort ≠ .model := by
  rw [List.mem_pair] at present
  rcases present with rfl | rfl <;> exact fun same => by cases same

/-- Paths that agree in lower case do so step by step. -/
theorem lower_steps_eq
    (safe : placement.Safe) (safe' : other.Safe)
    (same : lower placement.path = lower other.path) :
    placement.directory.map lower = other.directory.map lower ∧
      lower placement.fileName = lower other.fileName := by
  rw [path_eq_intercalate, path_eq_intercalate, lower_intercalate_slash,
    lower_intercalate_slash] at same
  have whole (place : Placement) (isSafe : place.Safe) :
      ∀ step ∈ place.steps.map lower, '/' ∉ step.toList := by
    rw [List.forall_mem_map]
    exact fun step member =>
      slash_not_mem_lower (isSafe.not_mem_slash_of_mem_steps step member)
  have steps : placement.steps.map lower = other.steps.map lower :=
    intercalate_slash_injective (by simp [Placement.steps])
      (by simp [Placement.steps]) (whole _ safe) (whole _ safe') same
  rw [Placement.steps, Placement.steps, List.map_append,
    List.map_append] at steps
  obtain ⟨directories, files⟩ := List.append_inj' steps rfl
  exact ⟨directories, List.singleton_inj.1 files⟩

private theorem Holds.apart_of_directory
    (holds : placement.Holds artifact) (holds' : other.Holds artifact')
    (different :
      placement.directory.map lower ≠ other.directory.map lower) :
    Apart artifact artifact' where
  paths := by
    intro same
    rw [holds.path, holds'.path] at same
    rw [eq_of_path_eq holds.safe holds'.safe same] at different
    exact different rfl
  lowerPaths := by
    intro _ _ same
    rw [holds.path, holds'.path] at same
    exact different (lower_steps_eq holds.safe holds'.safe same).1

private theorem Holds.apart_of_ownName
    (holds : placement.Holds artifact) (holds' : other.Holds artifact')
    (different : lower placement.ownName ≠ lower other.ownName) :
    Apart artifact artifact' where
  paths := by
    intro same
    rw [holds.path, holds'.path] at same
    rw [eq_of_path_eq holds.safe holds'.safe same] at different
    exact different rfl
  lowerPaths := by
    intro plain plain' same
    rw [holds.path, holds'.path] at same
    obtain ⟨directories, files⟩ :=
      lower_steps_eq holds.safe holds'.safe same
    rw [holds.fileName_eq, fileName_eq_sort] at plain
    rw [holds'.fileName_eq, fileName_eq_sort,
      ← sort_eq_of_directory directories] at plain'
    rw [fileName_eq_sort, fileName_eq_sort,
      ← sort_eq_of_directory directories] at files
    exact different (FileSort.lower_eq_of_fileName plain plain' files)

end Placement

private theorem nodup_lower_serviceNames
    (cleanup : Cleanup) (tags : List String) :
    ((serviceNames cleanup tags).map lower).Nodup := by
  have fresh :=
    assign_fresh
      (fun tag used =>
        lower_uniqueNameIgnoringCase_not_mem (serviceBaseName tag cleanup)
          (used.map lower))
      [] tags
  exact fresh.1

@[simp]
private theorem Model.Descriptor.ownName_placement
    (descriptor : Model.Descriptor) :
    descriptor.placement.ownName = descriptor.name := by
  rw [placement]
  split <;> rfl

@[simp]
private theorem Model.Descriptor.sort_placement
    (descriptor : Model.Descriptor) :
    descriptor.placement.sort = .model := by
  rw [placement]
  split <;> rfl

section Runs

variable (config : Config) (document : Value)

private theorem models_pairwise_apart :
    ((Run.ofDocument config document).models.flatMap
      ItemResult.artifacts).Pairwise Apart := by
  have names :=
    Model.nodup_lower_names (Specification.schemas document) config
  change ((List.map _ _).flatMap _).Pairwise Apart
  rw [List.flatMap_map, List.pairwise_flatMap]
  constructor
  · intro descriptor _
    rw [Model.Descriptor.generate]
    split <;> simp [ItemResult.artifacts]
  · rw [List.Nodup, List.pairwise_map] at names
    refine names.imp_of_mem ?_
    intro descriptor other member member' different
      artifact emitted artifact' emitted'
    have holds := Model.placement_holds member emitted
    have holds' := Model.placement_holds member' emitted'
    apply holds.apart_of_ownName holds'
    rw [descriptor.ownName_placement, other.ownName_placement]
    exact different

theorem Run.nodup_lower_services :
    ((Run.ofDocument config document).services.map fun service =>
      lower service.declaration.serviceName).Nodup := by
  have distinct := nodup_lower_serviceNames config.cleanup
    ((Run.ofDocument config document).survey.groups.map Prod.fst)
  rw [← Run.services_names config document, List.map_map] at distinct
  exact distinct

private theorem services_pairwise_apart :
    ((Run.ofDocument config document).services.flatMap fun service =>
      service.declaration.artifacts).Pairwise Apart := by
  have names := Run.nodup_lower_services config document
  rw [List.pairwise_flatMap]
  constructor
  · intro service present
    have places := service_placements_hold config document present
    generalize service.declaration.artifacts = artifacts at places
    obtain _ | ⟨first, _ | ⟨second, ⟨⟩⟩⟩ := places
    rw [List.pairwise_pair]
    have folders : lower "Interfaces" ≠ lower "Implementations" := by
      decide +kernel
    refine first.apart_of_directory second ?_
    simpa [Placement.directory] using folders
  · rw [List.Nodup, List.pairwise_map] at names
    refine names.imp_of_mem ?_
    intro service other member member' different
      artifact emitted artifact' emitted'
    obtain ⟨placement, present, holds⟩ :=
      Related.exists_left_of_mem
        (service_placements_hold config document member) emitted
    obtain ⟨placement', present', holds'⟩ :=
      Related.exists_left_of_mem
        (service_placements_hold config document member') emitted'
    apply holds.apart_of_ownName holds'
    rw [Placement.ownName_of_mem_places present,
      Placement.ownName_of_mem_places present']
    exact different

private theorem artifacts_pairwise_apart :
    (Run.ofDocument config document).report.artifacts.Pairwise Apart := by
  rw [Run.report_artifacts, List.pairwise_append]
  refine ⟨models_pairwise_apart config document,
    services_pairwise_apart config document, ?_⟩
  intro artifact ofModel artifact' ofService
  obtain ⟨outcome, produced, emitted⟩ := List.mem_flatMap.1 ofModel
  obtain ⟨descriptor, member, rfl⟩ := List.mem_map.1 produced
  obtain ⟨service, member', emitted'⟩ := List.mem_flatMap.1 ofService
  obtain ⟨placement, present, holds'⟩ :=
    Related.exists_left_of_mem
      (service_placements_hold config document member') emitted'
  have holds := Model.placement_holds member emitted
  apply holds.apart_of_directory holds'
  intro same
  have sorts := Placement.sort_eq_of_directory same
  rw [descriptor.sort_placement] at sorts
  exact Placement.sort_ne_model_of_mem_places present sorts.symm

end Runs

/-- No two files of a report have the same path, nor do any two have the same
in lower case whose names are without a capital sigma. -/
theorem generate_keeps_paths_apart
    {config : Config} {document : Value} {report : Report}
    (completed : generate config document = .ok report) :
    (report.artifacts.map Artifact.path).Nodup ∧
      ((report.artifacts.filter fun artifact =>
          'Σ' ∉ artifact.fileName).map
        fun artifact => lower artifact.path).Nodup := by
  have apart := artifacts_pairwise_apart config document
  rw [← report_of_generate completed] at apart
  constructor
  · rw [List.Nodup, List.pairwise_map]
    exact apart.imp fun different => different.paths
  · rw [List.Nodup, List.pairwise_map, List.pairwise_filter]
    refine apart.imp ?_
    intro artifact other different plain plain'
    exact different.lowerPaths (of_decide_eq_true plain)
      (of_decide_eq_true plain')

/-- Two definitions whose names differ in lower case, as the sigma at the end
of the one is final. -/
def sigmaDocument : Value :=
  .map
    [(.text "paths", .map []),
     (.text "definitions", .map
      [(.text "ΑΣ", .map []), (.text "Ασ", .map [])])]

theorem generate_keeps_sigma_paths_apart :
    generate {} sigmaDocument =
        .ok (Run.ofDocument {} sigmaDocument).report ∧
      ((Run.ofDocument {} sigmaDocument).report.artifacts.map
        Artifact.path).Nodup ∧
      (((Run.ofDocument {} sigmaDocument).report.artifacts.filter
          fun artifact => 'Σ' ∉ artifact.fileName).map
        fun artifact => lower artifact.path).Nodup := by
  have completed :
      generate {} sigmaDocument =
        .ok (Run.ofDocument {} sigmaDocument).report := by
    rfl
  exact ⟨completed, generate_keeps_paths_apart completed⟩

/-- Behind the names there is an extension, and the sigma is final no more. -/
theorem sigma_paths_meet_in_lower_case :
    ∃ report, generate {} sigmaDocument = .ok report ∧
      ¬ (report.artifacts.map fun artifact => lower artifact.path).Nodup := by
  refine ⟨(Run.ofDocument {} sigmaDocument).report, rfl, ?_⟩
  decide +kernel

/-! ## Files below an output -/

namespace Naming.IsSegment

variable {text : String} (segment : IsSegment text)

include segment

private theorem point_not_mem : '.' ∉ text.toList :=
  segment.not_mem (by decide)

private theorem isPart : Files.IsPart text where
  filled := segment.filled
  notPoint := by
    rintro rfl
    exact segment.point_not_mem (by decide)
  whole := segment.not_mem (by decide)

end Naming.IsSegment

namespace Placement

variable {placement other : Placement} {artifact : Artifact}

private theorem Safe.isSegment_of_mem_directory
    (safe : placement.Safe) {step : String}
    (member : step ∈ placement.directory) : IsSegment step := by
  have models : IsSegment "Models" := by decide
  have enumerations : IsSegment "Enums" := by decide
  have services : IsSegment "Services" := by decide
  have interfaces : IsSegment "Interfaces" := by decide
  have classes : IsSegment "Implementations" := by decide
  cases placement with
  | model folder name =>
      have inFolder : IsSegment folder := safe folder (by simp [names])
      rw [directory, List.mem_pair] at member
      rcases member with rfl | rfl
      · exact models
      · exact inFolder
  | enumeration folder name =>
      have inFolder : IsSegment folder := safe folder (by simp [names])
      rw [directory, List.mem_cons, List.mem_pair] at member
      rcases member with rfl | rfl | rfl
      · exact models
      · exact inFolder
      · exact enumerations
  | interface service =>
      rw [directory, List.mem_pair] at member
      rcases member with rfl | rfl
      · exact services
      · exact interfaces
  | implementation service =>
      rw [directory, List.mem_pair] at member
      rcases member with rfl | rfl
      · exact services
      · exact classes

private theorem exists_fileName (placement : Placement) :
    ∃ name, placement.fileName = name ++ ".cs" := by
  have ending : "Service.cs" = "Service" ++ ".cs" := rfl
  cases placement with
  | model folder name => exact ⟨name, rfl⟩
  | enumeration folder name => exact ⟨name, rfl⟩
  | interface service =>
      refine ⟨"I" ++ service ++ "Service", ?_⟩
      rw [fileName, ending, ← String.append_assoc]
  | implementation service =>
      refine ⟨service ++ "Service", ?_⟩
      rw [fileName, ending, ← String.append_assoc]

private theorem point_mem_fileName (placement : Placement) :
    '.' ∈ placement.fileName.toList := by
  obtain ⟨name, split⟩ := placement.exists_fileName
  rw [split, String.toList_append]
  exact List.mem_append_right _ (by decide)

/-- A file has a letter in its extension, so it is not named by points alone. -/
private theorem fileName_ne_points
    (placement : Placement) {points : String}
    (only : points.toList.all (· == '.') = true) :
    placement.fileName ≠ points := by
  obtain ⟨name, split⟩ := placement.exists_fileName
  have letter : 'c' ∈ (name ++ ".cs").toList := by
    rw [String.toList_append]
    exact List.mem_append_right _ (by decide)
  intro same
  rw [← split, same] at letter
  have point := List.all_eq_true.1 only 'c' letter
  revert point
  decide

private theorem Safe.isPart_of_mem_steps
    (safe : placement.Safe) :
    ∀ step ∈ placement.steps, Files.IsPart step := by
  intro step member
  have whole := safe.not_mem_slash_of_mem_steps step member
  rcases List.mem_append.1 member with above | last
  · exact (safe.isSegment_of_mem_directory above).isPart
  · rw [List.mem_singleton.1 last] at whole ⊢
    exact
      { filled := placement.fileName_ne_points (by decide)
        notPoint := placement.fileName_ne_points (by decide)
        whole := whole }

private theorem Safe.up_not_mem_steps (safe : placement.Safe) :
    ".." ∉ placement.steps := by
  intro member
  rcases List.mem_append.1 member with above | last
  · have noPoint := (safe.isSegment_of_mem_directory above).point_not_mem
    exact noPoint (by decide)
  · exact placement.fileName_ne_points (by decide)
      (List.mem_singleton.1 last).symm

/-- No file lies on the way to another. -/
private theorem Safe.steps_eq_of_prefix
    (safe : other.Safe) (front : placement.steps <+: other.steps) :
    placement.steps = other.steps := by
  rcases List.prefix_concat_iff.1 front with same | above
  · exact same
  · have listed : placement.fileName ∈ placement.steps := by
      simp [steps]
    have segment := safe.isSegment_of_mem_directory (above.subset listed)
    exact absurd placement.point_mem_fileName segment.point_not_mem

private theorem Holds.parts_path (holds : placement.Holds artifact) :
    Files.parts artifact.path = placement.steps := by
  rw [holds.path, path_eq_intercalate]
  exact Files.parts_intercalate holds.safe.isPart_of_mem_steps

private theorem Holds.isEmpty_rootMark (holds : placement.Holds artifact) :
    (Files.rootMark artifact.path).isEmpty = true := by
  rw [holds.path, path_eq_intercalate]
  exact Files.isEmpty_rootMark_intercalate holds.safe.isPart_of_mem_steps

end Placement

section Runs

variable {config : Config} {document : Value} {report : Report}
  (completed : generate config document = .ok report)

include completed

private theorem exists_placement_of_generate
    {artifact : Artifact} (member : artifact ∈ report.artifacts) :
    ∃ placement : Placement, placement.Holds artifact := by
  rw [report_of_generate completed] at member
  exact exists_placement config document member

theorem parts_path_ne_nil
    {artifact : Artifact} (member : artifact ∈ report.artifacts) :
    Files.parts artifact.path ≠ [] := by
  obtain ⟨placement, holds⟩ := exists_placement_of_generate completed member
  rw [holds.parts_path, Placement.steps]
  exact List.append_ne_nil_of_right_ne_nil _ (List.cons_ne_nil _ _)

theorem place_join_path
    {γ : Type} (tree : Files.Tree γ) (output : String)
    {artifact : Artifact} (member : artifact ∈ report.artifacts) :
    tree.place (Files.join output artifact.path) =
      tree.place output ++ Files.parts artifact.path := by
  obtain ⟨placement, holds⟩ := exists_placement_of_generate completed member
  apply tree.place_join output holds.isEmpty_rootMark
  rw [holds.parts_path]
  exact holds.safe.up_not_mem_steps

/-- No file lies where another does, or on the way to it. -/
theorem artifacts_pairwise_beside :
    report.artifacts.Pairwise fun artifact other =>
      ¬ Files.parts artifact.path <+: Files.parts other.path ∧
        ¬ Files.parts other.path <+: Files.parts artifact.path := by
  have apart := artifacts_pairwise_apart config document
  rw [← report_of_generate completed] at apart
  refine apart.imp_of_mem ?_
  intro artifact other member member' different
  obtain ⟨placement, holds⟩ := exists_placement_of_generate completed member
  obtain ⟨placement', holds'⟩ :=
    exists_placement_of_generate completed member'
  have stepsDiffer : placement.steps ≠ placement'.steps := by
    intro same
    apply different.paths
    rw [holds.path, holds'.path, Placement.path_eq_intercalate,
      Placement.path_eq_intercalate, same]
  rw [holds.parts_path, holds'.parts_path]
  constructor
  · intro front
    exact stepsDiffer (holds'.safe.steps_eq_of_prefix front)
  · intro front
    exact stepsDiffer (holds.safe.steps_eq_of_prefix front).symm

end Runs

end OpenApiSharp
