import Mathlib
import OpenApiSharp.CommandLine.Effect
import OpenApiSharp.Proofs.Files.Write
import OpenApiSharp.Proofs.Generate.DistinctPaths
import OpenApiSharp.Proofs.Text.Encoding

/-!
# All files or none

A run that fails leaves the files as they are, and so does every inspection.  A
run of generation that completes creates one file for each artifact of its
report, where no file was, unless a text cannot be encoded: the files end there,
the last one empty.  The same run on what it left changes nothing.
-/

namespace OpenApiSharp.CommandLine

open Document Text

theorem dropControls_append
    {front : List Char} (plain : '\x1b' ∉ front) (back : List Char) :
    dropControls 0 (front ++ back) = front ++ dropControls 0 back := by
  induction front with
  | nil => rfl
  | cons c rest inductionHypothesis =>
      rw [List.mem_cons, not_or] at plain
      have none : controlLength (c :: (rest ++ back)) = 0 := by
        rw [controlLength]
        rintro parameters same
        exact plain.1 (List.cons.inj same).1.symm
      rw [List.cons_append, dropControls, none, inductionHypothesis plain.2]
      rfl

theorem withoutControls_append
    {front : String} (plain : '\x1b' ∉ front.toList) (back : String) :
    withoutControls (front ++ back) = front ++ withoutControls back := by
  rw [withoutControls, String.toList_append, dropControls_append plain,
    String.ofList_append, String.ofList_toList]
  rfl

@[simp]
theorem printed_singleton (line : String) :
    printed [line] = withoutControls (line ++ "\n") :=
  String.empty_append

/-- The number of the files is shown as it is. -/
private theorem exists_printed_summaryLine (output : String) (report : Report) :
    ∃ rest, printed [summaryLine output report] =
      "Generated " ++ toString report.artifacts.length ++ " files in " ++
        rest := by
  have plain :
      '\x1b' ∉ ("Generated " ++ toString report.artifacts.length ++
        " files in ").toList := by
    have noDigit : '\x1b' ∉ asciiDigits := by decide
    have noCount :
        '\x1b' ∉ (toString report.artifacts.length).toList := fun member =>
      noDigit (mem_asciiDigits_of_mem_toString member)
    simp only [String.toList_append, List.mem_append, not_or]
    exact ⟨⟨by decide, noCount⟩, by decide⟩
  have split :
      ∃ back, summaryLine output report ++ "\n" =
        "Generated " ++ toString report.artifacts.length ++ " files in " ++
          back := by
    apply Exists.intro
    delta summaryLine
    rw [String.append_assoc, String.append_assoc, String.append_assoc,
      String.append_assoc, String.append_assoc, String.append_assoc]
  obtain ⟨back, split⟩ := split
  rw [printed_singleton, split, withoutControls_append plain]
  exact ⟨_, rfl⟩

variable {plan : Plan} {storage : Storage}

/-- The files that are made when texts are written: those in front of the first
text that cannot be encoded, and the file of that text empty. -/
def madeFiles : List (String × String) → List (String × List UInt8)
  | [] => []
  | (path, content) :: rest =>
      match Utf8.encode content with
      | .error _ => [(path, [])]
      | .ok bytes => (path, bytes) :: madeFiles rest

/-- What is wrong with the first text that cannot be encoded. -/
def misfit? : List (String × String) → Option LoneSurrogates
  | [] => none
  | (_, content) :: rest =>
      match Utf8.encode content with
      | .error fault => some fault
      | .ok _ => misfit? rest

private theorem writeTexts_eq
    (storage : Storage) (files : List (String × String)) :
    writeTexts storage files =
      match storage.writeAll (madeFiles files) with
      | (written, none) => (written, (misfit? files).map .encoding)
      | (written, some fault) => (written, some (.file fault)) := by
  induction files generalizing storage with
  | nil => rfl
  | cons file rest inductionHypothesis =>
      obtain ⟨path, content⟩ := file
      rw [writeTexts, madeFiles, misfit?]
      cases Utf8.encode content with
      | error fault =>
          simp only [Except.toOption, Option.getD_none, Files.Tree.writeAll]
          cases storage.write path [] with
          | error _ => rfl
          | ok next => rfl
      | ok bytes =>
          simp only [Except.toOption, Option.getD_some, Files.Tree.writeAll]
          cases storage.write path bytes with
          | error _ => rfl
          | ok next => exact inductionHypothesis next

private theorem madeFiles_append
    {front : List (String × String)}
    (able : ∀ file ∈ front, IsEncodable file.2) (back : List (String × String)) :
    madeFiles (front ++ back) =
        (front.map fun file => (file.1, Utf8.bytesOf file.2)) ++
          madeFiles back ∧
      misfit? (front ++ back) = misfit? back := by
  induction front with
  | nil => exact ⟨rfl, rfl⟩
  | cons file rest inductionHypothesis =>
      obtain ⟨path, content⟩ := file
      rw [List.forall_mem_cons] at able
      obtain ⟨made, same⟩ := inductionHypothesis able.2
      rw [List.cons_append, madeFiles, misfit?,
        Utf8.encode_of_isEncodable able.1]
      exact ⟨congrArg ((path, Utf8.bytesOf content) :: ·) made, same⟩

private theorem made_of_no_file_fault
    (fine : ∀ fault, (plan.effect storage).interruption ≠ some (.file fault)) :
    storage.writeAll (madeFiles plan.files) =
      ((plan.effect storage).storage, none) := by
  rw [Plan.effect, writeTexts_eq] at fine ⊢
  cases ended : storage.writeAll (madeFiles plan.files) with
  | mk written fault =>
      rw [ended] at fine
      cases fault with
      | none => cases misfit? plan.files <;> rfl
      | some fault => exact absurd rfl (fine fault)

private theorem effect_of_made
    {written : Storage}
    (made : storage.writeAll (madeFiles plan.files) = (written, none)) :
    plan.effect storage =
      match misfit? plan.files with
      | none =>
          { storage := written
            exitCode := plan.exitCode
            transcript := plan.transcript }
      | some fault =>
          { storage := written
            exitCode := 1
            transcript := plan.opening
            interruption := some (.encoding fault) } := by
  rw [Plan.effect, writeTexts_eq, made]
  cases misfit? plan.files <;> rfl

private theorem effect_of_no_files
    (none : plan.files = []) (storage : Storage) :
    plan.effect storage =
      { storage, exitCode := plan.exitCode, transcript := plan.transcript } := by
  rw [Plan.effect, none]
  rfl

@[simp]
private theorem planInspect_files
    (verbose : Bool) (loaded : Except LoadFault Value) :
    (planInspect verbose loaded).files = [] := by
  cases loaded with
  | error fault => rfl
  | ok value =>
      simp only [planInspect]
      split <;> rfl

section Requests

variable {request : Request} {reader : Reader}

private theorem effect_of_refused
    {fault : UsageFault} (refused : request.check storage.kind = .error fault) :
    (request.effect reader storage).storage = storage ∧
      (request.effect reader storage).exitCode ≠ 0 := by
  rw [Request.effect, refused]
  exact ⟨rfl, Nat.succ_ne_zero 1⟩

private theorem effect_of_accepted
    (accepted : request.check storage.kind = .ok ()) :
    request.effect reader storage =
      (request.plan reader (request.content storage)).effect storage := by
  rw [Request.effect, accepted]

end Requests

abbrev generation (verbose : Bool) (document output : String)
    (config : Config) : Request :=
  { verbose, command := .generate document output config }

abbrev inspection (verbose : Bool) (document : String) : Request :=
  { verbose, command := .inspect document }

private theorem check_generation_eq_ok_iff
    {verbose : Bool} {document output : String} {config : Config}
    {kind : String → Files.Kind} :
    (generation verbose document output config).check kind = .ok () ↔
      kind document = .file ∧ kind output ≠ .file := by
  simp only [Request.check, Command.document]
  cases kind document with
  | missing => simp
  | directory => simp
  | file =>
      by_cases asFile : kind output = .file <;> simp [asFile]

/-- No file lies at a place or below it. -/
def IsFree (storage : Storage) (location : List String) : Prop :=
  ∀ file ∈ storage.files, ¬ location <+: file.1

/-- Files at their places below an output. -/
def placed (storage : Storage) (output : String)
    (files : List (String × List UInt8)) : List (List String × List UInt8) :=
  files.map fun file => (storage.place output ++ Files.parts file.1, file.2)

/-- Files by their paths, which lead through an output. -/
def below (output : String) (files : List (String × List UInt8)) :
    List (String × List UInt8) :=
  files.map fun file => (Files.join output file.1, file.2)

/-- Artifacts as files. -/
def storedArtifacts (artifacts : List Artifact) : List (String × List UInt8) :=
  artifacts.map fun artifact => (artifact.path, Utf8.bytesOf artifact.content)

/-- Files that have places below every output and are not in the way of each
other. -/
structure AreSeparate (files : List (String × List UInt8)) : Prop where
  named : ∀ file ∈ files, Files.parts file.1 ≠ []
  place_join :
    ∀ file ∈ files, ∀ (storage : Storage) (output : String),
      storage.place (Files.join output file.1) =
        storage.place output ++ Files.parts file.1
  beside :
    files.Pairwise fun file other =>
      ¬ Files.parts file.1 <+: Files.parts other.1 ∧
        ¬ Files.parts other.1 <+: Files.parts file.1

private theorem isFree_content?
    {location further : List String} (free : IsFree storage location) :
    storage.content? (location ++ further) = none := by
  rw [Files.Tree.content?, ← Option.not_isSome_iff_eq_none,
    Keyed.find?_isSome_iff]
  intro listed
  obtain ⟨file, member, same⟩ := List.mem_map.1 listed
  apply free file member
  rw [same]
  exact List.prefix_append location further

/-- The first files of a run are separate, whatever they hold. -/
private theorem areSeparate_of_generate
    {config : Config} {value : Value} {report : Report}
    (completed : generate config value = .ok report)
    {files : List (String × List UInt8)}
    (front : files.map Prod.fst <+: report.artifacts.map Artifact.path) :
    AreSeparate files := by
  have listed :
      ∀ file ∈ files, ∃ artifact ∈ report.artifacts, artifact.path = file.1 :=
    fun file member =>
      List.mem_map.1 (front.subset (List.mem_map_of_mem member))
  refine ⟨?_, ?_, ?_⟩
  · intro file member
    obtain ⟨artifact, present, same⟩ := listed file member
    rw [← same]
    exact parts_path_ne_nil completed present
  · intro file member storage output
    obtain ⟨artifact, present, same⟩ := listed file member
    rw [← same]
    exact place_join_path completed storage output present
  · have apart :
        (report.artifacts.map Artifact.path).Pairwise fun path other =>
          ¬ Files.parts path <+: Files.parts other ∧
            ¬ Files.parts other <+: Files.parts path := by
      rw [List.pairwise_map]
      exact artifacts_pairwise_beside completed
    exact List.pairwise_map.1 (apart.sublist front.sublist)

section Separate

variable {files : List (String × List UInt8)} {output : String}
  (separate : AreSeparate files)

include separate

private theorem placed_eq (storage : Storage) (output : String) :
    placed storage output files =
      (below output files).map fun entry =>
        (storage.place entry.1, entry.2) := by
  rw [below, List.map_map]
  apply List.map_congr_left
  intro file member
  rw [Function.comp_apply, separate.place_join file member]

private theorem placed_pairwise_beside (storage : Storage) (output : String) :
    (placed storage output files).Pairwise fun file other =>
      ¬ file.1 <+: other.1 ∧ ¬ other.1 <+: file.1 := by
  rw [placed, List.pairwise_map]
  refine separate.beside.imp ?_
  intro file other beside
  rw [List.prefix_append_right_inj, List.prefix_append_right_inj]
  exact beside

private theorem nodup_placed (storage : Storage) (output : String) :
    ((placed storage output files).map Prod.fst).Nodup := by
  rw [List.Nodup, List.pairwise_map]
  refine (placed_pairwise_beside separate storage output).imp ?_
  intro file other beside same
  have front : file.1 <+: other.1 :=
    ⟨[], (List.append_nil file.1).trans same⟩
  exact beside.1 front

private theorem named_of_mem_below :
    ∀ entry ∈ below output files, Files.parts entry.1 ≠ [] := by
  intro entry member
  obtain ⟨file, present, rfl⟩ := List.mem_map.1 member
  rw [Files.parts_join]
  exact List.append_ne_nil_of_right_ne_nil _ (separate.named file present)

private theorem place_ne_output :
    ∀ entry ∈ below output files,
      storage.place entry.1 ≠ storage.place output := by
  intro entry member same
  obtain ⟨file, present, rfl⟩ := List.mem_map.1 member
  rw [separate.place_join file present] at same
  exact separate.named file present (List.append_right_eq_self.1 same)

private theorem fresh_of_isFree (free : IsFree storage (storage.place output)) :
    ∀ entry ∈ below output files,
      storage.content? (storage.place entry.1) = none := by
  intro entry member
  obtain ⟨file, present, rfl⟩ := List.mem_map.1 member
  rw [separate.place_join file present]
  exact isFree_content? free

section Written

variable {written : Storage}
  (wrote : storage.Wrote written (below output files))

include wrote

private theorem files_of_wrote (free : IsFree storage (storage.place output)) :
    written.files = storage.files ++ placed storage output files := by
  rw [wrote.files, ← placed_eq separate storage output]
  apply Keyed.foldl_put_of_nodup (nodup_placed separate storage output)
  intro location member
  obtain ⟨file, present, rfl⟩ := List.mem_map.1 member
  obtain ⟨_, _, rfl⟩ := List.mem_map.1 present
  rw [← Keyed.find?_isSome_iff, Option.not_isSome_iff_eq_none]
  exact isFree_content? free

/-- Every file that was written is there. -/
private theorem there_of_wrote :
    ∀ entry ∈ below output files,
      Files.parts entry.1 ≠ [] ∧
        ∃ location, written.follow entry.1 = .reached location ∧
          written.content? location = some entry.2 := by
  have once :
      ((below output files).map fun entry => storage.place entry.1).Nodup := by
    have distinct := nodup_placed separate storage output
    rw [placed_eq separate, List.map_map] at distinct
    exact distinct
  intro entry member
  exact ⟨named_of_mem_below separate entry member, _,
    wrote.arrived entry member, wrote.held once entry member⟩

private theorem readable_of_wrote :
    ∀ file ∈ files,
      written.read? (Files.join output file.1) = some file.2 := by
  intro file member
  obtain ⟨_, location, arrived, held⟩ :=
    there_of_wrote separate wrote _ (List.mem_map.2 ⟨file, member, rfl⟩)
  simp only [Files.Tree.read?, arrived, held]

end Written

end Separate

/-- A request leaves files below an output that were not there. -/
structure Creates (request : Request) (reader : Reader) (storage : Storage)
    (output : String) (files : List (String × List UInt8)) : Prop where
  /-- These files are created, and the others are untouched. -/
  created :
    (request.effect reader storage).storage.files =
      storage.files ++ placed storage output files
  fresh :
    ∀ file ∈ placed storage output files, storage.content? file.1 = none
  /-- No file lies where another does, or on the way to it. -/
  beside :
    (placed storage output files).Pairwise fun file other =>
      ¬ file.1 <+: other.1 ∧ ¬ other.1 <+: file.1
  readable :
    ∀ file ∈ files,
      (request.effect reader storage).storage.read?
        (Files.join output file.1) = some file.2
  repeated :
    (request.effect reader (request.effect reader storage).storage).storage =
      (request.effect reader storage).storage

/-- What a request prints before it writes files. -/
def greeting (request : Request) : String :=
  printed ["Parsing " ++ Files.normalize request.command.document ++ "..."]

/-- A request creates the files of a report and tells their number. -/
structure Delivers (request : Request) (reader : Reader) (storage : Storage)
    (output : String) (report : Report) : Prop where
  exitCode : (request.effect reader storage).exitCode = 0
  creates :
    Creates request reader storage output (storedArtifacts report.artifacts)
  counted :
    ∃ rest, (request.effect reader storage).transcript.output =
      greeting request ++
        ("Generated " ++
          toString
            (placed storage output (storedArtifacts report.artifacts)).length ++
          " files in " ++ rest)

/-- A request creates the files of some artifacts and then an empty one, since the
text of the next artifact cannot be encoded. -/
structure BreaksOff (request : Request) (reader : Reader) (storage : Storage)
    (output : String) (front : List Artifact) (next : Artifact) : Prop where
  exitCode : (request.effect reader storage).exitCode = 1
  creates :
    Creates request reader storage output
      (storedArtifacts front ++ [(next.path, [])])
  reason :
    ∃ fault, Utf8.encode next.content = .error fault ∧
      (request.effect reader storage).interruption = some (.encoding fault)
  uncounted :
    (request.effect reader storage).transcript.output = greeting request

section Runs

variable {verbose : Bool} {document output : String} {config : Config}
  {reader : Reader} {value : Value} {report : Report}

private theorem plan_generation
    (verbose : Bool) (output : String) {content : Except FileFault (List UInt8)}
    (loaded : reader.load document content = .ok value)
    (completed : generate config value = .ok report) :
    let request := generation verbose document output config
    let plan := request.plan reader content
    plan.files = filesBelow output report ∧ plan.exitCode = 0 ∧
      plan.opening.output = greeting request ∧
      plan.transcript.output =
        greeting request ++ printed [summaryLine output report] := by
  simp only [Request.plan, Command.document, loaded, planGenerate, completed]
  exact ⟨trivial, rfl, rfl, rfl⟩

variable
  (whole : storage.IsWhole)
  (free : IsFree storage (storage.place output))
  (accepted :
    (generation verbose document output config).check storage.kind = .ok ())
  {files : List (String × List UInt8)} (separate : AreSeparate files)

include whole free accepted separate

/-- To write files below the output keeps the document and the output what they
are. -/
private theorem accepted_of_wrote
    {written : Storage} (wrote : storage.Wrote written (below output files)) :
    (generation verbose document output config).check written.kind = .ok () ∧
      (generation verbose document output config).content written =
        (generation verbose document output config).content storage := by
  obtain ⟨file, _⟩ := check_generation_eq_ok_iff.1 accepted
  have noOutput : storage.content? (storage.place output) = none := by
    have atOnce : storage.content? (storage.place output ++ []) = none :=
      isFree_content? free
    rw [List.append_nil] at atOnce
    exact atOnce
  obtain ⟨kept, same⟩ :=
    wrote.file_kept whole (fresh_of_isFree separate free) file
  have stillNone :=
    wrote.kind_ne_file whole noOutput (place_ne_output separate)
  constructor
  · exact check_generation_eq_ok_iff.2 ⟨kept, stillNone⟩
  · simp only [Request.content, Command.document, same]

variable
  (loaded :
    reader.load document
        ((generation verbose document output config).content storage) =
      .ok value)
  (completed : generate config value = .ok report)
  (made : madeFiles (filesBelow output report) = below output files)
  (fine : ∀ fault,
    ((generation verbose document output config).effect reader
      storage).interruption ≠ some (.file fault))

include loaded completed made fine

omit whole free separate in
private theorem writeAll_of_fine :
    storage.writeAll (below output files) =
      (((generation verbose document output config).effect reader
        storage).storage, none) := by
  rw [effect_of_accepted accepted] at fine ⊢
  obtain ⟨sameFiles, _⟩ := plan_generation verbose output loaded completed
  have done := made_of_no_file_fault fine
  rw [sameFiles, made] at done
  exact done

private theorem creates_of_made :
    Creates (generation verbose document output config) reader storage output
      files := by
  have done := writeAll_of_fine accepted loaded completed made fine
  have wrote := whole.writeAll_wrote (named_of_mem_below separate) done
  refine ⟨files_of_wrote separate wrote free, ?_,
    placed_pairwise_beside separate storage output,
    readable_of_wrote separate wrote, ?_⟩
  · intro file member
    obtain ⟨_, _, rfl⟩ := List.mem_map.1 member
    exact isFree_content? free
  · generalize
      ((generation verbose document output config).effect reader
        storage).storage = written at done wrote
    obtain ⟨stillAccepted, same⟩ :=
      accepted_of_wrote whole free accepted separate wrote
    obtain ⟨sameFiles, _⟩ := plan_generation verbose output loaded completed
    have again :
        written.writeAll (below output files) = (written, none) :=
      (wrote.grows.isWhole whole).writeAll_again
        (there_of_wrote separate wrote)
    rw [← made, ← sameFiles] at again
    rw [effect_of_accepted stillAccepted, same, effect_of_made again]
    cases misfit? _ <;> rfl

end Runs

/-! ## How runs end -/

/-- A request fails and leaves the files as they are. -/
structure Fails (request : Request) (reader : Reader) (storage : Storage) :
    Prop where
  exitCode : (request.effect reader storage).exitCode ≠ 0
  kept : (request.effect reader storage).storage = storage

/-- How a run of generation ends. -/
inductive GenerationEnds (request : Request) (reader : Reader)
    (document output : String) (config : Config) (storage : Storage) : Prop where
  /-- The request cannot be met. -/
  | refused (fault : UsageFault)
      (checked : request.check storage.kind = .error fault)
      (fails : Fails request reader storage)
  /-- The document cannot be loaded. -/
  | rejected (fault : LoadFault)
      (loaded :
        reader.load document (request.content storage) = .error fault)
      (fails : Fails request reader storage)
  /-- The generation itself breaks off. -/
  | broken (value : Value) (fault : Service.KeyFault)
      (loaded : reader.load document (request.content storage) = .ok value)
      (ended : generate config value = .error fault)
      (fails : Fails request reader storage)
  /-- There is a report.  If the output holds no files and the file system does
  not hinder the writing, its files are delivered, or the first ones of them if a
  text cannot be encoded. -/
  | completed (value : Value) (report : Report)
      (loaded : reader.load document (request.content storage) = .ok value)
      (ended : generate config value = .ok report)
      (writes :
        IsFree storage (storage.place output) →
          (∀ fault, (request.effect reader storage).interruption ≠
            some (.file fault)) →
          ((∀ artifact ∈ report.artifacts, IsEncodable artifact.content) →
            Delivers request reader storage output report) ∧
          ∀ front next back, report.artifacts = front ++ next :: back →
            (∀ artifact ∈ front, IsEncodable artifact.content) →
              ¬ IsEncodable next.content →
                BreaksOff request reader storage output front next)

section Ends

variable {verbose : Bool} {document output : String} {config : Config}
  {reader : Reader}

private theorem fails_of_plan
    {request : Request} (accepted : request.check storage.kind = .ok ())
    (none : (request.plan reader (request.content storage)).files = [])
    (ending :
      (request.plan reader (request.content storage)).exitCode ≠ 0) :
    Fails request reader storage := by
  have ended := effect_of_no_files none storage
  rw [← effect_of_accepted accepted] at ended
  constructor
  · rw [ended]
    exact ending
  · rw [ended]

variable {value : Value} {report : Report}
  (whole : storage.IsWhole)
  (free : IsFree storage (storage.place output))
  (accepted :
    (generation verbose document output config).check storage.kind = .ok ())
  (loaded :
    reader.load document
        ((generation verbose document output config).content storage) =
      .ok value)
  (completed : generate config value = .ok report)
  (fine : ∀ fault,
    ((generation verbose document output config).effect reader
      storage).interruption ≠ some (.file fault))

include whole free accepted loaded completed fine

private theorem delivers_of_isEncodable
    (able : ∀ artifact ∈ report.artifacts, IsEncodable artifact.content) :
    Delivers (generation verbose document output config) reader storage output
      report := by
  have ableFiles :
      ∀ file ∈ filesBelow output report, IsEncodable file.2 := by
    intro file member
    obtain ⟨artifact, present, rfl⟩ := List.mem_map.1 member
    exact able artifact present
  obtain ⟨made, noMisfit⟩ := madeFiles_append ableFiles []
  have through :
      madeFiles (filesBelow output report) =
        below output (storedArtifacts report.artifacts) := by
    rw [← List.append_nil (filesBelow output report), made]
    simp only [filesBelow, below, storedArtifacts, madeFiles, List.map_map,
      List.append_nil]
    rfl
  rw [List.append_nil] at noMisfit
  have separate : AreSeparate (storedArtifacts report.artifacts) := by
    apply areSeparate_of_generate completed
    rw [storedArtifacts, List.map_map]
    exact List.prefix_refl _
  have creates :=
    creates_of_made whole free accepted separate loaded completed through fine
  have done := writeAll_of_fine accepted loaded completed through fine
  obtain ⟨files, exitCode, _, shown⟩ :=
    plan_generation verbose output loaded completed
  rw [← through, ← files] at done
  rw [← files, misfit?] at noMisfit
  have effect :=
    (effect_of_accepted accepted).trans (effect_of_made done)
  rw [noMisfit] at effect
  refine ⟨?_, creates, ?_⟩
  · rw [effect]
    exact exitCode
  · obtain ⟨rest, counted⟩ := exists_printed_summaryLine output report
    refine ⟨rest, ?_⟩
    rw [effect, shown, counted, placed, storedArtifacts, List.length_map,
      List.length_map]

private theorem breaksOff_of_not_isEncodable
    {front back : List Artifact} {next : Artifact}
    (parts : report.artifacts = front ++ next :: back)
    (able : ∀ artifact ∈ front, IsEncodable artifact.content)
    (unable : ¬ IsEncodable next.content) :
    BreaksOff (generation verbose document output config) reader storage output
      front next := by
  obtain ⟨fault, misfit⟩ := Utf8.exists_encode_of_not_isEncodable unable
  have ableFiles :
      ∀ file ∈ front.map fun artifact =>
          (Files.join output artifact.path, artifact.content),
        IsEncodable file.2 := by
    intro file member
    obtain ⟨artifact, present, rfl⟩ := List.mem_map.1 member
    exact able artifact present
  obtain ⟨made, misfits⟩ :=
    madeFiles_append ableFiles
      ((next :: back).map fun artifact =>
        (Files.join output artifact.path, artifact.content))
  rw [← List.map_append, ← parts] at made misfits
  rw [List.map_cons, misfit?, misfit] at misfits
  rw [List.map_cons, madeFiles, misfit] at made
  have through :
      madeFiles (filesBelow output report) =
        below output (storedArtifacts front ++ [(next.path, [])]) := by
    rw [filesBelow, made]
    simp only [below, storedArtifacts, List.map_append, List.map_map,
      List.map_cons, List.map_nil]
    rfl
  have separate :
      AreSeparate (storedArtifacts front ++ [(next.path, [])]) := by
    apply areSeparate_of_generate completed
    rw [parts, storedArtifacts, List.map_append, List.map_map, List.map_append]
    exact (List.prefix_append_right_inj _).2 ⟨back.map Artifact.path, rfl⟩
  have creates :=
    creates_of_made whole free accepted separate loaded completed through fine
  have done := writeAll_of_fine accepted loaded completed through fine
  obtain ⟨files, _, shown, _⟩ :=
    plan_generation verbose output loaded completed
  rw [← through, ← files] at done
  rw [← filesBelow, ← files] at misfits
  have effect :=
    (effect_of_accepted accepted).trans (effect_of_made done)
  rw [misfits] at effect
  refine ⟨?_, creates, ⟨fault, misfit, ?_⟩, ?_⟩
  · rw [effect]
  · rw [effect]
  · rw [effect]
    exact shown

end Ends

private theorem generation_ends
    (whole : storage.IsWhole) (reader : Reader) (verbose : Bool)
    (document output : String) (config : Config) :
    GenerationEnds (generation verbose document output config) reader document
      output config storage := by
  cases checked :
      (generation verbose document output config).check storage.kind with
  | error fault =>
      have refusal :
          ((generation verbose document output config).effect reader
              storage).storage = storage ∧
            ((generation verbose document output config).effect reader
              storage).exitCode ≠ 0 :=
        effect_of_refused checked
      exact .refused fault checked ⟨refusal.2, refusal.1⟩
  | ok accepted =>
      cases loaded :
          reader.load document
            ((generation verbose document output config).content storage) with
      | error fault =>
          refine .rejected fault loaded (fails_of_plan checked ?_ ?_)
          · simp only [Request.plan, Command.document, loaded, planGenerate,
              rejection]
          · simp only [Request.plan, Command.document, loaded, planGenerate,
              rejection, Plan.exitCode]
            exact Nat.one_ne_zero
      | ok value =>
          cases ended : generate config value with
          | error fault =>
              refine .broken value fault loaded ended
                (fails_of_plan checked ?_ ?_)
              · simp only [Request.plan, Command.document, loaded,
                  planGenerate, ended]
              · simp only [Request.plan, Command.document, loaded,
                  planGenerate, ended, Plan.exitCode]
                exact Nat.one_ne_zero
          | ok report =>
              refine .completed value report loaded ended ?_
              intro free fine
              constructor
              · intro able
                exact delivers_of_isEncodable whole free checked loaded ended
                  fine able
              · intro front next back parts able unable
                exact breaksOff_of_not_isEncodable whole free checked loaded
                  ended fine parts able unable

private theorem inspection_keeps_storage
    (reader : Reader) (verbose : Bool) (document : String)
    (storage : Storage) :
    ((inspection verbose document).effect reader storage).storage =
      storage := by
  cases checked : (inspection verbose document).check storage.kind with
  | error fault => exact (effect_of_refused checked).1
  | ok accepted =>
      have none :
          ((inspection verbose document).plan reader
            ((inspection verbose document).content storage)).files = [] :=
        planInspect_files _ _
      rw [effect_of_accepted checked, effect_of_no_files none storage]

/-- In a tree of all files, whatever reads the documents, a run of generation
either fails and creates no file or delivers the files of its report, unless one
of their texts cannot be encoded; and an inspection creates none. -/
theorem effects_are_all_or_none_if_encodable
    (reader : Reader) (storage : Storage) (whole : storage.IsWhole) :
    (∀ verbose document output config,
      GenerationEnds (generation verbose document output config) reader document
        output config storage) ∧
      ∀ verbose document,
        ((inspection verbose document).effect reader storage).storage =
          storage :=
  ⟨generation_ends whole reader,
    fun verbose document =>
      inspection_keeps_storage reader verbose document storage⟩

/-- A current directory with a document in it. -/
def storageOf (document text : String) : Storage where
  files := [(["work", document], Utf8.bytesOf text)]
  current? := some ["work"]

private theorem storageOf_isWhole (document text : String) :
    (storageOf document text).IsWhole where
  current := rfl
  bases := by
    intro mark
    rw [Files.Tree.base]
    split <;> rfl

private theorem load_standard_of_readJson
    {document text : String} {value : Value}
    (format : Format.ofSuffix (Files.suffix document) = .json)
    (decoded : Utf8.decodeMarked (Utf8.bytesOf text) = .ok text.toList)
    (lines : normalizeLineEnds text.toList = text.toList)
    (read : readJson text.toList = .ok value)
    (valid : Specification.validate value = .ok value) :
    Reader.standard.load document (.ok (Utf8.bytesOf text)) = .ok value := by
  simp only [Reader.load, Reader.parse, Reader.read, Reader.standard, decoded,
    lines, format, read, valid, Except.mapError, bind, Except.bind]

private theorem fine_of_writeAll
    {verbose : Bool} {document output : String} {config : Config}
    {reader : Reader} {value : Value} {report : Report}
    (accepted :
      (generation verbose document output config).check storage.kind = .ok ())
    (loaded :
      reader.load document
          ((generation verbose document output config).content storage) =
        .ok value)
    (completed : generate config value = .ok report)
    (wrote :
      (storage.writeAll (madeFiles (filesBelow output report))).2 = none) :
    ∀ fault,
      ((generation verbose document output config).effect reader
        storage).interruption ≠ some (.file fault) := by
  intro fault interrupted
  obtain ⟨files, _⟩ := plan_generation verbose output loaded completed
  rw [← files] at wrote
  rw [effect_of_accepted accepted, effect_of_made (Prod.ext rfl wrote)]
    at interrupted
  revert interrupted
  cases misfit? _ <;> exact fun same => nomatch same

def coinText : String :=
  "\x7b\"paths\": \x7b\"/coins\": \x7b\"get\": \x7b\x7d\x7d\x7d, " ++
    "\"definitions\": \x7b\"Coin\": \x7b\x7d\x7d\x7d"

def coinValue : Value :=
  .map
    [(.text "paths", .map [(.text "/coins", .map [(.text "get", .map [])])]),
     (.text "definitions", .map [(.text "Coin", .map [])])]

theorem coins_are_delivered :
    (storageOf "coins.json" coinText).IsWhole ∧
      Delivers (generation false "coins.json" "out" {}) .standard
        (storageOf "coins.json" coinText) "out"
        (Run.ofDocument {} coinValue).report := by
  have whole := storageOf_isWhole "coins.json" coinText
  have ends :=
    (effects_are_all_or_none_if_encodable .standard _ whole).1 false
      "coins.json" "out" {}
  have accepted :
      (generation false "coins.json" "out" {}).check
        (storageOf "coins.json" coinText).kind = .ok () := by
    rw [check_generation_eq_ok_iff]
    decide +kernel
  have loaded :
      Reader.standard.load "coins.json"
          ((generation false "coins.json" "out" {}).content
            (storageOf "coins.json" coinText)) =
        .ok coinValue :=
    load_standard_of_readJson (by decide +kernel) (by decide +kernel)
      (by decide +kernel) (by cbv) (by rfl)
  have completed :
      generate {} coinValue = .ok (Run.ofDocument {} coinValue).report := by
    rfl
  have free :
      IsFree (storageOf "coins.json" coinText)
        ((storageOf "coins.json" coinText).place "out") := by
    rw [IsFree]
    decide +kernel
  obtain ⟨wrote, able⟩ :
      ((storageOf "coins.json" coinText).writeAll
        (madeFiles
          (filesBelow "out" (Run.ofDocument {} coinValue).report))).2 = none ∧
        ∀ artifact ∈ (Run.ofDocument {} coinValue).report.artifacts,
          IsEncodable artifact.content := by
    decide +kernel
  have fine := fine_of_writeAll accepted loaded completed wrote
  refine ⟨whole, ?_⟩
  cases ends with
  | refused fault checked fails =>
      rw [accepted] at checked
      cases checked
  | rejected fault unreadable fails =>
      rw [loaded] at unreadable
      cases unreadable
  | broken value fault read ended fails =>
      rw [← Except.ok.inj (loaded.symm.trans read), completed] at ended
      cases ended
  | completed value report read ended writes =>
      rw [← Except.ok.inj (loaded.symm.trans read), completed] at ended
      rw [Except.ok.inj ended] at able ⊢
      exact (writes free fine).1 able

/-- Two definitions, the second one with half of a surrogate pair in its
description. -/
def halfText : String :=
  "\x7b\"paths\": \x7b\x7d, \"definitions\": " ++
    "\x7b\"A\": \x7b\x7d, \"B\": \x7b\"description\": \"\\ud800\"\x7d\x7d\x7d"

def halfValue : Value :=
  .map
    [(.text "paths", .map []),
     (.text "definitions", .map
      [(.text "A", .map []),
       (.text "B", .map
        [(.text "description", .text (textOfCodes [0xd800]))])])]

/-- Although its document is loaded and its report is complete, a run leaves one
file of two with its text behind, and fails. -/
theorem effects_are_not_all_or_none :
    (storageOf "halves.json" halfText).IsWhole ∧
      IsFree (storageOf "halves.json" halfText)
        ((storageOf "halves.json" halfText).place "out") ∧
      (∀ fault,
        ((generation false "halves.json" "out" {}).effect .standard
          (storageOf "halves.json" halfText)).interruption ≠
            some (.file fault)) ∧
      ¬ Fails (generation false "halves.json" "out" {}) .standard
          (storageOf "halves.json" halfText) ∧
      ∀ report,
        ¬ Delivers (generation false "halves.json" "out" {}) .standard
          (storageOf "halves.json" halfText) "out" report := by
  have whole := storageOf_isWhole "halves.json" halfText
  have accepted :
      (generation false "halves.json" "out" {}).check
        (storageOf "halves.json" halfText).kind = .ok () := by
    rw [check_generation_eq_ok_iff]
    decide +kernel
  have loaded :
      Reader.standard.load "halves.json"
          ((generation false "halves.json" "out" {}).content
            (storageOf "halves.json" halfText)) =
        .ok halfValue :=
    load_standard_of_readJson (by decide +kernel) (by decide +kernel)
      (by decide +kernel) (by cbv) (by rfl)
  have completed :
      generate {} halfValue = .ok (Run.ofDocument {} halfValue).report := by
    rfl
  have free :
      IsFree (storageOf "halves.json" halfText)
        ((storageOf "halves.json" halfText).place "out") := by
    rw [IsFree]
    decide +kernel
  obtain ⟨wrote, two, able, unable⟩ :
      ((storageOf "halves.json" halfText).writeAll
        (madeFiles
          (filesBelow "out" (Run.ofDocument {} halfValue).report))).2 = none ∧
        (Run.ofDocument {} halfValue).report.artifacts.length = 2 ∧
        (∀ artifact ∈ (Run.ofDocument {} halfValue).report.artifacts.take 1,
          IsEncodable artifact.content) ∧
        ∀ artifact ∈ (Run.ofDocument {} halfValue).report.artifacts.drop 1,
          ¬ IsEncodable artifact.content := by
    decide +kernel
  have fine := fine_of_writeAll accepted loaded completed wrote
  obtain ⟨first, second, parts⟩ := List.length_eq_two.1 two
  rw [parts] at able unable
  have breaksOff :
      BreaksOff (generation false "halves.json" "out" {}) .standard
        (storageOf "halves.json" halfText) "out" [first] second :=
    breaksOff_of_not_isEncodable whole free accepted loaded completed fine parts
      able (unable second (List.mem_singleton_self second))
  refine ⟨whole, free, fine, ?_, ?_⟩
  · intro fails
    have created := breaksOff.creates.created
    rw [fails.kept] at created
    have lengths := congrArg List.length created
    rw [List.length_append, placed, List.length_map, List.length_append,
      List.length_singleton] at lengths
    omega
  · intro report delivers
    have exits := breaksOff.exitCode
    rw [delivers.exitCode] at exits
    cases exits

end OpenApiSharp.CommandLine
