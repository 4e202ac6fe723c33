import OpenApiSharp.Proofs.Model.ShownKeys
import OpenApiSharp.Proofs.Model.UniqueNames
import OpenApiSharp.Proofs.Report
import OpenApiSharp.Proofs.Service.ShownLines

/-!
# The lines of generated files

Every file is laid out as a list of lines.  It has just these lines as long as no
text of the document ends one of them.  Only the texts that stand in literals can
do so: the keys of properties, the parts of URLs and the names in queries.
-/

namespace OpenApiSharp

open CSharp Document Naming Text

def Config.texts (config : Config) : List String :=
  [config.modelsNamespace, config.servicesNamespace, config.httpClient] ++
    config.httpClientNamespace.toList

/-- No text of the settings has a quote or a backslash. -/
def Config.Unquoted (config : Config) : Prop :=
  ∀ text ∈ config.texts, '"' ∉ text.toList ∧ '\\' ∉ text.toList

def Model.Descriptor.layouts
    (descriptor : Descriptor) (index : NamespaceIndex) :
    List (List String) :=
  match descriptor.declaration index with
  | .ok declaration => [declaration.lines]
  | .error _ => []

def ServiceRun.layouts (service : ServiceRun) : List (List String) :=
  [service.declaration.interfaceLines,
   service.declaration.implementationLines]

def ServiceRun.literalTexts (service : ServiceRun) : List String :=
  service.results.flatMap fun result => result.1.literalTexts

def Run.layouts (run : Run) : List (List String) :=
  (run.descriptors.flatMap fun descriptor =>
      descriptor.layouts (Model.indexOf run.descriptors)) ++
    run.services.flatMap ServiceRun.layouts

/-- The texts of the document that stand in literals of the files. -/
def Run.literalTexts (run : Run) : List String :=
  run.descriptors.flatMap Model.Descriptor.literalTexts ++
    run.services.flatMap ServiceRun.literalTexts

section Contents

theorem Model.Descriptor.map_content_artifacts
    (descriptor : Descriptor) (index : NamespaceIndex) :
    (descriptor.generate index).artifacts.map Artifact.content =
      (descriptor.layouts index).map textOfLines := by
  rw [generate, layouts]
  cases descriptor.declaration index <;> rfl

/-- The files of a run are made of its lines. -/
theorem Run.map_content_artifacts (config : Config) (document : Value) :
    (Run.ofDocument config document).report.artifacts.map Artifact.content =
      (Run.ofDocument config document).layouts.map textOfLines := by
  rw [Run.report_artifacts, Run.layouts, List.map_append, List.map_append,
    List.map_flatMap, List.map_flatMap, List.map_flatMap, List.map_flatMap]
  congr 1
  simp only [Run.ofDocument, List.flatMap_map,
    Model.Descriptor.map_content_artifacts]

end Contents

private theorem Model.markless_name
    {schemas : List (String × Value)} {config : Config}
    {descriptor : Descriptor} (member : descriptor ∈ inventory schemas config) :
    Markless descriptor.name :=
  name_induction Markless markless_typeName
    (fun _ counter named => named.append (markless_toString counter)) member

private theorem markless_of_mem_serviceNames
    {cleanup : Cleanup} {tags : List String} {name : String}
    (member : name ∈ serviceNames cleanup tags) : Markless name := by
  obtain ⟨tag, _, used, chosen⟩ := exists_choice_of_mem_assign member
  rw [chosen]
  exact
    markless_uniqueNameIgnoringCase (markless_serviceBaseName tag cleanup) _

section Plain

variable {config : Config}
  (settings : ∀ text ∈ config.texts, OnOneLine text.toList)

include settings

private theorem Config.plain {text : String} (member : text ∈ config.texts) :
    Plain config.Unquoted text where
  oneLine := settings text member
  noQuote := fun unquoted => (unquoted text member).1
  noBackslash := fun unquoted => (unquoted text member).2

private theorem Config.plain_namespaces :
    Plain config.Unquoted config.interfacesNamespace ∧
      Plain config.Unquoted config.implementationsNamespace := by
  have interfaces : Markless ".Interfaces" := by decide
  have implementations : Markless ".Implementations" := by decide
  have services : Plain config.Unquoted config.servicesNamespace :=
    config.plain settings (by simp [texts])
  exact
    ⟨services.append (interfaces.plain _),
      services.append (implementations.plain _)⟩

section Models

variable {schemas : List (String × Value)}

private theorem Model.plain_namespaceName
    {descriptor : Descriptor} (member : descriptor ∈ inventory schemas config) :
    Plain config.Unquoted descriptor.namespaceName := by
  have models : Plain config.Unquoted config.modelsNamespace :=
    config.plain settings (by simp [Config.texts])
  have dot : Markless "." := by decide
  have ending :
      Markless
        (if descriptor.kind = .enumeration then ".Enums" else "") := by
    split <;> decide
  have folder :
      Markless
        ("." ++ categoryFolder descriptor.category ++
          if descriptor.kind = .enumeration then ".Enums" else "") :=
    (dot.append (markless_categoryFolder descriptor.category)).append ending
  have name := models.append (folder.plain config.Unquoted)
  simp only [← String.append_assoc] at name
  rw [namespaceName_eq member]
  exact name

private theorem Model.plain_of_lookup?
    {name found : String}
    (looked :
      (indexOf (inventory schemas config)).lookup? name = some found) :
    Plain config.Unquoted found := by
  obtain ⟨descriptor, member, rfl⟩ := exists_namespaceName_of_lookup? looked
  exact plain_namespaceName settings member

private theorem Model.Descriptor.shows_layouts
    {descriptor : Descriptor} (member : descriptor ∈ inventory schemas config) :
    Shows config.Unquoted
      (descriptor.layouts (indexOf (inventory schemas config))).flatten
      descriptor.literalTexts := by
  rw [layouts]
  cases declared :
      descriptor.declaration (indexOf (inventory schemas config)) with
  | ok declaration =>
      have shows :=
        descriptor.shows_declaration (markless_name member)
          (plain_namespaceName settings member)
          (fun _ _ => plain_of_lookup? settings) declared
      rw [List.flatten_singleton]
      exact shows
  | error fault =>
      have noRecord : descriptor.kind ≠ .record := by
        intro kind
        rw [Descriptor.declaration_eq_ok_iff.2 ⟨_, .record kind, rfl⟩]
          at declared
        cases declared
      rw [literalTexts, if_neg noRecord]
      exact .nil

end Models

section Services

variable {index : Model.NamespaceIndex}
  (known : ∀ name found, index.lookup? name = some found →
    Plain config.Unquoted found)
  {group : String × List Service.Endpoint} {name : String}
  (named : Markless name)

include known named

private theorem ServiceRun.isPlain_declaration :
    (ServiceRun.ofEndpoints config index group name).declaration.IsPlain
      config.Unquoted where
  serviceName := named
  httpClient := by
    have listed : config.httpClient ∈ config.texts := by simp [Config.texts]
    exact config.plain settings listed
  interfacesNamespace := (config.plain_namespaces settings).1
  implementationsNamespace := (config.plain_namespaces settings).2
  interfaceUsings := by
    have collections : Markless collectionsNamespace := by decide
    have tasks : Markless tasksNamespace := by decide
    refine fun name member => plain_of_mem_usings ?_ known member
    simp only [List.forall_mem_cons]
    exact ⟨collections.plain _, tasks.plain _, List.forall_mem_nil _⟩
  implementationUsings := by
    have collections : Markless collectionsNamespace := by decide
    have tasks : Markless tasksNamespace := by decide
    have system : Markless systemNamespace := by decide
    refine fun name member => plain_of_mem_usings ?_ known member
    simp only [List.forall_mem_append, List.forall_mem_cons]
    refine
      ⟨⟨⟨collections.plain _, tasks.plain _,
        (config.plain_namespaces settings).1, List.forall_mem_nil _⟩, ?_⟩, ?_⟩
    · intro name client
      have chosen :=
        (Option.filter_eq_some_iff.1 (Option.mem_toList.1 client)).1
      have listed : name ∈ config.texts := by simp [Config.texts, chosen]
      exact config.plain settings listed
    · split
      · exact List.forall_mem_singleton.2 (system.plain _)
      · exact List.forall_mem_nil _

private theorem ServiceRun.shows_layouts
    (endpoints : ∀ endpoint ∈ group.2, endpoint.IsMarkless) :
    Shows config.Unquoted
      (ServiceRun.ofEndpoints config index group name).layouts.flatten
      (ServiceRun.ofEndpoints config index group name).literalTexts := by
  have plain :
      (ServiceRun.ofEndpoints config index group name).declaration.IsPlain
        config.Unquoted :=
    isPlain_declaration settings known named
  have interface :=
    plain.shows_interfaceLines fun method member =>
      Service.shows_interfaceLines_of_mem_builtMethods endpoints member
  have implementation :=
    plain.shows_implementationLines
      (Service.shows_builtMethods endpoints plain.httpClient _ _)
  exact interface.append (implementation.append_none .nil)

end Services

end Plain

section Run

variable {config : Config} {document : Value}
  (settings : ∀ text ∈ config.texts, OnOneLine text.toList)
  (complete : (Run.ofDocument config document).survey.fault = none)

include settings complete

/-- The files of a run show the texts that stand in literals, and no others. -/
private theorem Run.shows_layouts :
    Shows config.Unquoted (Run.ofDocument config document).layouts.flatten
      (Run.ofDocument config document).literalTexts := by
  have models :
      ∀ descriptor ∈ (Run.ofDocument config document).descriptors,
        Shows config.Unquoted
          (descriptor.layouts
            (Model.indexOf
              (Run.ofDocument config document).descriptors)).flatten
          descriptor.literalTexts :=
    fun descriptor member => descriptor.shows_layouts settings member
  have services :
      ∀ service ∈ (Run.ofDocument config document).services,
        Shows config.Unquoted service.layouts.flatten
          service.literalTexts := by
    have shown :
        List.Forall₂
          (fun _ service =>
            Shows config.Unquoted service.layouts.flatten
              service.literalTexts)
          (Run.ofDocument config document).survey.groups
          (Run.ofDocument config document).services := by
      apply Run.services_related
      intro group grouped name named
      exact
        ServiceRun.shows_layouts settings
          (fun _ _ => Model.plain_of_lookup? settings)
          (markless_of_mem_serviceNames named)
          fun _ => Service.isMarkless_of_mem_groups complete grouped
    intro service member
    obtain ⟨_, _, shows⟩ := Related.exists_left_of_mem shown member
    exact shows
  have shows := (Shows.flatMap models).append (Shows.flatMap services)
  simp only [List.flatten_eq_flatMap, ← List.flatMap_assoc,
    ← List.flatMap_append] at shows ⊢
  exact shows

end Run

/-- The lines of the files are those that were laid out exactly if no text in a
literal goes over several lines.  This is also what it takes for every literal to
be closed on its line, unless the settings have quotes of their own. -/
theorem generate_keeps_lines_iff
    {config : Config} {document : Value} {report : Report}
    (settings : ∀ text ∈ config.texts, OnOneLine text.toList)
    (completed : generate config document = .ok report) :
    ((report.artifacts.map fun artifact => sourceLines artifact.content) =
        (Run.ofDocument config document).layouts ↔
      ∀ text ∈ (Run.ofDocument config document).literalTexts,
        OnOneLine text.toList) ∧
    (config.Unquoted →
      ((∀ artifact ∈ report.artifacts, ∀ line ∈ sourceLines artifact.content,
          closesLiterals line.toList = true) ↔
        ∀ text ∈ (Run.ofDocument config document).literalTexts,
          OnOneLine text.toList)) := by
  have contents := Run.map_content_artifacts config document
  rw [← report_of_generate completed] at contents
  have shows :=
    Run.shows_layouts settings (fault_eq_none_of_generate completed)
  have oneLine := shows.oneLine
  rw [List.forall_mem_flatten] at oneLine
  constructor
  · have divided := congrArg (List.map sourceLines) contents
    rw [List.map_map, List.map_map] at divided
    change _ = List.map (fun lines => sourceLines (textOfLines lines)) _
      at divided
    rw [← oneLine, ← map_sourceLines_textOfLines_iff, ← divided]
    rfl
  · intro unquoted
    have telling := shows.telling unquoted
    rw [List.forall_mem_flatten] at telling
    have closed :
        (∀ content ∈ report.artifacts.map Artifact.content,
            ∀ line ∈ sourceLines content, closesLiterals line.toList = true) ↔
          ∀ content ∈
              (Run.ofDocument config document).layouts.map textOfLines,
            ∀ line ∈ sourceLines content,
              closesLiterals line.toList = true := by
      rw [contents]
    rw [List.forall_mem_map, List.forall_mem_map] at closed
    rw [closed, ← oneLine]
    exact
      forall₂_congr fun lines member =>
        forall_closesLiterals_iff (telling lines member)

/-- A definition with one property, beside some paths. -/
def documentOfKey (paths : Value) (key : String) : Value :=
  .map
    [(.text "paths", paths),
     (.text "definitions", .map
      [(.text "Pet", .map
        [(.text "properties", .map
          [(.text key, .map [(.text "type", .text "string")])])])])]

/-- An operation with a parameter in its path and one in its query. -/
def findPetPaths : Value :=
  .map
    [(.text "/pets/{id}", .map
      [(.text "get", .map
        [(.text "tags", .list [.text "Pets"]),
         (.text "operationId", .text "findPet"),
         (.text "parameters", .list
          [.map
            [(.text "name", .text "id"), (.text "in", .text "path"),
             (.text "type", .text "string")],
           .map
            [(.text "name", .text "fields"), (.text "in", .text "query"),
             (.text "type", .text "string")]])])])]

theorem generate_keeps_lines_iff_findPet :
    (∀ text ∈ ({} : Config).texts, OnOneLine text.toList) ∧
      ({} : Config).Unquoted ∧
      ∃ report, generate {} (documentOfKey findPetPaths "name") = .ok report ∧
        ((report.artifacts.map fun artifact => sourceLines artifact.content) =
            (Run.ofDocument {} (documentOfKey findPetPaths "name")).layouts ↔
          ∀ text ∈
              (Run.ofDocument {}
                (documentOfKey findPetPaths "name")).literalTexts,
            OnOneLine text.toList) ∧
        ((∀ artifact ∈ report.artifacts,
            ∀ line ∈ sourceLines artifact.content,
              closesLiterals line.toList = true) ↔
          ∀ text ∈
              (Run.ofDocument {}
                (documentOfKey findPetPaths "name")).literalTexts,
            OnOneLine text.toList) := by
  have settings : ∀ text ∈ ({} : Config).texts, OnOneLine text.toList := by
    decide +kernel
  have unquoted : ({} : Config).Unquoted := by
    rw [Config.Unquoted]
    decide +kernel
  have complete :
      (Run.ofDocument {} (documentOfKey findPetPaths "name")).survey.fault =
        none := by
    decide +kernel
  have completed := generate_of_no_fault complete
  have kept := generate_keeps_lines_iff settings completed
  exact ⟨settings, unquoted, _, completed, kept.1, kept.2 unquoted⟩

/-- The key of a property that goes over two lines leaves its literal open. -/
theorem split_key_leaves_literal_open :
    (∀ text ∈ ({} : Config).texts, OnOneLine text.toList) ∧
    ∃ report, generate {} (documentOfKey (.map []) "a\nb") = .ok report ∧
      ∃ artifact ∈ report.artifacts,
        ∃ line ∈ sourceLines artifact.content,
          line = "    [JsonPropertyName(\"a" ∧
            closesLiterals line.toList = false := by
  have complete :
      (Run.ofDocument {} (documentOfKey (.map []) "a\nb")).survey.fault =
        none := by
    decide +kernel
  refine ⟨by decide +kernel, _, generate_of_no_fault complete, ?_⟩
  decide +kernel

end OpenApiSharp
