import OpenApiSharp.Proofs.Generate.DistinctPaths
import OpenApiSharp.Proofs.Generate.Settings

/-!
# Interfaces and classes of services

The names of services are distinct in any case, so no two interfaces have the
same name, and no two classes.  But an interface has an I in front of its name,
with which the name of another service may begin.  Then the class of that
service has the name of the interface, and it hides the interface among the
classes.  In lower case there is the sigma besides, whose form depends on what
stands behind the name of a service.
-/

namespace OpenApiSharp

open Document Naming Text

namespace Service

/-- A type that a service declares. -/
inductive DeclaredType where
  | interface (service : Declaration)
  | implementation (service : Declaration)
  deriving DecidableEq

def DeclaredType.name : DeclaredType → String
  | interface service => service.interfaceName
  | implementation service => service.className

def declaredTypes (services : List Declaration) : List DeclaredType :=
  services.map .interface ++ services.map .implementation

/-- The type that a name refers to among the classes: a class that has the name,
or else an interface, as the namespace of the interfaces is imported. -/
def referent? (services : List Declaration) (name : String) :
    Option DeclaredType :=
  (services.map DeclaredType.implementation ++
      services.map DeclaredType.interface).find?
    fun declared => declared.name == name

/-- The class of a service has the name of the interface of another one. -/
def Declaration.Hides (other service : Declaration) : Prop :=
  other.serviceName = "I" ++ service.serviceName

@[simp]
theorem className_eq_iff {other service : Declaration} :
    other.className = service.className ↔
      other.serviceName = service.serviceName := by
  rw [Declaration.className, Declaration.className, String.append_left_inj]

@[simp]
theorem interfaceName_eq_iff {other service : Declaration} :
    other.interfaceName = service.interfaceName ↔
      other.serviceName = service.serviceName := by
  rw [Declaration.interfaceName, Declaration.interfaceName,
    String.append_right_inj, className_eq_iff]

theorem className_eq_interfaceName_iff {other service : Declaration} :
    other.className = service.interfaceName ↔ other.Hides service := by
  rw [Declaration.className, Declaration.interfaceName, Declaration.className,
    ← String.append_assoc, String.append_left_inj, Declaration.Hides]

/-- The same of names in another form, such as lower case. -/
def Declaration.Meets
    (key : String → String) (other service : Declaration) : Prop :=
  key other.serviceName = key "I" ++ key service.serviceName

/-- Where the form of a name is that of its parts in turn, the names of all types
differ in that form if and only if those of services do and no class has the name
of an interface. -/
theorem nodup_keys_iff
    {key : String → String} {services : List Declaration}
    (classKey : ∀ service ∈ services,
      key service.className = key service.serviceName ++ key "Service")
    (interfaceKey : ∀ service ∈ services,
      key service.interfaceName = key "I" ++ key service.className) :
    ((declaredTypes services).map fun declared => key declared.name).Nodup ↔
      (services.map fun service => key service.serviceName).Nodup ∧
        ∀ service ∈ services, ∀ other ∈ services,
          ¬ other.Meets key service := by
  have interfaces :
      services.map (fun service => key service.interfaceName) =
        (services.map fun service => key service.className).map
          (key "I" ++ ·) := by
    rw [List.map_map]
    exact List.map_congr_left interfaceKey
  have classes :
      services.map (fun service => key service.className) =
        (services.map fun service => key service.serviceName).map
          (· ++ key "Service") := by
    rw [List.map_map]
    exact List.map_congr_left classKey
  have keys :
      (declaredTypes services).map (fun declared => key declared.name) =
        services.map (fun service => key service.interfaceName) ++
          services.map fun service => key service.className := by
    rw [declaredTypes, List.map_append, List.map_map, List.map_map]
    rfl
  have frontInjective : Function.Injective (key "I" ++ ·) :=
    fun _ _ => (String.append_right_inj _).1
  have backInjective : Function.Injective (· ++ key "Service") :=
    fun _ _ => (String.append_left_inj _).1
  rw [keys, List.nodup_append, interfaces, List.nodup_map_iff frontInjective,
    ← interfaces, classes, List.nodup_map_iff backInjective, ← classes,
    ← and_assoc, and_self, List.forall_mem_map]
  refine and_congr_right fun _ => forall₂_congr fun service member => ?_
  rw [List.forall_mem_map]
  refine forall₂_congr fun other present => ?_
  rw [interfaceKey service member, classKey service member,
    classKey other present, ← String.append_assoc, Ne, String.append_left_inj,
    Declaration.Meets]
  exact not_congr eq_comm

/-- Among elements with different names each is found by its own. -/
private theorem find?_eq_some_of_nodup
    {α : Type} {nameOf : α → String} {elements : List α}
    (distinct : (elements.map nameOf).Nodup) {element : α}
    (member : element ∈ elements) :
    (elements.find? fun other => nameOf other == nameOf element) =
      some element := by
  cases found : elements.find? fun other => nameOf other == nameOf element with
  | none =>
      have refused := List.find?_eq_none.1 found element member
      exact absurd BEq.rfl refused
  | some other =>
      have accepted := List.find?_some found
      have same : nameOf other = nameOf element := eq_of_beq accepted
      rw [List.inj_on_of_nodup_map distinct (List.mem_of_find?_eq_some found)
        member same]

section Distinct

variable {services : List Declaration}
  (distinct : (services.map Declaration.serviceName).Nodup)

include distinct

private theorem nodup_interfaceNames :
    (services.map Declaration.interfaceName).Nodup := by
  rw [List.Nodup, List.pairwise_map] at distinct ⊢
  exact distinct.imp fun different => mt interfaceName_eq_iff.1 different

private theorem nodup_classNames :
    (services.map Declaration.className).Nodup := by
  rw [List.Nodup, List.pairwise_map] at distinct ⊢
  exact distinct.imp fun different => mt className_eq_iff.1 different

private theorem referent?_of_hides
    {service other : Declaration} (present : other ∈ services)
    (hides : other.Hides service) :
    referent? services service.interfaceName = some (.implementation other) := by
  have classNames :
      ((services.map DeclaredType.implementation).map
        DeclaredType.name).Nodup := by
    rw [List.map_map]
    exact nodup_classNames distinct
  have found :
      ((services.map DeclaredType.implementation).find? fun declared =>
        declared.name == other.className) = some (.implementation other) :=
    find?_eq_some_of_nodup classNames (List.mem_map_of_mem present)
  rw [referent?, List.find?_append, ← className_eq_interfaceName_iff.2 hides,
    found, Option.some_or]

/-- A class refers to the interface of its own service if and only if no other
class hides it. -/
theorem referent?_eq_interface_iff
    {service : Declaration} (member : service ∈ services) :
    referent? services service.interfaceName = some (.interface service) ↔
      ∀ other ∈ services, ¬ other.Hides service := by
  constructor
  · intro refers other present hides
    rw [referent?_of_hides distinct present hides] at refers
    cases refers
  · intro visible
    have noClass :
        ((services.map DeclaredType.implementation).find? fun declared =>
          declared.name == service.interfaceName) = none := by
      rw [List.find?_eq_none, List.forall_mem_map]
      intro other present named
      exact visible other present
        (className_eq_interfaceName_iff.1 (eq_of_beq named))
    have interfaceNames :
        ((services.map DeclaredType.interface).map
          DeclaredType.name).Nodup := by
      rw [List.map_map]
      exact nodup_interfaceNames distinct
    rw [referent?, List.find?_append, noClass, Option.none_or]
    exact
      find?_eq_some_of_nodup interfaceNames (List.mem_map_of_mem member)

end Distinct

/-- Services whose names have no letter with a lower-case form that depends on
what stands around it. -/
def plainServices (services : List Declaration) : List Declaration :=
  services.filter fun service => 'Σ' ∉ service.serviceName.toList

private theorem lower_className
    {service : Declaration} (plain : 'Σ' ∉ service.serviceName.toList) :
    lower service.className = lower service.serviceName ++ lower "Service" := by
  have ending : 'Σ' ∉ "Service".toList := by
    decide
  apply lower_append_of_no_sigma
  rw [String.toList_append, List.mem_append, not_or]
  exact ⟨plain, ending⟩

private theorem lower_interfaceName
    {service : Declaration} (plain : 'Σ' ∉ service.serviceName.toList) :
    lower service.interfaceName = lower "I" ++ lower service.className := by
  have around : 'Σ' ∉ "I".toList ∧ 'Σ' ∉ "Service".toList := by
    decide
  apply lower_append_of_no_sigma
  rw [Declaration.className, String.toList_append, String.toList_append,
    List.mem_append, List.mem_append, not_or, not_or]
  exact ⟨around.1, plain, around.2⟩

end Service

def Run.declarations (run : Run) : List Service.Declaration :=
  run.services.map ServiceRun.declaration

/-- The files of a report that hold no models. -/
def Report.serviceFiles (report : Report) : List Artifact :=
  report.artifacts.filter fun artifact => !modelKinds.contains artifact.kind

private theorem Run.serviceFiles_report (config : Config) (document : Value) :
    (Run.ofDocument config document).report.serviceFiles =
      (Run.ofDocument config document).declarations.flatMap
        Service.Declaration.artifacts := by
  have models :
      ((Run.ofDocument config document).models.flatMap
        ItemResult.artifacts).filter
          (fun artifact => !modelKinds.contains artifact.kind) = [] := by
    rw [List.filter_eq_nil_iff]
    intro artifact member
    rw [Run.isModelKind_of_mem_models member]
    decide
  have services :
      ((Run.ofDocument config document).services.flatMap fun service =>
        service.declaration.artifacts).filter
          (fun artifact => !modelKinds.contains artifact.kind) =
        (Run.ofDocument config document).services.flatMap fun service =>
          service.declaration.artifacts := by
    rw [List.filter_eq_self]
    intro artifact member
    rw [Bool.not_eq_true', ← Bool.not_eq_true]
    exact Run.not_isModelKind_of_mem_services member
  rw [Report.serviceFiles, Run.report_artifacts, List.filter_append, models,
    services, List.nil_append, declarations, List.flatMap_map]

section Runs

variable (config : Config) (document : Value)

private theorem Run.nodup_lower_declarations :
    ((Run.ofDocument config document).declarations.map fun service =>
      lower service.serviceName).Nodup := by
  rw [declarations, List.map_map]
  exact Run.nodup_lower_services config document

private theorem Run.nodup_declarations :
    ((Run.ofDocument config document).declarations.map
      Service.Declaration.serviceName).Nodup := by
  have distinct := Run.nodup_lower_declarations config document
  rw [List.Nodup, List.pairwise_map] at distinct ⊢
  exact distinct.imp fun different same => different (congrArg lower same)

end Runs

/-- How the types of services are kept apart in a report. -/
structure ServicesApart
    (report : Report) (services : List Service.Declaration) : Prop where
  files : report.serviceFiles = services.flatMap Service.Declaration.artifacts
  interfaces : (services.map Service.Declaration.interfaceName).Nodup
  classes : (services.map Service.Declaration.className).Nodup
  /-- All types have different names unless a class hides an interface. -/
  names :
    ((Service.declaredTypes services).map Service.DeclaredType.name).Nodup ↔
      ∀ service ∈ services, ∀ other ∈ services, ¬ other.Hides service
  /-- A class refers to the interface of its own service unless another class
  hides it. -/
  own :
    ∀ service ∈ services,
      (Service.referent? services service.interfaceName =
          some (.interface service) ↔
        ∀ other ∈ services, ¬ other.Hides service)
  hidden :
    ∀ service ∈ services, ∀ other ∈ services, other.Hides service →
      Service.referent? services service.interfaceName =
        some (.implementation other)
  /-- But for capital sigmas, the same in lower case. -/
  lowerNames :
    ((Service.declaredTypes (Service.plainServices services)).map
        fun declared => lower declared.name).Nodup ↔
      ∀ service ∈ Service.plainServices services,
        ∀ other ∈ Service.plainServices services,
          ¬ other.Meets lower service
  /-- With one form of the small sigma, services can have the same name too. -/
  foldedNames :
    ((Service.declaredTypes services).map
        fun declared => folded declared.name).Nodup ↔
      (services.map fun service => folded service.serviceName).Nodup ∧
        ∀ service ∈ services, ∀ other ∈ services,
          ¬ other.Meets folded service

/-- The names of services are distinct, so a class refers to the wrong type if
and only if the name of another service is its own one behind an I.  But for
sigmas, the same holds of names that differ only by case. -/
theorem generate_keeps_services_apart_iff
    {config : Config} {document : Value} {report : Report}
    (completed : generate config document = .ok report) :
    ServicesApart report (Run.ofDocument config document).declarations := by
  have distinct := Run.nodup_declarations config document
  have distinctPlain :=
    (Run.nodup_lower_declarations config document).sublist
      ((List.filter_sublist
        (p := fun service => 'Σ' ∉ service.serviceName.toList)).map _)
  have plain :
      ∀ service ∈ Service.plainServices
          (Run.ofDocument config document).declarations,
        'Σ' ∉ service.serviceName.toList :=
    fun _ member => of_decide_eq_true (List.mem_filter.1 member).2
  exact
    { files := by
        rw [report_of_generate completed, Run.serviceFiles_report]
      interfaces := Service.nodup_interfaceNames distinct
      classes := Service.nodup_classNames distinct
      names :=
        (@Service.nodup_keys_iff id _ (fun _ _ => rfl) fun _ _ => rfl).trans
          (and_iff_right distinct)
      own := fun _ member => Service.referent?_eq_interface_iff distinct member
      hidden := fun _ _ _ present hides =>
        Service.referent?_of_hides distinct present hides
      lowerNames :=
        (Service.nodup_keys_iff
          (fun service member => Service.lower_className (plain service member))
          fun service member =>
            Service.lower_interfaceName (plain service member)).trans
          (and_iff_right distinctPlain)
      foldedNames :=
        Service.nodup_keys_iff
          (fun service _ => folded_append service.serviceName "Service")
          fun service _ => folded_append "I" service.className }

/-- A document with one operation under each of two tags. -/
def documentOfTags (first second : String) : Value :=
  let operation (tag : String) : Value :=
    .map
      [(.text "get", .map
        [(.text "tags", .list [.text tag]),
         (.text "operationId", .text "list")])]
  .map
    [(.text "paths", .map
      [(.text "/first", operation first), (.text "/second", operation second)]),
     (.text "definitions", .map [])]

theorem generate_keeps_orders_apart :
    ∃ report,
      generate {} (documentOfTags "Orders" "Invoices") = .ok report ∧
        ServicesApart report
          (Run.ofDocument {}
            (documentOfTags "Orders" "Invoices")).declarations := by
  have complete :
      (Run.ofDocument {} (documentOfTags "Orders" "Invoices")).survey.fault =
        none := by
    decide +kernel
  have completed := generate_of_no_fault complete
  exact ⟨_, completed, generate_keeps_services_apart_iff completed⟩

/-- The class for the tag `IOrders` has the name of the interface for `Orders`,
and the class for that tag extends it.  The classes for `ΑΣ` and `Ασ` differ by
case alone. -/
theorem class_extends_class_of_other_tag :
    (∃ report, generate {} (documentOfTags "Orders" "IOrders") = .ok report) ∧
      (let services :=
        (Run.ofDocument {} (documentOfTags "Orders" "IOrders")).declarations
      ¬ ((Service.declaredTypes services).map
          Service.DeclaredType.name).Nodup ∧
        ∃ service ∈ services, ∃ other ∈ services,
          service.tag = "Orders" ∧ other.tag = "IOrders" ∧
            Service.referent? services service.interfaceName =
              some (.implementation other)) ∧
      (∃ report, generate {} (documentOfTags "ΑΣ" "Ασ") = .ok report) ∧
      ¬ ((Run.ofDocument {} (documentOfTags "ΑΣ" "Ασ")).declarations.map
          fun service => lower service.className).Nodup := by
  have complete :
      (Run.ofDocument {} (documentOfTags "Orders" "IOrders")).survey.fault =
        none := by
    decide +kernel
  have completeSigma :
      (Run.ofDocument {} (documentOfTags "ΑΣ" "Ασ")).survey.fault = none := by
    decide +kernel
  refine
    ⟨⟨_, generate_of_no_fault complete⟩, ⟨?_, ?_⟩,
      ⟨_, generate_of_no_fault completeSigma⟩, ?_⟩
  · decide +kernel
  · decide +kernel
  · decide +kernel

end OpenApiSharp
