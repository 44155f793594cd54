import TelemetryAuth.CloudExtension
import TelemetryAuth.Proofs.Exporter.Install
import TelemetryAuth.Proofs.Pipeline.LastExtension

/-!
# Builds with the cloud extension

The cloud extension runs behind all extensions of a smaller order (`Completes`).  It then decides
what it is there for: its defaults lie over those of the others and under the properties of the user
(`Layered`), the exporter that the others leave gets its header source and the resource its project
(`LastWord`).

A build can fail for want of the region, which is looked for among the properties of the user before
anything is customized, and for want of the project, which is looked for among the assembled
properties at the very end.  The main result is `build_of_completes`.
-/

namespace TelemetryAuth

open Pipeline

/-! ### Errors of the other parts of a build -/

theorem Pipeline.error_of_installSelected {process : Environment} {order : HeaderOrder}
    {exporter : Option Exporter} {error : SetupError}
    (h : (installSelected process order exporter).result = .error error) :
    ∃ reason, error = .exporter reason := by
  cases exporter with
  | none => cases h
  | some exporter => exact Exporter.error_of_install h

/-- An exporter is not selected for a reason of its own. -/
theorem Pipeline.error_of_select {factories : Dictionary ExporterFactory} {properties : Properties}
    {error : SetupError} (h : (select factories properties).result = .error error) :
    ∃ reason, error = .selection reason := by
  have hselects := selects_select factories properties
  rw [h] at hselects
  generalize (select factories properties).events = events at hselects
  cases hselects with
  | unsupported key protocol => exact ⟨_, rfl⟩
  | unknown wanted other unknown => exact ⟨_, rfl⟩

/-! ### The extension among others -/

/-- An extension whose suppliers and customizers of the resource always return a value. -/
structure Extension.NeverFails (extension : Extension) : Prop where
  supplier_ok : ∀ supplier ∈ extension.suppliers, ∀ user, ∃ supplied, supplier user = .ok supplied
  resourceCustomizer_ok : ∀ customizer ∈ extension.resourceCustomizers, ∀ resource properties,
    ∃ customized, customizer resource properties = .ok customized

namespace CloudExtension

/-- A plan in which the extension runs behind others, none of which fails. -/
structure Completes (plan : Plan) (env : Environment) (source : AttachedSource)
    (billedProject : String) (earlier later : List Extension) : Prop where
  extensions_eq : plan.extensions = earlier ++ extension env source billedProject :: later
  runsLast : RunsLast (extension env source billedProject) earlier later
  neverFails : ∀ other ∈ earlier ++ later, other.NeverFails

/-- Properties of the user over the defaults for a region over what other extensions supply. -/
structure Layered (user theirs : Properties) (region : String) (properties : Properties) :
    Prop where
  endpoint : properties.get? Properties.endpointKey =
    some ((user.get? Properties.endpointKey).getD (endpointOfRegion region))
  insecure : properties.get? Properties.insecureKey =
    some ((user.get? Properties.insecureKey).getD "false")
  detection : properties.get? platformDetectionKey =
    some ((user.get? platformDetectionKey).getD "true")
  others : ∀ key, key ≠ Properties.endpointKey → key ≠ Properties.insecureKey →
    key ≠ platformDetectionKey → properties.get? key = (user.get? key).or (theirs.get? key)

/-- What is built from the exporter and the resource that other extensions leave. -/
structure LastWord (handed : Option Exporter) (described : Resource) (source : AttachedSource)
    (project : String) (built : Built) : Prop where
  nothing : handed = none → built.exporter = none
  transport : ∀ exporter, handed = some (.transport exporter) →
    built.exporter = some (.transport { exporter with source := some source })
  named : ∀ name identity, handed = some (.named name identity) →
    built.exporter = some (.named name identity)
  project : built.resource.get? Resource.projectKey = some (.text project)
  others : ∀ key, key ≠ Resource.projectKey → built.resource.get? key = described.get? key

/-! ### The phases of a plan with the extension behind others -/

variable {plan : Plan} {env : Environment} {source : AttachedSource}
  {billedProject : String} {earlier later : List Extension}

theorem Completes.exists_supplied (h : Completes plan env source billedProject earlier later) :
    ∃ theirs, suppliedBy (earlier ++ later) plan.properties = .ok theirs := by
  have hpass := supplies_callbacks plan.properties .empty (earlier ++ later)
  refine hpass.exists_ok fun call hcall defaults => ?_
  obtain ⟨other, hother, hsupplier⟩ := exists_of_mem_calls hcall
  obtain ⟨supplied, hsupplied⟩ :=
    (h.neverFails other hother).supplier_ok call.callback hsupplier plan.properties
  rw [hsupplied]
  exact ⟨_, rfl⟩

theorem Completes.suppliedBy_eq (h : Completes plan env source billedProject earlier later)
    {theirs : Properties} (htheirs : suppliedBy (earlier ++ later) plan.properties = .ok theirs) :
    suppliedBy plan.extensions plan.properties =
      ((defaults env plan.properties).mapError SetupError.missingOption).map fun supplied =>
        theirs.insertMany supplied.toList := by
  unfold suppliedBy at *
  have hall := supplies_callbacks plan.properties .empty plan.extensions
  have hothers := supplies_callbacks plan.properties .empty (earlier ++ later)
  rw [htheirs] at hothers
  rw [h.extensions_eq] at hall ⊢
  exact Passage.result_of_last h.runsLast rfl
    (fun (supplier : DefaultsSupplier) (defaults : Properties) =>
      ((supplier plan.properties).mapError SetupError.missingOption).map
        fun supplied => defaults.insertMany supplied.toList) hall hothers

/-- The assembled properties, if there is a region. -/
theorem Completes.assembledBy_eq (h : Completes plan env source billedProject earlier later)
    {theirs : Properties} (htheirs : suppliedBy (earlier ++ later) plan.properties = .ok theirs) :
    assembledBy plan.extensions plan.properties =
      ((RequiredOption.region.value env plan.properties).mapError SetupError.missingOption).map
        fun region => (theirs.insertMany (regionDefaults region).toList).insertMany
          plan.properties.toList := by
  have hsupplied := h.suppliedBy_eq htheirs
  unfold suppliedBy at hsupplied
  unfold assembledBy assemble
  rw [Run.result_bind, hsupplied]
  unfold defaults
  cases RequiredOption.region.value env plan.properties <;> rfl

/-- The exporter that the others leave gets its header source. -/
theorem Completes.exporterBy_eq (h : Completes plan env source billedProject earlier later)
    {properties : Properties} {selected handed : Option Exporter}
    (hhanded : exporterBy (earlier ++ later) properties selected = .ok handed) :
    exporterBy plan.extensions properties selected =
      .ok (handed.map (·.authenticate source)) := by
  unfold exporterBy at *
  cases selected with
  | none =>
    obtain rfl := Except.ok.inj hhanded
    rfl
  | some exporter =>
    have hall := customizesExporter_callbacks properties exporter plan.extensions
    have hothers := customizesExporter_callbacks properties exporter (earlier ++ later)
    rw [customizeSelected, Run.result_bind] at hhanded ⊢
    obtain ⟨theirs, htheirs⟩ := hothers.exists_ok fun call _ exporter => ⟨_, rfl⟩
    rw [htheirs] at hothers hhanded
    obtain rfl := Except.ok.inj hhanded
    rw [h.extensions_eq] at hall ⊢
    rw [Passage.result_of_last h.runsLast rfl
      (fun (customizer : ExporterCustomizer) (exporter : Exporter) =>
        .ok (customizer exporter properties).1) hall hothers]
    rfl

theorem Completes.exists_described (h : Completes plan env source billedProject earlier later)
    (properties : Properties) (base : Resource) :
    ∃ described, resourceBy (earlier ++ later) properties base = .ok described := by
  have hpass := customizesResource_callbacks properties base (earlier ++ later)
  refine hpass.exists_ok fun call hcall resource => ?_
  obtain ⟨other, hother, hcustomizer⟩ := exists_of_mem_calls hcall
  obtain ⟨customized, hcustomized⟩ := (h.neverFails other hother).resourceCustomizer_ok
    call.callback hcustomizer resource properties
  rw [hcustomized]
  exact ⟨_, rfl⟩

/-- The resource that the others leave gets its project. -/
theorem Completes.resourceBy_eq (h : Completes plan env source billedProject earlier later)
    {properties : Properties} {base described : Resource}
    (hdescribed : resourceBy (earlier ++ later) properties base = .ok described) :
    resourceBy plan.extensions properties base =
      (described.withProject env properties).mapError .missingOption := by
  unfold resourceBy at *
  have hall := customizesResource_callbacks properties base plan.extensions
  have hothers := customizesResource_callbacks properties base (earlier ++ later)
  rw [hdescribed] at hothers
  rw [h.extensions_eq] at hall ⊢
  exact Passage.result_of_last h.runsLast rfl
    (fun (customizer : ResourceCustomizer) (resource : Resource) =>
      (customizer resource properties).mapError .missingOption) hall hothers

/-! ### What the extension decides -/

theorem get?_regionDefaults (region key : String) :
    (regionDefaults region).get? key =
      if platformDetectionKey = key then some "true"
      else if Properties.insecureKey = key then some "false"
      else if Properties.endpointKey = key then some (endpointOfRegion region)
      else none := by
  simp [regionDefaults, Dictionary.ofList]

theorem layered (user theirs : Properties) (region : String) :
    Layered user theirs region
      ((theirs.insertMany (regionDefaults region).toList).insertMany user.toList) where
  endpoint := by
    rw [Dictionary.get?_insertMany_toList, Dictionary.get?_insertMany_toList, get?_regionDefaults,
      if_neg (by decide), if_neg (by decide), if_pos rfl]
    cases user.get? Properties.endpointKey <;> rfl
  insecure := by
    rw [Dictionary.get?_insertMany_toList, Dictionary.get?_insertMany_toList, get?_regionDefaults,
      if_neg (by decide), if_pos rfl]
    cases user.get? Properties.insecureKey <;> rfl
  detection := by
    rw [Dictionary.get?_insertMany_toList, Dictionary.get?_insertMany_toList, get?_regionDefaults,
      if_pos rfl]
    cases user.get? platformDetectionKey <;> rfl
  others := by
    intro key hendpoint hinsecure hdetection
    rw [Dictionary.get?_insertMany_toList, Dictionary.get?_insertMany_toList, get?_regionDefaults,
      if_neg hdetection.symm, if_neg hinsecure.symm, if_neg hendpoint.symm, Option.none_or]

theorem lastWord (handed : Option Exporter) (described : Resource) (source : AttachedSource)
    (project : String) (properties : Properties) (sampling : Sampling) :
    LastWord handed described source project
      ⟨properties, described.setAll [(Resource.projectKey, .text project)],
        handed.map (·.authenticate source), sampling⟩ where
  nothing := by
    rintro rfl
    rfl
  transport := by
    rintro exporter rfl
    rfl
  named := by
    rintro name identity rfl
    rfl
  project := by simp [Resource.setAll]
  others := by
    intro key hkey
    simp [Resource.setAll, hkey.symm]

/-! ### The whole build -/

/-- An option is never missing at the installation. -/
theorem map_installSelected_ne {α : Type} (process : Environment) (order : HeaderOrder)
    (exporter : Option Exporter) (built : Unit → α) (missing : MissingOption) :
    (installSelected process order exporter).result.map built ≠
      .error (.missingOption missing) := by
  cases hinstall : (installSelected process order exporter).result with
  | error error =>
    obtain ⟨reason, rfl⟩ := error_of_installSelected hinstall
    nofun
  | ok done => nofun

/-- Behind the selection of an exporter only the project can be missing. -/
theorem Completes.result_of_selected (h : Completes plan env source billedProject earlier later)
    (process : Environment) {properties : Properties} {selected : Option Exporter}
    (hassemble : assembledBy plan.extensions plan.properties = .ok properties)
    (hselect : (select plan.factories properties).result = .ok selected) :
    (RequiredOption.project.Unset env properties ∧
      (build process plan).result = .error (.missingOption ⟨.project⟩)) ∨
    ∃ project handed described built,
      RequiredOption.project.value env properties = .ok project ∧
      exporterBy (earlier ++ later) properties selected = .ok handed ∧
      resourceBy (earlier ++ later) properties
        (Resource.base process properties (detected plan.environment properties)) =
          .ok described ∧
      built.properties = properties ∧ LastWord handed described source project built ∧
      (build process plan).result =
        (installSelected process plan.headerOrder built.exporter).result.map fun _ => built := by
  obtain ⟨handed, hhanded⟩ := exists_exporterBy (earlier ++ later) properties selected
  obtain ⟨described, hdescribed⟩ := h.exists_described properties
    (Resource.base process properties (detected plan.environment properties))
  have hbuild : (build process plan).result =
      ((described.withProject env properties).mapError SetupError.missingOption).bind
        fun resource => (installSelected process plan.headerOrder
          (handed.map (·.authenticate source))).result.map
            fun _ => ⟨properties, resource, handed.map (·.authenticate source),
              .ofExport process⟩ := by
    rw [result_build, hassemble]
    simp only [bind, Except.bind, hselect, h.exporterBy_eq hhanded, h.resourceBy_eq hdescribed]
    rfl
  rw [hbuild, Resource.withProject]
  cases hproject : RequiredOption.project.value env properties with
  | error missing =>
    obtain ⟨hunset, rfl⟩ := RequiredOption.value_eq_error_iff.1 hproject
    exact .inl ⟨hunset, rfl⟩
  | ok project =>
    exact .inr ⟨project, handed, described, _, rfl, hhanded, hdescribed, rfl,
      lastWord handed described source project properties (.ofExport process), rfl⟩

/-- An extension with the ordinary order that has a collector and a project of its own. -/
def collectorExtension : Extension where
  order := Extension.defaultOrder
  announcement := []
  suppliers := [fun _ => .ok (Dictionary.ofList
    [(Properties.endpointKey, "http://collector:4317"), ("team.name", "a"),
      ("google.cloud.project", "theirs")])]
  exporterCustomizers := [fun exporter _ => (exporter.edit [.header "x-tenant" "a"], [])]
  resourceCustomizers := [fun resource _ =>
    .ok (resource.setAll [(Resource.projectKey, .text "theirs"), ("team", .text "a")])]

/-- The variables of the region and the project. -/
def regionalEnvironment : Environment :=
  .ofList [("GOOGLE_CLOUD_REGION", ""), ("GOOGLE_CLOUD_PROJECT", "own")]

/-- A source that is backed by the first provider of a keyring. -/
def firstSource : AttachedSource := ⟨0, .credentials 0⟩

/-- What the user sets: a region, and no encryption. -/
def regionalProperties : Properties :=
  .ofList [(Properties.insecureKey, "true"), ("google.cloud.region", "europe-west1")]

/-- A plan that was given the extension before the other one. -/
def collectorPlan : Plan :=
  (((Plan.ofEnvironment regionalEnvironment).setProperties regionalProperties).addExtension
    (extension regionalEnvironment firstSource "billed")).addExtension collectorExtension

end CloudExtension

end TelemetryAuth
