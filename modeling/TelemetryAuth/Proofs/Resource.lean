import TelemetryAuth.Proofs.Pipeline.Assembly

/-!
# The resource of a pipeline

A base resource has four layers: the defaults of the telemetry SDK, what detectors report, the
listed attributes and the service name.  The listed attributes are the entries of a map, which may
be gone through in any order (`baseOver`); they are the same in every order, because their keys are
distinct (`baseOver_of_perm`), and the value of a key is that of the topmost layer that has it
(`get?_baseOver`).

In a build the platform is the only detector, and only if its detection is turned on.  The resource
then passes through the customizers in the order of `RunOrder` (`resourceBy_eq`).  The main result
is `resource_layered`.
-/

namespace TelemetryAuth

open Pipeline

/-! ### The layers of a base resource -/

namespace Resource

variable {properties : Properties} {listed : List (String × String)}

/-- The resource from which customizers start, over some defaults and with the listed attributes in
some order. -/
def baseOver (defaults : Resource) (properties : Properties) (detected : List Resource)
    (listed : List (String × String)) : Resource :=
  ((detected.foldl merge defaults).setAll (ofTexts listed)).setAll
    (configuredServiceName properties)

/-- The text that the last entry for a key has in the property that lists attributes. -/
def listedValue? (properties : Properties) (key : String) : Option String :=
  (properties.get? attributesKey).bind fun listed =>
    ((Text.namedKeyValues listed).reverse.find? fun entry => entry.1 = key).map (·.2)

/-- The value of a key in the topmost layer that has it: the service name set as a property, the
listed attributes, the detectors from the last to the first, the defaults. -/
def layeredValue? (defaults : Resource) (properties : Properties) (detected : List Resource)
    (key : String) : Option AttributeValue :=
  let named := if key = serviceNameKey then properties.get? Properties.serviceNameKey else none
  ((named.or (listedValue? properties key)).map .text).or
    ((Dictionary.topmost? detected key).or (defaults.get? key))

theorem get?_keyValueMap (properties : Properties) (key : String) :
    (Properties.keyValueMap properties attributesKey).get? key = listedValue? properties key := by
  unfold Properties.keyValueMap listedValue?
  cases properties.get? attributesKey with
  | none => rfl
  | some raw =>
    show (Dictionary.empty.insertMany (Text.namedKeyValues raw)).get? key = _
    rw [Dictionary.get?_insertMany, Dictionary.get?_empty, Option.or_none]
    rfl

theorem ofTexts_toList (texts : Dictionary String) :
    ofTexts texts.toList = (texts.mapValues AttributeValue.text).toList := rfl

/-- The order in which attributes with distinct keys are set makes no difference. -/
theorem setAll_ofTexts_of_perm (resource : Resource) {texts : Dictionary String}
    (h : listed.Perm texts.toList) :
    resource.setAll (ofTexts listed) = resource.setAll (ofTexts texts.toList) := by
  unfold setAll
  refine Dictionary.insertMany_of_perm resource (h.map _) ?_
  have hkeys : (ofTexts listed).map (·.1) = listed.map (·.1) := by
    unfold ofTexts
    rw [List.map_map]
    rfl
  show ((ofTexts listed).map (·.1)).Nodup
  rw [hkeys]
  exact (h.map (·.1)).nodup_iff.2 texts.nodup_keys

theorem get?_setAll_ofTexts (resource : Resource) (texts : Dictionary String) (key : String) :
    (resource.setAll (ofTexts texts.toList)).get? key =
      ((texts.get? key).map .text).or (resource.get? key) := by
  rw [ofTexts_toList, setAll, Dictionary.get?_insertMany_toList, Dictionary.get?_mapValues]

theorem get?_setAll_configuredServiceName (resource : Resource) (properties : Properties)
    (key : String) :
    (resource.setAll (configuredServiceName properties)).get? key =
      ((if key = serviceNameKey then properties.get? Properties.serviceNameKey else none).map
        .text).or (resource.get? key) := by
  unfold configuredServiceName setAll
  cases properties.get? Properties.serviceNameKey with
  | none => simp
  | some name =>
    show (resource.insert serviceNameKey (.text name)).get? key = _
    rw [Dictionary.get?_insert]
    by_cases hkey : key = serviceNameKey
    · rw [if_pos hkey.symm, if_pos hkey]
      rfl
    · rw [if_neg (Ne.symm hkey), if_neg hkey]
      rfl

theorem baseOver_of_perm (defaults : Resource) (detected : List Resource)
    (h : listed.Perm (Properties.keyValueMap properties attributesKey).toList) :
    baseOver defaults properties detected listed = baseOver defaults properties detected
      (Properties.keyValueMap properties attributesKey).toList := by
  unfold baseOver
  rw [setAll_ofTexts_of_perm _ h]

/-- **The topmost layer that has a key decides.** -/
theorem get?_baseOver (defaults : Resource) (properties : Properties) (detected : List Resource)
    (key : String) :
    (baseOver defaults properties detected
      (Properties.keyValueMap properties attributesKey).toList).get? key =
        layeredValue? defaults properties detected key := by
  have hdetected : detected.foldl merge defaults = Dictionary.layered defaults detected := rfl
  unfold baseOver
  rw [get?_setAll_configuredServiceName, get?_setAll_ofTexts, get?_keyValueMap, hdetected,
    Dictionary.get?_layered, ← Option.or_assoc, ← Option.map_or]
  rfl

end Resource

/-! ### Builds -/

namespace Pipeline

/-- The resource passes through the customizers in the order of `RunOrder`. -/
theorem resourceBy_eq {extensions : List Extension}
    {calls : List (Registered ResourceCustomizer)}
    (h : RunOrder (·.resourceCustomizers) extensions calls) (properties : Properties)
    (base : Resource) :
    resourceBy extensions properties base =
      calls.foldlM (fun resource call =>
        (call.callback resource properties).mapError .missingOption) base := by
  obtain rfl := h.unique (runOrder_calls _ extensions)
  exact (customizesResource_callbacks properties base extensions).result_eq

/-- A build whose earlier phases succeed ends as the customizers of the resource do, and with them
the exporter is installed. -/
theorem result_build_of_exporter {process : Environment} {plan : Plan} {properties : Properties}
    {selected exporter : Option Exporter}
    (hassemble : assembledBy plan.extensions plan.properties = .ok properties)
    (hselect : (select plan.factories properties).result = .ok selected)
    (hexporter : exporterBy plan.extensions properties selected = .ok exporter) :
    (build process plan).result =
      (resourceBy plan.extensions properties
        (Resource.base process properties (detected plan.environment properties))).bind
          fun resource => (installSelected process plan.headerOrder exporter).result.map fun _ =>
            ⟨properties, resource, exporter, .ofExport process⟩ := by
  rw [result_build, hassemble]
  show ((select plan.factories properties).result >>= _) = _
  rw [hselect]
  show (exporterBy plan.extensions properties selected >>= _) = _
  rw [hexporter]
  show (resourceBy plan.extensions properties _ >>= _) = _
  exact congrArg (Except.bind _) (funext fun resource => bind_pure_comp _ _)

/-- **Resources come in layers.**

- Whatever the defaults of the SDK, the properties and the detectors are, a key of the base resource
  has its value in the topmost layer that has it, and no other key has a value.  The listed
  attributes may come in any order.
- A build starts from the base resource over its assembled properties.  Its only detector is that of
  the platform in the environment of the plan, and only if the property for it is read as true.
- The customizers change the resource one after the other in the order of `RunOrder`.  The build
  fails where one of them fails, and what the last leaves is the resource of the pipeline. -/
theorem resource_layered :
    (∀ (defaults : Resource) properties detected listed,
      listed.Perm (Properties.keyValueMap properties Resource.attributesKey).toList →
      ∀ key, (Resource.baseOver defaults properties detected listed).get? key =
        Resource.layeredValue? defaults properties detected key) ∧
    (∀ process properties detected listed,
      listed.Perm (Properties.keyValueMap properties Resource.attributesKey).toList →
      Resource.base process properties detected =
        Resource.baseOver (Resource.sdkDefaults process) properties detected listed) ∧
    ∀ process plan calls, RunOrder (·.resourceCustomizers) plan.extensions calls →
      let customized := fun properties =>
        calls.foldlM (fun resource call =>
          (call.callback resource properties).mapError SetupError.missingOption)
          (Resource.base process properties
            (if Properties.bool? properties platformDetectionKey = some true then
              [Platform.resource plan.environment]
            else []))
      (∀ properties selected exporter,
        assembledBy plan.extensions plan.properties = .ok properties →
        (select plan.factories properties).result = .ok selected →
        exporterBy plan.extensions properties selected = .ok exporter →
        (build process plan).result = (customized properties).bind fun resource =>
          (installSelected process plan.headerOrder exporter).result.map fun _ =>
            ⟨properties, resource, exporter, .ofExport process⟩) ∧
      ∀ built, (build process plan).result = .ok built →
        customized built.properties = .ok built.resource := by
  refine ⟨?_, ?_, ?_⟩
  · intro defaults properties detected listed hlisted key
    rw [Resource.baseOver_of_perm defaults detected hlisted, Resource.get?_baseOver]
  · intro process properties detected listed hlisted
    rw [Resource.baseOver_of_perm _ detected hlisted]
    rfl
  · intro process plan calls hcalls customized
    have hcustomized : ∀ properties, customized properties =
        resourceBy plan.extensions properties
          (Resource.base process properties (detected plan.environment properties)) :=
      fun properties => (resourceBy_eq hcalls properties _).symm
    refine ⟨fun properties selected exporter hassemble hselect hexporter => ?_,
      fun built hbuilt => ?_⟩
    · rw [hcustomized]
      exact result_build_of_exporter hassemble hselect hexporter
    · obtain ⟨_, -, -, -, hresource⟩ := exists_of_built hbuilt
      rw [hcustomized]
      exact hresource

/-! ### A plan with overlapping layers of its resource

The service name is set to the empty text, one attribute is listed twice, another both listed and
detected, and two extensions set a third one, the extension that was registered first behind the
other. -/

/-- The properties of the plan. -/
def describedProperties : Properties := .ofList [
  (Properties.exporterKey, "none"),
  (Properties.serviceNameKey, ""),
  (Resource.attributesKey, "team=first,cloud.region=listed,team=last"),
  (platformDetectionKey, " TRUE ")]

/-- A customizer that sets one attribute. -/
def marking (mark : String) : ResourceCustomizer := fun resource _ =>
  .ok (resource.setAll [("marked", .text mark)])

/-- The plan, whose environment shows a service that runs in a region. -/
def describedPlan : Plan where
  properties := describedProperties
  extensions := [⟨5, [], [], [], [marking "late"]⟩, ⟨-5, [], [], [], [marking "early"]⟩]
  factories := .empty
  environment := .ofList [("K_SERVICE", "detected"), ("CLOUD_RUN_REGION", "detected")]

/-- The customizers in the order in which they are called. -/
def describedCalls : List (Registered ResourceCustomizer) :=
  [⟨-5, 1, 0, marking "early"⟩, ⟨5, 0, 0, marking "late"⟩]

theorem resource_layered_described :
    RunOrder (·.resourceCustomizers) describedPlan.extensions describedCalls ∧
    (∀ key, (Resource.baseOver (.ofList [("service.name", .text "default")]) describedProperties
        [Platform.resource describedPlan.environment]
        [("team", "last"), ("cloud.region", "listed")]).get? key =
      Resource.layeredValue? (.ofList [("service.name", .text "default")]) describedProperties
        [Platform.resource describedPlan.environment] key) ∧
    ∃ built, (build (.ofList []) describedPlan).result = .ok built ∧
      built.resource.get? "service.name" = some (.text "") ∧
      built.resource.get? "team" = some (.text "last") ∧
      built.resource.get? "cloud.region" = some (.text "listed") ∧
      built.resource.get? "faas.name" = some (.text "detected") ∧
      built.resource.get? "telemetry.sdk.language" = some (.text "rust") ∧
      built.resource.get? "marked" = some (.text "late") ∧
      built.resource.get? "other" = none := by
  have hcalls : RunOrder (·.resourceCustomizers) describedPlan.extensions describedCalls := by
    refine ⟨.swap _ _ [], ?_⟩
    simp [describedCalls, Registered.Before]
  have hlisted : [("team", "last"), ("cloud.region", "listed")].Perm
      (Properties.keyValueMap describedProperties Resource.attributesKey).toList := .swap _ _ []
  have hsuppliers : RunOrder (·.suppliers) describedPlan.extensions [] := ⟨.nil, .nil⟩
  have hassemble : assembledBy describedPlan.extensions describedPlan.properties =
      .ok describedProperties := by
    rw [assembledBy_eq hsuppliers]
    exact result_assemble_eq_ok_iff.2 ⟨[], rfl, fun key => Option.or_none.symm⟩
  obtain ⟨hvalues, -, hbuild⟩ := resource_layered
  have hdescribed := hvalues (.ofList [("service.name", .text "default")]) describedProperties
    [Platform.resource describedPlan.environment] _ hlisted
  refine ⟨hcalls, hdescribed, ?_⟩
  have hselect : (select describedPlan.factories describedProperties).result = .ok none := rfl
  have hexporter : exporterBy describedPlan.extensions describedProperties none = .ok none := rfl
  obtain ⟨hresult, -⟩ := hbuild (.ofList []) describedPlan describedCalls hcalls
  exact ⟨_, hresult describedProperties none none hassemble hselect hexporter, rfl, rfl, rfl, rfl,
    rfl, rfl, rfl⟩

end Pipeline

end TelemetryAuth
