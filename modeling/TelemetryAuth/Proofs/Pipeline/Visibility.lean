import TelemetryAuth.CloudExtension
import TelemetryAuth.Proofs.Pipeline.Assembly

/-!
# What a callback sees of the callbacks before it

Exporters and resources are handed on: a customizer is shown what the one before it returned, so it
sees all earlier changes (`Passage.handed_on`).  Defaults are laid over each other without being
handed on: every supplier is shown the properties of the user and nothing of what the suppliers
before it supplied.  Only the customizers, which are shown the assembled properties, see it.

So an option that an extension supplies does not reach the suppliers of the extensions behind it
(`supplied_region_unseen`).  The main result is `later_callbacks_see_earlier`.
-/

namespace TelemetryAuth.Pipeline

/-! ### Passages -/

theorem mapError_eq_ok_iff {ε ε' α : Type} {convert : ε → ε'} {result : Except ε α} {value : α} :
    result.mapError convert = .ok value ↔ result = .ok value := by
  cases result with
  | error error => exact ⟨nofun, nofun⟩
  | ok other =>
    show Except.ok other = Except.ok value ↔ Except.ok other = Except.ok value
    rw [Except.ok.injEq, Except.ok.injEq]

/-- Errors that are given another form do not change what a loop returns. -/
theorem foldlM_mapError_eq_ok_iff {ε ε' κ σ : Type} {convert : ε → ε'} {step : σ → κ → Except ε σ}
    {items : List κ} {value last : σ} :
    items.foldlM (fun value item => (step value item).mapError convert) value = .ok last ↔
      items.foldlM step value = .ok last := by
  induction items generalizing value with
  | nil => exact ⟨fun h => congrArg _ (Except.ok.inj h), fun h => congrArg _ (Except.ok.inj h)⟩
  | cons item later ih =>
    rw [List.foldlM_cons, List.foldlM_cons]
    cases hstep : step value item with
    | error error => exact ⟨nofun, nofun⟩
    | ok after => exact ih

section Passages

variable {κ σ τ : Type} {event : κ → σ → Event} {call : κ → σ → Except SetupError σ} {value : σ}
  {before between behind : List κ} {earlier callback later : κ} {events : List Event}
  {result : Except SetupError σ} {observe : Event → Option τ} {seen : τ}

/-- The callback at a place of a passage is called if those before it return a value, and it is
shown the last of these. -/
theorem Passage.getElem?_eq_some_iff (view : σ → τ)
    (hview : ∀ callback value, observe (event callback value) = some (view value))
    (h : Passage event call value (before ++ callback :: behind) events result) :
    (events.filterMap observe)[before.length]? = some seen ↔
      ∃ shown, before.foldlM (fun value callback => call callback value) value = .ok shown ∧
        view shown = seen := by
  induction before generalizing value events with
  | nil =>
    have hfirst : ∃ later, events = event callback value :: later := by
      cases h with
      | next returned rest => exact ⟨_, rfl⟩
      | failed failed => exact ⟨[], rfl⟩
    obtain ⟨later, rfl⟩ := hfirst
    rw [List.filterMap_cons_some (hview callback value)]
    constructor
    · intro hseen
      exact ⟨value, rfl, Option.some.inj hseen⟩
    · rintro ⟨shown, hshown, rfl⟩
      rw [Except.ok.inj hshown]
      rfl
  | cons first before ih =>
    cases h with
    | next returned rest =>
      rw [List.filterMap_cons_some (hview first value), List.length_cons,
        List.getElem?_cons_succ, ih rest, List.foldlM_cons, returned]
      rfl
    | failed failed =>
      -- Nothing is called behind the callback that failed.
      rw [List.filterMap_cons_some (hview first value), List.foldlM_cons, failed]
      constructor
      · nofun
      · rintro ⟨shown, ⟨⟩, -⟩

/-- A callback that is called sees what an earlier one returned, after those between them. -/
theorem Passage.handed_on (view : σ → τ)
    (hview : ∀ callback value, observe (event callback value) = some (view value))
    (h : Passage event call value (before ++ earlier :: (between ++ later :: behind)) events result)
    (hseen : (events.filterMap observe)[before.length + 1 + between.length]? = some seen) :
    ∃ handed returned shown, (events.filterMap observe)[before.length]? = some (view handed) ∧
      call earlier handed = .ok returned ∧
      between.foldlM (fun value callback => call callback value) returned = .ok shown ∧
      view shown = seen := by
  have hsplit : before ++ earlier :: (between ++ later :: behind) =
      (before ++ earlier :: between) ++ later :: behind := by simp
  have hlength : before.length + 1 + between.length = (before ++ earlier :: between).length := by
    simp only [List.length_append, List.length_cons]
    omega
  have hlater := h
  rw [hsplit] at hlater
  rw [hlength, hlater.getElem?_eq_some_iff view hview] at hseen
  obtain ⟨shown, hshown, hview'⟩ := hseen
  rw [List.foldlM_append] at hshown
  obtain ⟨handed, hhanded, hshown⟩ := exists_of_bind_ok hshown
  rw [List.foldlM_cons] at hshown
  obtain ⟨returned, hreturned, hshown⟩ := exists_of_bind_ok hshown
  exact ⟨handed, returned, shown, (h.getElem?_eq_some_iff view hview).2 ⟨handed, hhanded, rfl⟩,
    hreturned, hshown, hview'⟩

end Passages

/-! ### The calls of a build by their kinds -/

/-- What a customizer of exporters is shown in a call. -/
def Event.shownExporter? : Event → Option (Exporter × Properties)
  | .exporter _ before properties => some (before, properties)
  | _ => none

/-- What a customizer of resources is shown in a call. -/
def Event.shownResource? : Event → Option (Resource × Properties)
  | .resource _ before properties => some (before, properties)
  | _ => none

/-- Whether a supplier, if one is called, is shown some properties. -/
def Event.ShowsSupplier (user : Properties) : Event → Prop
  | .supply _ shown => shown = user
  | _ => True

variable {process : Environment} {plan : Plan} {schedule : Schedule plan.extensions}
  {events : List Event} {properties : Properties}

/-- The selection of an exporter calls nothing but a factory. -/
theorem Selects.forall_factory {factories : Dictionary ExporterFactory} {selection : List Event}
    {result : Except SetupError (Option Exporter)}
    (h : Selects factories properties selection result) :
    ∀ event ∈ selection, ∃ reported, event = .factory reported properties := by
  cases h with
  | nothing key => exact List.forall_mem_nil _
  | transport key protocol => exact List.forall_mem_nil _
  | unsupported key protocol => exact List.forall_mem_nil _
  | made wanted other known => exact List.forall_mem_singleton.2 ⟨_, rfl⟩
  | unknown wanted other unknown => exact List.forall_mem_nil _

/-- The calls for the exporter, customizers behind a factory. -/
theorem Exports.exists_parts {exports : List Event} {result : Except SetupError (Option Exporter)}
    (h : Exports plan schedule properties exports result) :
    ∃ selection customizations, exports = selection ++ customizations ∧
      (∀ event ∈ selection, ∃ reported, event = .factory reported properties) ∧
      (customizations = [] ∨ ∃ selected exporter,
        CustomizesExporter properties selected schedule.exporterCustomizers customizations
          (.ok exporter)) := by
  cases h with
  | failed select => exact ⟨_, [], (List.append_nil _).symm, select.forall_factory, .inl rfl⟩
  | nothing select => exact ⟨_, [], (List.append_nil _).symm, select.forall_factory, .inl rfl⟩
  | customized select customize =>
    exact ⟨_, _, rfl, select.forall_factory, .inr ⟨_, _, customize⟩⟩

/-- The calls of a build by their phases: announcements and suppliers, and if the properties are
assembled also the factory and the customizers.  A phase that is not reached has no calls. -/
structure Phases (plan : Plan) (schedule : Schedule plan.extensions)
    (events supplies selection customizations resources : List Event) : Prop where
  events_eq : events = schedule.announced.map (fun call => Event.customize call.place) ++
    supplies ++ selection ++ customizations ++ resources
  supplies_passage : ∃ result, Supplies plan.properties .empty schedule.suppliers supplies result
  selection_factory : ∀ event ∈ selection, ∃ reported shown, event = .factory reported shown
  customizations_passage : customizations = [] ∨ ∃ properties selected exporter,
    (∃ calls, Assembles plan schedule calls (.ok properties)) ∧
      CustomizesExporter properties selected schedule.exporterCustomizers customizations
        (.ok exporter)
  resources_passage : resources = [] ∨ ∃ properties base result,
    (∃ calls, Assembles plan schedule calls (.ok properties)) ∧
      CustomizesResource properties base schedule.resourceCustomizers resources result

theorem Assembles.exists_supplies {calls : List Event} {result : Except SetupError Properties}
    (h : Assembles plan schedule calls result) :
    ∃ supplies, calls = schedule.announced.map (fun call => .customize call.place) ++ supplies ∧
      ∃ result, Supplies plan.properties .empty schedule.suppliers supplies result := by
  cases h with
  | failed supply => exact ⟨_, rfl, _, supply⟩
  | done supply => exact ⟨_, rfl, _, supply⟩

/-- The phases of a build that has assembled its properties. -/
theorem Phases.of_parts {calls exports resources : List Event}
    {result : Except SetupError (Option Exporter)}
    (assemble : Assembles plan schedule calls (.ok properties))
    (provide : Exports plan schedule properties exports result)
    (describe : resources = [] ∨ ∃ base result,
      CustomizesResource properties base schedule.resourceCustomizers resources result) :
    ∃ supplies selection customizations, Phases plan schedule (calls ++ exports ++ resources)
      supplies selection customizations resources := by
  obtain ⟨supplies, rfl, hsupplies⟩ := assemble.exists_supplies
  obtain ⟨selection, customizations, rfl, hselection, hcustomizations⟩ := provide.exists_parts
  refine ⟨supplies, selection, customizations, by simp, hsupplies, ?_, ?_, ?_⟩
  · intro event hmem
    obtain ⟨reported, rfl⟩ := hselection event hmem
    exact ⟨reported, properties, rfl⟩
  · rcases hcustomizations with hnone | ⟨selected, exporter, hpass⟩
    · exact .inl hnone
    · exact .inr ⟨properties, selected, exporter, ⟨_, assemble⟩, hpass⟩
  · rcases describe with hnone | ⟨base, result, hpass⟩
    · exact .inl hnone
    · exact .inr ⟨properties, base, result, ⟨_, assemble⟩, hpass⟩

theorem Builds.exists_phases {result : Except SetupError Built}
    (h : Builds process plan schedule events result) :
    ∃ supplies selection customizations resources,
      Phases plan schedule events supplies selection customizations resources := by
  cases h with
  | assemblyFailed assemble =>
    obtain ⟨supplies, rfl, hsupplies⟩ := assemble.exists_supplies
    exact ⟨supplies, [], [], [], by simp, hsupplies, List.forall_mem_nil _, .inl rfl, .inl rfl⟩
  | exporterFailed assemble provide =>
    obtain ⟨supplies, selection, customizations, hphases⟩ :=
      Phases.of_parts assemble provide (.inl rfl)
    rw [List.append_nil] at hphases
    exact ⟨supplies, selection, customizations, [], hphases⟩
  | resourceFailed assemble provide describe =>
    obtain ⟨supplies, selection, customizations, hphases⟩ :=
      Phases.of_parts assemble provide (.inr ⟨_, _, describe⟩)
    exact ⟨supplies, selection, customizations, _, hphases⟩
  | installFailed assemble provide describe install =>
    obtain ⟨supplies, selection, customizations, hphases⟩ :=
      Phases.of_parts assemble provide (.inr ⟨_, _, describe⟩)
    exact ⟨supplies, selection, customizations, _, hphases⟩
  | built assemble provide describe install =>
    obtain ⟨supplies, selection, customizations, hphases⟩ :=
      Phases.of_parts assemble provide (.inr ⟨_, _, describe⟩)
    exact ⟨supplies, selection, customizations, _, hphases⟩

section Phases

variable {supplies selection customizations resources : List Event}

/-- Whoever observes customizers only can pass over the phases before them. -/
theorem Phases.filterMap_eq {τ : Type} {observe : Event → Option τ}
    (h : Phases plan schedule events supplies selection customizations resources)
    (hannounce : ∀ place, observe (.customize place) = none)
    (hsupply : ∀ place shown, observe (.supply place shown) = none)
    (hfactory : ∀ reported shown, observe (.factory reported shown) = none) :
    events.filterMap observe = customizations.filterMap observe ++ resources.filterMap observe := by
  have hannounced :
      (schedule.announced.map fun call => Event.customize call.place).filterMap observe = [] := by
    rw [List.filterMap_eq_nil_iff]
    intro event hmem
    obtain ⟨call, -, rfl⟩ := List.mem_map.1 hmem
    exact hannounce call.place
  have hsupplied : supplies.filterMap observe = [] := by
    rw [List.filterMap_eq_nil_iff]
    obtain ⟨result, hpass⟩ := h.supplies_passage
    exact hpass.forall_event fun call _ => hsupply call.place plan.properties
  have hselected : selection.filterMap observe = [] := by
    rw [List.filterMap_eq_nil_iff]
    intro event hmem
    obtain ⟨reported, shown, rfl⟩ := h.selection_factory event hmem
    exact hfactory reported shown
  rw [h.events_eq]
  simp only [List.filterMap_append, hannounced, hsupplied, hselected, List.nil_append]

theorem Phases.shownExporters_eq
    (h : Phases plan schedule events supplies selection customizations resources) :
    events.filterMap Event.shownExporter? = customizations.filterMap Event.shownExporter? := by
  have hresources : resources.filterMap Event.shownExporter? = [] := by
    rw [List.filterMap_eq_nil_iff]
    rcases h.resources_passage with rfl | ⟨properties, base, result, -, hpass⟩
    · exact List.forall_mem_nil _
    · exact hpass.forall_event fun _ _ => rfl
  rw [h.filterMap_eq (fun _ => rfl) (fun _ _ => rfl) fun _ _ => rfl, hresources, List.append_nil]

theorem Phases.shownResources_eq
    (h : Phases plan schedule events supplies selection customizations resources) :
    events.filterMap Event.shownResource? = resources.filterMap Event.shownResource? := by
  have hcustomizations : customizations.filterMap Event.shownResource? = [] := by
    rw [List.filterMap_eq_nil_iff]
    rcases h.customizations_passage with rfl | ⟨properties, selected, exporter, -, hpass⟩
    · exact List.forall_mem_nil _
    · exact hpass.forall_event fun _ _ => rfl
  rw [h.filterMap_eq (fun _ => rfl) (fun _ _ => rfl) fun _ _ => rfl, hcustomizations,
    List.nil_append]

end Phases

/-! ### What is shown -/

/-- The properties that all callbacks behind the suppliers are shown: those of the user over
everything that the suppliers have supplied. -/
def Layers (plan : Plan) (schedule : Schedule plan.extensions) (properties : Properties) : Prop :=
  ∃ maps, Return plan.properties (schedule.suppliers.map Registered.pair) maps ∧
    ∀ key, properties.get? key = (plan.properties.get? key).or (Dictionary.topmost? maps key)

theorem Assembles.layers {calls : List Event}
    (h : Assembles plan schedule calls (.ok properties)) : Layers plan schedule properties := by
  obtain rfl := schedule.eq_ofArranged
  have hassembled : (assembled plan).result = .ok properties :=
    ((assembles_assembled plan).unique h).2
  rw [result_assembled, assembledBy_eq (runOrder_calls _ plan.extensions)] at hassembled
  exact result_assemble_eq_ok_iff.1 hassembled

/-- Every supplier is shown the properties of the user. -/
theorem Builds.forall_showsSupplier {result : Except SetupError Built}
    (h : Builds process plan schedule events result) :
    ∀ event ∈ events, event.ShowsSupplier plan.properties := by
  obtain ⟨supplies, selection, customizations, resources, hphases⟩ := h.exists_phases
  intro event hmem
  rw [hphases.events_eq] at hmem
  simp only [List.mem_append] at hmem
  rcases hmem with (((hannounced | hsupplied) | hselected) | hcustomized) | hdescribed
  · obtain ⟨call, -, rfl⟩ := List.mem_map.1 hannounced
    trivial
  · obtain ⟨result, hpass⟩ := hphases.supplies_passage
    exact hpass.forall_event (fun _ _ => rfl) event hsupplied
  · obtain ⟨reported, shown, rfl⟩ := hphases.selection_factory event hselected
    trivial
  · rcases hphases.customizations_passage with rfl | ⟨properties, selected, exporter, -, hpass⟩
    · cases hcustomized
    · exact hpass.forall_event (fun _ _ => trivial) event hcustomized
  · rcases hphases.resources_passage with rfl | ⟨properties, base, result, -, hpass⟩
    · cases hdescribed
    · exact hpass.forall_event (fun _ _ => trivial) event hdescribed

/-- A customizer of exporters is handed what an earlier one returned. -/
theorem Builds.exporter_handed_on {result : Except SetupError Built}
    {before between behind : List (Registered ExporterCustomizer)}
    {earlier later : Registered ExporterCustomizer} {shown : Exporter}
    (h : Builds process plan schedule events result)
    (hschedule : schedule.exporterCustomizers =
      before ++ earlier :: (between ++ later :: behind))
    (hshown : (events.filterMap Event.shownExporter?)[before.length + 1 + between.length]? =
      some (shown, properties)) :
    Layers plan schedule properties ∧
    ∃ handed, (events.filterMap Event.shownExporter?)[before.length]? =
        some (handed, properties) ∧
      shown = between.foldl (fun exporter call => (call.callback exporter properties).1)
        (earlier.callback handed properties).1 := by
  obtain ⟨supplies, selection, customizations, resources, hphases⟩ := h.exists_phases
  rw [hphases.shownExporters_eq] at hshown ⊢
  rcases hphases.customizations_passage with
    rfl | ⟨assembled, selected, exporter, ⟨calls, hassemble⟩, hpass⟩
  · cases hshown
  · rw [hschedule] at hpass
    obtain ⟨handed, returned, last, hhanded, hreturned, hlast, hview⟩ :=
      Passage.handed_on (fun exporter => (exporter, assembled)) (fun _ _ => rfl) hpass hshown
    obtain ⟨rfl, rfl⟩ := Prod.mk.inj hview
    obtain rfl := Except.ok.inj hreturned
    refine ⟨hassemble.layers, handed, hhanded, ?_⟩
    -- Customizers of exporters never fail, so the monadic loop is a plain one.
    exact Except.ok.inj (hlast.symm.trans List.foldlM_pure)

/-- A customizer of resources is handed what an earlier one returned. -/
theorem Builds.resource_handed_on {result : Except SetupError Built}
    {before between behind : List (Registered ResourceCustomizer)}
    {earlier later : Registered ResourceCustomizer} {shown : Resource}
    (h : Builds process plan schedule events result)
    (hschedule : schedule.resourceCustomizers =
      before ++ earlier :: (between ++ later :: behind))
    (hshown : (events.filterMap Event.shownResource?)[before.length + 1 + between.length]? =
      some (shown, properties)) :
    Layers plan schedule properties ∧
    ∃ handed returned, (events.filterMap Event.shownResource?)[before.length]? =
        some (handed, properties) ∧
      earlier.callback handed properties = .ok returned ∧
      between.foldlM (fun resource call => call.callback resource properties) returned =
        .ok shown := by
  obtain ⟨supplies, selection, customizations, resources, hphases⟩ := h.exists_phases
  rw [hphases.shownResources_eq] at hshown ⊢
  rcases hphases.resources_passage with
    rfl | ⟨assembled, base, result, ⟨calls, hassemble⟩, hpass⟩
  · cases hshown
  · rw [hschedule] at hpass
    obtain ⟨handed, returned, last, hhanded, hreturned, hlast, hview⟩ :=
      Passage.handed_on (fun resource => (resource, assembled)) (fun _ _ => rfl) hpass hshown
    obtain ⟨rfl, rfl⟩ := Prod.mk.inj hview
    exact ⟨hassemble.layers, handed, returned, hhanded, mapError_eq_ok_iff.1 hreturned,
      foldlM_mapError_eq_ok_iff.1 hlast⟩

/-- A supplier that does not find the region in the environment and among the properties of the user
fails the build, whatever the suppliers before it have supplied. -/
theorem result_build_of_region_unset (process : Environment) {env : Environment}
    {before behind : List (Registered DefaultsSupplier)} {call : Registered DefaultsSupplier}
    {maps : List Properties} (hschedule : schedule.suppliers = before ++ call :: behind)
    (hcall : call.callback = CloudExtension.defaults env)
    (hreturn : Return plan.properties (before.map Registered.pair) maps)
    (hunset : RequiredOption.region.Unset env plan.properties) :
    (build process plan).result = .error (.missingOption ⟨.region⟩) := by
  have hfails : call.pair.2 plan.properties = .error ⟨.region⟩ := by
    have hvalue : RequiredOption.region.value env plan.properties = .error ⟨.region⟩ :=
      RequiredOption.value_eq_error_iff.2 ⟨hunset, rfl⟩
    show call.callback plan.properties = .error ⟨.region⟩
    rw [hcall]
    unfold CloudExtension.defaults
    rw [hvalue]
    rfl
  apply result_build_of_assembly_error
  rw [assembledBy_eq schedule.suppliers_inOrder, hschedule, List.map_append, List.map_cons]
  exact result_assemble_of_failure hreturn hfails

/-- **A callback sees the work of the callbacks before it, unless it is a supplier.**  Take any
build, and two callbacks of one kind, one of which runs before the other.

- If the later of two customizers of exporters is called, so is the earlier, and the later is shown
  the exporter that the earlier returned, after the changes of those between them.
- So it is for two customizers of resources.
- Both are shown properties in which every key has its value of the user if there is one, else that
  of the last supplier that supplies it.
- But a supplier is shown the properties of the user and nothing else.  So the supplier of the cloud
  extension does not find a region that others have supplied: if it is set neither in the
  environment nor by the user, the build fails for want of it. -/
theorem later_callbacks_see_earlier (process : Environment) (plan : Plan)
    (schedule : Schedule plan.extensions) :
    let events := (build process plan).events
    (∀ before earlier between later behind,
      schedule.exporterCustomizers = before ++ earlier :: (between ++ later :: behind) →
      ∀ shown properties,
        (events.filterMap Event.shownExporter?)[before.length + 1 + between.length]? =
            some (shown, properties) →
          Layers plan schedule properties ∧
          ∃ handed, (events.filterMap Event.shownExporter?)[before.length]? =
              some (handed, properties) ∧
            shown = between.foldl (fun exporter call => (call.callback exporter properties).1)
              (earlier.callback handed properties).1) ∧
    (∀ before earlier between later behind,
      schedule.resourceCustomizers = before ++ earlier :: (between ++ later :: behind) →
      ∀ shown properties,
        (events.filterMap Event.shownResource?)[before.length + 1 + between.length]? =
            some (shown, properties) →
          Layers plan schedule properties ∧
          ∃ handed returned, (events.filterMap Event.shownResource?)[before.length]? =
              some (handed, properties) ∧
            earlier.callback handed properties = .ok returned ∧
            between.foldlM (fun resource call => call.callback resource properties) returned =
              .ok shown) ∧
    (∀ place shown, .supply place shown ∈ events → shown = plan.properties) ∧
    ∀ env before call behind maps, schedule.suppliers = before ++ call :: behind →
      call.callback = CloudExtension.defaults env →
      Return plan.properties (before.map Registered.pair) maps →
      RequiredOption.region.Unset env plan.properties →
        (build process plan).result = .error (.missingOption ⟨.region⟩) := by
  intro events
  have hbuilds : Builds process plan schedule events (build process plan).result := by
    obtain rfl := schedule.eq_ofArranged
    exact builds_build process plan
  refine ⟨?_, ?_, ?_, ?_⟩
  · intro before earlier between later behind hschedule shown properties hshown
    exact hbuilds.exporter_handed_on hschedule hshown
  · intro before earlier between later behind hschedule shown properties hshown
    exact hbuilds.resource_handed_on hschedule hshown
  · intro place shown hmem
    exact hbuilds.forall_showsSupplier _ hmem
  · intro env before call behind maps hschedule hcall hreturn hunset
    exact result_build_of_region_unset process hschedule hcall hreturn hunset

/-! ### A plan whose extensions see each other -/

/-- An extension that supplies a property, replaces the exporter and marks the resource. -/
def markingExtension : Extension where
  order := 0
  announcement := []
  suppliers := [fun _ => .ok (Dictionary.ofList [("mark", "first")])]
  exporterCustomizers := [fun _ _ => (.named "marked", [])]
  resourceCustomizers := [fun resource _ => .ok (resource.setAll [("mark", .text "first")])]

/-- An extension behind it that leaves everything as it is. -/
def watchingExtension : Extension where
  order := 1
  announcement := []
  suppliers := []
  exporterCustomizers := [fun exporter _ => (exporter, [])]
  resourceCustomizers := [fun resource _ => .ok resource]

/-- A plan with both extensions and an exporter of its own. -/
def watchedPlan : Plan :=
  ((((Plan.ofEnvironment (.ofList [])).setProperty Properties.exporterKey "memory").addFactory
    "memory" fun _ => "memory").addExtension markingExtension).addExtension watchingExtension

/-- The calls of this plan. -/
def watchedSchedule : Schedule watchedPlan.extensions where
  announced := [⟨0, 0, 0, ()⟩, ⟨1, 1, 0, ()⟩]
  suppliers := [⟨0, 0, 0, fun _ => .ok (Dictionary.ofList [("mark", "first")])⟩]
  exporterCustomizers :=
    [⟨0, 0, 0, fun _ _ => (.named "marked", [])⟩, ⟨1, 1, 0, fun exporter _ => (exporter, [])⟩]
  resourceCustomizers :=
    [⟨0, 0, 0, fun resource _ => .ok (resource.setAll [("mark", .text "first")])⟩,
      ⟨1, 1, 0, fun resource _ => .ok resource⟩]
  announced_inOrder := ⟨.refl _, by simp [Registered.Before]⟩
  suppliers_inOrder := ⟨.refl _, by simp⟩
  exporterCustomizers_inOrder := ⟨.refl _, by simp [Registered.Before]⟩
  resourceCustomizers_inOrder := ⟨.refl _, by simp [Registered.Before]⟩

/-- The properties that are assembled for it. -/
def watchedProperties : Properties :=
  (Dictionary.empty.insertMany (Dictionary.ofList [("mark", "first")]).toList).insertMany
    watchedPlan.properties.toList

/-- In its build the second customizers are shown what the first ones return. -/
theorem builds_watchedPlan (process : Environment) :
    ∃ events result, Builds process watchedPlan watchedSchedule events result ∧
      (events.filterMap Event.shownExporter?)[1]? = some (.named "marked", watchedProperties) ∧
      (events.filterMap Event.shownResource?)[1]? =
        some ((Resource.base process watchedProperties []).setAll [("mark", .text "first")],
          watchedProperties) := by
  have hassemble : Assembles watchedPlan watchedSchedule
      [.customize 0, .customize 1, .supply 0 watchedPlan.properties] (.ok watchedProperties) :=
    .done (.next rfl .done)
  have hkey : selectionKey watchedProperties = "memory" := by decide +kernel
  have hselect : Selects watchedPlan.factories watchedProperties
      [.factory "memory" watchedProperties] (.ok (some (.named "memory"))) := by
    have hknown : watchedPlan.factories.get? (selectionKey watchedProperties) =
        some fun _ => "memory" := by
      rw [hkey]
      rfl
    refine .made ?_ ?_ hknown
    · rw [hkey]
      decide
    · rw [hkey]
      decide
  have hprovide : Exports watchedPlan watchedSchedule watchedProperties
      [.factory "memory" watchedProperties, .exporter 0 (.named "memory") watchedProperties,
        .exporter 1 (.named "marked") watchedProperties] (.ok (some (.named "marked"))) :=
    .customized hselect (.next rfl (.next rfl .done))
  have hdetected : detected watchedPlan.environment watchedProperties = [] := by
    unfold detected
    rw [if_neg (by decide +kernel)]
  have hdescribe : CustomizesResource watchedProperties
      (Resource.base process watchedProperties
        (detected watchedPlan.environment watchedProperties))
      watchedSchedule.resourceCustomizers _ (.ok _) := .next rfl (.next rfl .done)
  refine ⟨_, _, .built hassemble hprovide hdescribe ?_, rfl, ?_⟩
  · rintro installed ⟨⟩
    rfl
  · rw [hdetected]
    rfl

/-! ### A plan with a region that is not seen -/

/-- What an extension supplies that knows the region. -/
def suppliedRegion : Properties := .ofList [("google.cloud.region", "europe-west1")]

/-- An environment without a region. -/
def regionlessEnvironment : Environment := .ofList [("GOOGLE_CLOUD_PROJECT", "proj1")]

/-- A plan in which an extension supplies the region before the cloud extension asks for it. -/
def regionPlan : Plan :=
  (((Plan.ofEnvironment (.ofList [])).setProperty Properties.exporterKey "none").addExtension
    ⟨0, [], [fun _ => .ok suppliedRegion], [], []⟩).addExtension
      (CloudExtension.extension regionlessEnvironment ⟨0, .credentials 0⟩ "proj1")

/-- The calls of this plan. -/
def regionSchedule : Schedule regionPlan.extensions where
  announced := [⟨0, 0, 0, ()⟩, ⟨CloudExtension.order, 1, 0, ()⟩]
  suppliers := [⟨0, 0, 0, fun _ => .ok suppliedRegion⟩,
    ⟨CloudExtension.order, 1, 0, CloudExtension.defaults regionlessEnvironment⟩]
  exporterCustomizers := _
  resourceCustomizers := _
  announced_inOrder := ⟨.refl _, by simp [Registered.Before, CloudExtension.order]⟩
  suppliers_inOrder := ⟨.refl _, by simp [Registered.Before, CloudExtension.order]⟩
  exporterCustomizers_inOrder := runOrder_calls _ _
  resourceCustomizers_inOrder := runOrder_calls _ _

theorem region_unset_regionPlan :
    RequiredOption.region.Unset regionlessEnvironment regionPlan.properties := by
  have hvalue : RequiredOption.region.value regionlessEnvironment regionPlan.properties =
      .error ⟨.region⟩ := rfl
  exact (RequiredOption.value_eq_error_iff.1 hvalue).1

/-- The supplier of the cloud extension is not shown the region that the supplier before it has
supplied, so the build fails although that region would do. -/
theorem supplied_region_unseen :
    RequiredOption.region.value regionlessEnvironment suppliedRegion = .ok "europe-west1" ∧
    (build (.ofList []) regionPlan).events =
      [.customize 0, .customize 1, .supply 0 regionPlan.properties,
        .supply 1 regionPlan.properties] ∧
    regionPlan.properties.get? "google.cloud.region" = none ∧
    (build (.ofList []) regionPlan).result = .error (.missingOption ⟨.region⟩) := by
  have hbuilds : Builds (.ofList []) regionPlan regionSchedule
      [.customize 0, .customize 1, .supply 0 regionPlan.properties,
        .supply 1 regionPlan.properties] (.error (.missingOption ⟨.region⟩)) :=
    .assemblyFailed (.failed (.next rfl (.failed rfl)))
  rw [regionSchedule.eq_ofArranged] at hbuilds
  obtain ⟨hevents, hresult⟩ := hbuilds.eq_build
  exact ⟨rfl, hevents, rfl, hresult⟩

theorem later_callbacks_see_earlier_watched :
    let events := (build (.ofList []) watchedPlan).events
    Layers watchedPlan watchedSchedule watchedProperties ∧
    (∃ handed, (events.filterMap Event.shownExporter?)[0]? = some (handed, watchedProperties) ∧
      (events.filterMap Event.shownExporter?)[1]? = some (.named "marked", watchedProperties)) ∧
    (∃ handed, (events.filterMap Event.shownResource?)[0]? = some (handed, watchedProperties) ∧
      (events.filterMap Event.shownResource?)[1]? =
        some (handed.setAll [("mark", .text "first")], watchedProperties)) ∧
    (∀ place shown, .supply place shown ∈ events → shown = watchedPlan.properties) ∧
    Return regionPlan.properties
      [(0, fun _ => .ok suppliedRegion)] [suppliedRegion] ∧
    RequiredOption.region.Unset regionlessEnvironment regionPlan.properties ∧
    (build (.ofList []) regionPlan).result = .error (.missingOption ⟨.region⟩) := by
  intro events
  obtain ⟨_, _, hbuilds, hexporter, hresource⟩ := builds_watchedPlan (.ofList [])
  rw [watchedSchedule.eq_ofArranged] at hbuilds
  obtain ⟨rfl, -⟩ := hbuilds.eq_build
  obtain ⟨hexporters, hresources, hsuppliers, -⟩ :=
    later_callbacks_see_earlier (.ofList []) watchedPlan watchedSchedule
  obtain ⟨-, -, -, hregion⟩ := later_callbacks_see_earlier (.ofList []) regionPlan regionSchedule
  obtain ⟨hlayers, handed, hhanded, -⟩ := hexporters [] _ [] _ [] rfl _ _ hexporter
  obtain ⟨-, before, returned, hbefore, hreturned, hshown⟩ :=
    hresources [] _ [] _ [] rfl _ _ hresource
  have hreturn : Return regionPlan.properties [(0, fun _ => .ok suppliedRegion)]
      [suppliedRegion] := rfl
  refine ⟨hlayers, ⟨handed, hhanded, hexporter⟩, ⟨before, hbefore, ?_⟩, hsuppliers, hreturn,
    region_unset_regionPlan, ?_⟩
  · have hmarked : returned = before.setAll [("mark", .text "first")] :=
      (Except.ok.inj hreturned).symm
    rw [hresource, ← Except.ok.inj hshown, hmarked]
  · exact hregion regionlessEnvironment [⟨0, 0, 0, fun _ => .ok suppliedRegion⟩] _ []
      [suppliedRegion] rfl rfl hreturn region_unset_regionPlan

end TelemetryAuth.Pipeline
