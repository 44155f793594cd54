import TelemetryAuth.Pipeline.Build
import TelemetryAuth.Proofs.Pipeline.Schedule

/-!
# The calls that a build makes

In each phase of a build a value passes through callbacks: every one is called once, with what the
one before it returned, and the first error ends the phase and the build (`Passage`).  The relations
`Assembles`, `Exports` and `Builds` put the phases together: which calls are made in which order,
what each is shown, and what comes out.  They speak of callbacks in the order of `RunOrder` and say
nothing of how the extensions are arranged or of how a `Run` is put together.

The main result is `build_follows_schedule`: there is one schedule, and the calls and the result of
a build are the only ones that the relations allow for it.
-/

namespace TelemetryAuth.Pipeline

/-! ### Runs -/

namespace Run

variable {α β : Type}

/-- The second part follows the first unless the first has failed. -/
theorem bind_cases (first : Run α) (second : α → Run β) :
    (∃ error, first.result = .error error ∧ (first >>= second).result = .error error ∧
      (first >>= second).events = first.events) ∨
    ∃ value, first.result = .ok value ∧ (first >>= second).result = (second value).result ∧
      (first >>= second).events = first.events ++ (second value).events := by
  have hbind : first >>= second = first.andThen second := rfl
  rw [hbind]
  cases h : first.result with
  | error error =>
    rw [andThen_of_error h]
    exact .inl ⟨error, rfl, rfl, rfl⟩
  | ok value =>
    rw [andThen_of_ok h]
    exact .inr ⟨value, rfl, rfl, rfl⟩

theorem bind_of_ok {first : Run α} {value : α} (h : first.result = .ok value)
    (second : α → Run β) :
    (first >>= second).result = (second value).result ∧
      (first >>= second).events = first.events ++ (second value).events := by
  rcases bind_cases first second with ⟨error, herror, -, -⟩ | ⟨other, hother, hbind⟩
  · cases h.symm.trans herror
  · obtain rfl := Except.ok.inj (h.symm.trans hother)
    exact hbind

theorem result_bind (first : Run α) (second : α → Run β) :
    (first >>= second).result = first.result.bind fun value => (second value).result := by
  rcases bind_cases first second with ⟨error, herror, hresult, -⟩ | ⟨value, hvalue, hresult, -⟩
  · rw [hresult, herror]
    rfl
  · rw [hresult, hvalue]
    rfl

@[simp] theorem events_pure (value : α) : (pure value : Run α).events = [] := rfl

@[simp] theorem events_done (value : α) : (done value).events = [] := rfl

end Run

/-! ### Passages -/

variable {κ σ : Type}

/-- A value passes through callbacks: `event` is the call of a callback with a value, `call` what it
returns. -/
inductive Passage (event : κ → σ → Event) (call : κ → σ → Except SetupError σ) :
    σ → List κ → List Event → Except SetupError σ → Prop
  /-- No callback is left. -/
  | done {value : σ} : Passage event call value [] [] (.ok value)
  /-- The next callback returns the value for those behind it. -/
  | next {value after : σ} {callback : κ} {later : List κ} {events : List Event}
      {result : Except SetupError σ} (returned : call callback value = .ok after)
      (rest : Passage event call after later events result) :
      Passage event call value (callback :: later) (event callback value :: events) result
  /-- The next callback fails and is the last that is called. -/
  | failed {value : σ} {callback : κ} {later : List κ} {error : SetupError}
      (failed : call callback value = .error error) :
      Passage event call value (callback :: later) [event callback value] (.error error)

theorem Passage.unique {event : κ → σ → Event} {call : κ → σ → Except SetupError σ} {value : σ}
    {callbacks : List κ} {events events' : List Event} {result result' : Except SetupError σ}
    (h : Passage event call value callbacks events result)
    (h' : Passage event call value callbacks events' result') :
    events = events' ∧ result = result' := by
  induction h generalizing events' result' with
  | done =>
    cases h'
    exact ⟨rfl, rfl⟩
  | next returned rest ih =>
    cases h' with
    | next returned' rest' =>
      obtain rfl := Except.ok.inj (returned.symm.trans returned')
      obtain ⟨rfl, rfl⟩ := ih rest'
      exact ⟨rfl, rfl⟩
    | failed failed' => cases returned.symm.trans failed'
  | failed failed =>
    cases h' with
    | next returned' rest' => cases failed.symm.trans returned'
    | failed failed' => exact ⟨rfl, failed.symm.trans failed'⟩

/-- A loop is a passage if each of its rounds calls one callback and stops at an error. -/
theorem Passage.of_loop {event : κ → σ → Event} {call : κ → σ → Except SetupError σ}
    (loop : σ → List κ → Run σ) (hdone : ∀ value, loop value [] = .done value)
    (hnext : ∀ value callback later after, call callback value = .ok after →
      (loop value (callback :: later)).events = event callback value :: (loop after later).events ∧
        (loop value (callback :: later)).result = (loop after later).result)
    (hfailed : ∀ value callback later error, call callback value = .error error →
      (loop value (callback :: later)).events = [event callback value] ∧
        (loop value (callback :: later)).result = .error error)
    (value : σ) (callbacks : List κ) :
    Passage event call value callbacks (loop value callbacks).events
      (loop value callbacks).result := by
  induction callbacks generalizing value with
  | nil =>
    rw [hdone]
    exact .done
  | cons callback later ih =>
    cases hcall : call callback value with
    | error error =>
      obtain ⟨hevents, hresult⟩ := hfailed value callback later error hcall
      rw [hevents, hresult]
      exact .failed hcall
    | ok after =>
      obtain ⟨hevents, hresult⟩ := hnext value callback later after hcall
      rw [hevents, hresult]
      exact .next hcall (ih after)

/-- A passage through callbacks that never fail does not fail. -/
theorem Passage.exists_ok {event : κ → σ → Event} {call : κ → σ → Except SetupError σ} {value : σ}
    {callbacks : List κ} {events : List Event} {result : Except SetupError σ}
    (h : Passage event call value callbacks events result)
    (hcalls : ∀ callback ∈ callbacks, ∀ value, ∃ after, call callback value = .ok after) :
    ∃ after, result = .ok after := by
  induction h with
  | done => exact ⟨_, rfl⟩
  | next returned rest ih =>
    exact ih fun callback hmem => hcalls callback (List.mem_cons_of_mem _ hmem)
  | @failed value callback later error failed =>
    obtain ⟨after, hafter⟩ := hcalls callback List.mem_cons_self value
    cases failed.symm.trans hafter

/-- Whatever holds of the call of each callback holds of all calls of a passage. -/
theorem Passage.forall_event {event : κ → σ → Event} {call : κ → σ → Except SetupError σ}
    {value : σ} {callbacks : List κ} {events : List Event} {result : Except SetupError σ}
    (h : Passage event call value callbacks events result) {holds : Event → Prop}
    (hcalls : ∀ callback value, holds (event callback value)) : ∀ e ∈ events, holds e := by
  induction h with
  | done => exact List.forall_mem_nil holds
  | next returned rest ih => exact List.forall_mem_cons.2 ⟨hcalls _ _, ih⟩
  | failed failed => exact List.forall_mem_singleton.2 (hcalls _ _)

/-! ### The three phases -/

/-- Defaults pass through the suppliers, which are shown the properties of the user. -/
abbrev Supplies (user : Properties) :=
  Passage (fun (call : Registered DefaultsSupplier) (_ : Properties) => .supply call.place user)
    fun call defaults => ((call.callback user).mapError .missingOption).map
      fun supplied => defaults.insertMany supplied.toList

/-- An exporter passes through its customizers. -/
abbrev CustomizesExporter (properties : Properties) :=
  Passage (fun (call : Registered ExporterCustomizer) (exporter : Exporter) =>
      .exporter call.place exporter properties)
    fun call exporter => .ok (call.callback exporter properties).1

/-- A resource passes through its customizers. -/
abbrev CustomizesResource (properties : Properties) :=
  Passage (fun (call : Registered ResourceCustomizer) (resource : Resource) =>
      .resource call.place resource properties)
    fun call resource => (call.callback resource properties).mapError .missingOption

theorem supplies_supply (user defaults : Properties) (calls : List (Registered DefaultsSupplier)) :
    Supplies user defaults calls (supply user defaults (calls.map Registered.pair)).events
      (supply user defaults (calls.map Registered.pair)).result := by
  refine Passage.of_loop (fun defaults calls => supply user defaults (calls.map Registered.pair))
    (fun _ => rfl) ?_ ?_ defaults calls
  · intro defaults call later after hcall
    cases hsupplied : call.callback user with
    | error missing => simp [hsupplied, Except.mapError, Except.map] at hcall
    | ok supplied =>
      obtain rfl : defaults.insertMany supplied.toList = after := by
        simpa [hsupplied, Except.mapError, Except.map] using hcall
      simp only [List.map_cons, Registered.pair, supply, hsupplied]
      exact ⟨rfl, rfl⟩
  · intro defaults call later error hcall
    cases hsupplied : call.callback user with
    | ok supplied => simp [hsupplied, Except.mapError, Except.map] at hcall
    | error missing =>
      obtain rfl : SetupError.missingOption missing = error := by
        simpa [hsupplied, Except.mapError, Except.map] using hcall
      simp only [List.map_cons, Registered.pair, supply, hsupplied]
      exact ⟨rfl, rfl⟩

theorem customizesExporter_run (properties : Properties) (exporter : Exporter)
    (calls : List (Registered ExporterCustomizer)) :
    CustomizesExporter properties exporter calls
      (runExporterCustomizers properties exporter (calls.map Registered.pair)).events
      (runExporterCustomizers properties exporter (calls.map Registered.pair)).result := by
  refine Passage.of_loop
    (fun exporter calls => runExporterCustomizers properties exporter (calls.map Registered.pair))
    (fun _ => rfl) ?_ ?_ exporter calls
  · intro exporter call later after hcall
    obtain rfl := Except.ok.inj hcall
    exact ⟨rfl, rfl⟩
  · intro exporter call later error hcall
    cases hcall

theorem customizesResource_run (properties : Properties) (resource : Resource)
    (calls : List (Registered ResourceCustomizer)) :
    CustomizesResource properties resource calls
      (runResourceCustomizers properties resource (calls.map Registered.pair)).events
      (runResourceCustomizers properties resource (calls.map Registered.pair)).result := by
  refine Passage.of_loop
    (fun resource calls => runResourceCustomizers properties resource (calls.map Registered.pair))
    (fun _ => rfl) ?_ ?_ resource calls
  · intro resource call later after hcall
    simp only [List.map_cons, Registered.pair, runResourceCustomizers, hcall]
    exact ⟨rfl, rfl⟩
  · intro resource call later error hcall
    simp only [List.map_cons, Registered.pair, runResourceCustomizers, hcall]
    exact ⟨rfl, rfl⟩

/-- The extensions announce themselves in their order. -/
theorem announce_eq (extensions : List (Nat × Extension)) :
    (announce extensions).result = .ok () ∧
      (announce extensions).events = extensions.map fun a => .customize a.1 := by
  induction extensions with
  | nil => exact ⟨rfl, rfl⟩
  | cons head later ih =>
    obtain ⟨place, extension⟩ := head
    have hannounce : announce ((place, extension) :: later) =
        ⟨(announce later).result, .customize place :: (announce later).events,
          extension.announcement ++ (announce later).log⟩ := rfl
    rw [hannounce, ih.1, ih.2]
    exact ⟨rfl, rfl⟩

/-! ### The exporter that is selected -/

/-- The key under which the exporter is selected. -/
def selectionKey (properties : Properties) : String :=
  (properties.get? Properties.exporterKey).getD "otlp"

/-- Which exporter is selected, and which factory is called for it.  Two keys are reserved: no
factory is called for them. -/
inductive Selects (factories : Dictionary ExporterFactory) (properties : Properties) :
    List Event → Except SetupError (Option Exporter) → Prop
  /-- No exporter is wanted. -/
  | nothing (key : selectionKey properties = "none") : Selects factories properties [] (.ok none)
  /-- The exporter over the transport of the protocol. -/
  | transport {transport : Transport} (key : selectionKey properties = "otlp")
      (protocol : Transport.ofProtocol? (TransportExporter.protocol properties) = some transport) :
      Selects factories properties []
        (.ok (some (.transport (.ofTransport transport properties))))
  /-- There is no transport for the protocol. -/
  | unsupported (key : selectionKey properties = "otlp")
      (protocol : Transport.ofProtocol? (TransportExporter.protocol properties) = none) :
      Selects factories properties []
        (.error (.selection
          ("Unsupported OTLP protocol: " ++ TransportExporter.protocol properties)))
  /-- The exporter that a factory makes. -/
  | made {factory : ExporterFactory} (wanted : selectionKey properties ≠ "none")
      (other : selectionKey properties ≠ "otlp")
      (known : factories.get? (selectionKey properties) = some factory) :
      Selects factories properties [.factory (factory properties) properties]
        (.ok (some (.named (factory properties) 0)))
  /-- There is no factory for the key. -/
  | unknown (wanted : selectionKey properties ≠ "none") (other : selectionKey properties ≠ "otlp")
      (unknown : factories.get? (selectionKey properties) = none) :
      Selects factories properties []
        (.error (.selection ("Unknown span exporter: " ++ selectionKey properties)))

theorem selects_select (factories : Dictionary ExporterFactory) (properties : Properties) :
    Selects factories properties (select factories properties).events
      (select factories properties).result := by
  unfold select
  rw [show (properties.get? Properties.exporterKey).getD "otlp" = selectionKey properties from rfl]
  dsimp only
  split_ifs with hnone hotlp
  · exact .nothing hnone
  · unfold TransportExporter.ofProperties
    cases hprotocol : Transport.ofProtocol? (TransportExporter.protocol properties) with
    | none => exact .unsupported hotlp hprotocol
    | some transport => exact .transport hotlp hprotocol
  · cases hfactory : factories.get? (selectionKey properties) with
    | none => exact .unknown hnone hotlp hfactory
    | some factory => exact .made hnone hotlp hfactory

theorem Selects.unique {factories : Dictionary ExporterFactory} {properties : Properties}
    {events events' : List Event} {result result' : Except SetupError (Option Exporter)}
    (h : Selects factories properties events result)
    (h' : Selects factories properties events' result') :
    events = events' ∧ result = result' := by
  cases h <;> cases h' <;> simp_all

/-! ### The whole build -/

/-- The calls up to the assembly of the properties, and the assembled properties. -/
inductive Assembles (plan : Plan) (schedule : Schedule plan.extensions) :
    List Event → Except SetupError Properties → Prop
  /-- A supplier fails. -/
  | failed {supplies : List Event} {error : SetupError}
      (supply : Supplies plan.properties .empty schedule.suppliers supplies (.error error)) :
      Assembles plan schedule
        (schedule.announced.map (fun call => .customize call.place) ++ supplies) (.error error)
  /-- The properties of the user lie over the defaults. -/
  | done {supplies : List Event} {defaults : Properties}
      (supply : Supplies plan.properties .empty schedule.suppliers supplies (.ok defaults)) :
      Assembles plan schedule
        (schedule.announced.map (fun call => .customize call.place) ++ supplies)
        (.ok (defaults.insertMany plan.properties.toList))

/-- The calls for the exporter, and the exporter that is installed in the end. -/
inductive Exports (plan : Plan) (schedule : Schedule plan.extensions) (properties : Properties) :
    List Event → Except SetupError (Option Exporter) → Prop
  /-- No exporter can be selected. -/
  | failed {selection : List Event} {error : SetupError}
      (select : Selects plan.factories properties selection (.error error)) :
      Exports plan schedule properties selection (.error error)
  /-- None is wanted, and no customizer of exporters is called. -/
  | nothing {selection : List Event}
      (select : Selects plan.factories properties selection (.ok none)) :
      Exports plan schedule properties selection (.ok none)
  /-- The selected exporter passes through the customizers. -/
  | customized {selection customizations : List Event} {selected exporter : Exporter}
      (select : Selects plan.factories properties selection (.ok (some selected)))
      (customize : CustomizesExporter properties selected schedule.exporterCustomizers
        customizations (.ok exporter)) :
      Exports plan schedule properties (selection ++ customizations) (.ok (some exporter))

/-- The calls of a build, and what it returns. -/
inductive Builds (process : Environment) (plan : Plan) (schedule : Schedule plan.extensions) :
    List Event → Except SetupError Built → Prop
  /-- A supplier fails: no factory and no customizer is called. -/
  | assemblyFailed {supplies : List Event} {error : SetupError}
      (assemble : Assembles plan schedule supplies (.error error)) :
      Builds process plan schedule supplies (.error error)
  /-- No exporter can be selected: no customizer is called. -/
  | exporterFailed {supplies exports : List Event} {properties : Properties} {error : SetupError}
      (assemble : Assembles plan schedule supplies (.ok properties))
      (provide : Exports plan schedule properties exports (.error error)) :
      Builds process plan schedule (supplies ++ exports) (.error error)
  /-- A customizer of the resource fails: none behind it is called. -/
  | resourceFailed {supplies exports resources : List Event} {properties : Properties}
      {exporter : Option Exporter} {error : SetupError}
      (assemble : Assembles plan schedule supplies (.ok properties))
      (provide : Exports plan schedule properties exports (.ok exporter))
      (describe : CustomizesResource properties
        (Resource.base process properties (detected plan.environment properties))
        schedule.resourceCustomizers resources (.error error)) :
      Builds process plan schedule (supplies ++ exports ++ resources) (.error error)
  /-- The exporter cannot be installed: all callbacks have been called. -/
  | installFailed {supplies exports resources : List Event} {properties : Properties}
      {exporter : Exporter} {resource : Resource} {error : SetupError}
      (assemble : Assembles plan schedule supplies (.ok properties))
      (provide : Exports plan schedule properties exports (.ok (some exporter)))
      (describe : CustomizesResource properties
        (Resource.base process properties (detected plan.environment properties))
        schedule.resourceCustomizers resources (.ok resource))
      (install : exporter.install process plan.headerOrder = .error error) :
      Builds process plan schedule (supplies ++ exports ++ resources) (.error error)
  /-- Nothing fails. -/
  | built {supplies exports resources : List Event} {properties : Properties}
      {exporter : Option Exporter} {resource : Resource}
      (assemble : Assembles plan schedule supplies (.ok properties))
      (provide : Exports plan schedule properties exports (.ok exporter))
      (describe : CustomizesResource properties
        (Resource.base process properties (detected plan.environment properties))
        schedule.resourceCustomizers resources (.ok resource))
      (install : ∀ installed, exporter = some installed →
        installed.install process plan.headerOrder = .ok ()) :
      Builds process plan schedule (supplies ++ exports ++ resources)
        (.ok ⟨properties, resource, exporter, .ofExport process⟩)

/-! ### The calls of the arranged extensions are those of the schedule -/

theorem supplies_callbacks (user defaults : Properties) (extensions : List Extension) :
    Supplies user defaults (calls (·.suppliers) extensions)
      (supply user defaults
        (Extension.callbacks (·.suppliers) (Extension.arranged extensions))).events
      (supply user defaults
        (Extension.callbacks (·.suppliers) (Extension.arranged extensions))).result := by
  rw [callbacks_arranged]
  exact supplies_supply user defaults _

theorem customizesExporter_callbacks (properties : Properties) (exporter : Exporter)
    (extensions : List Extension) :
    CustomizesExporter properties exporter (calls (·.exporterCustomizers) extensions)
      (runExporterCustomizers properties exporter
        (Extension.callbacks (·.exporterCustomizers) (Extension.arranged extensions))).events
      (runExporterCustomizers properties exporter
        (Extension.callbacks (·.exporterCustomizers) (Extension.arranged extensions))).result := by
  rw [callbacks_arranged]
  exact customizesExporter_run properties exporter _

theorem customizesResource_callbacks (properties : Properties) (resource : Resource)
    (extensions : List Extension) :
    CustomizesResource properties resource (calls (·.resourceCustomizers) extensions)
      (runResourceCustomizers properties resource
        (Extension.callbacks (·.resourceCustomizers) (Extension.arranged extensions))).events
      (runResourceCustomizers properties resource
        (Extension.callbacks (·.resourceCustomizers) (Extension.arranged extensions))).result := by
  rw [callbacks_arranged]
  exact customizesResource_run properties resource _

/-- The build up to the assembly of the properties. -/
def assembled (plan : Plan) : Run Properties := do
  announce (Extension.arranged plan.extensions)
  assemble plan.properties
    (Extension.callbacks (·.suppliers) (Extension.arranged plan.extensions))

/-- The part of the build that makes the exporter. -/
def exported (plan : Plan) (properties : Properties) : Run (Option Exporter) := do
  let selected ← select plan.factories properties
  customizeSelected properties
    (Extension.callbacks (·.exporterCustomizers) (Extension.arranged plan.extensions)) selected

/-- The part of the build that makes the resource. -/
def described (process : Environment) (plan : Plan) (properties : Properties) : Run Resource :=
  runResourceCustomizers properties
    (Resource.base process properties (detected plan.environment properties))
    (Extension.callbacks (·.resourceCustomizers) (Extension.arranged plan.extensions))

/-- The end of the build. -/
def installed (process : Environment) (order : HeaderOrder) (properties : Properties)
    (exporter : Option Exporter) (resource : Resource) : Run Built := do
  installSelected process order exporter
  Run.write [.withMessage .info logTarget "✅ Telemetry pipeline built" []]
  return ⟨properties, resource, exporter, .ofExport process⟩

/-- A build is the sequence of its parts. -/
theorem build_eq (process : Environment) (plan : Plan) :
    build process plan = (assembled plan).andThen fun properties =>
      (Run.write [.withMessage .debug logTarget "Pipeline properties assembled"
        [("count", .integer properties.size)]]).andThen fun _ =>
      (exported plan properties).andThen fun exporter =>
      (described process plan properties).andThen fun resource =>
      installed process plan.headerOrder properties exporter resource := by
  unfold assembled exported
  simp only [bind, Run.andThen_andThen]
  rfl

theorem assembles_assembled (plan : Plan) :
    Assembles plan (.ofArranged plan.extensions) (assembled plan).events
      (assembled plan).result := by
  have hannounced : (announce (Extension.arranged plan.extensions)).events =
      (calls (fun _ => [()]) plan.extensions).map fun call => .customize call.place := by
    rw [(announce_eq _).2]
    have hplaces := congrArg (List.map Event.customize) (place_calls_announce plan.extensions)
    rw [List.map_map, List.map_map] at hplaces
    exact hplaces.symm
  have hsupply := supplies_callbacks plan.properties .empty plan.extensions
  unfold assembled
  obtain ⟨hresult, hevents⟩ := Run.bind_of_ok (announce_eq (Extension.arranged plan.extensions)).1
    fun _ => assemble plan.properties
      (Extension.callbacks (·.suppliers) (Extension.arranged plan.extensions))
  rw [hresult, hevents, hannounced]
  unfold assemble
  rcases Run.bind_cases
      (supply plan.properties .empty
        (Extension.callbacks (·.suppliers) (Extension.arranged plan.extensions)))
      (fun defaults => pure (defaults.insertMany plan.properties.toList))
    with ⟨error, herror, hresult, hevents⟩ | ⟨defaults, hdefaults, hresult, hevents⟩
  · rw [herror] at hsupply
    rw [hresult, hevents]
    exact .failed hsupply
  · rw [hdefaults] at hsupply
    rw [hresult, hevents, Run.events_pure, List.append_nil]
    exact .done hsupply

theorem exports_exported (plan : Plan) (properties : Properties) :
    Exports plan (.ofArranged plan.extensions) properties (exported plan properties).events
      (exported plan properties).result := by
  unfold exported
  have hselect := selects_select plan.factories properties
  rcases Run.bind_cases (select plan.factories properties) (customizeSelected properties
      (Extension.callbacks (·.exporterCustomizers) (Extension.arranged plan.extensions)))
    with ⟨error, herror, hresult, hevents⟩ | ⟨selected, hselected, hresult, hevents⟩
  · rw [herror] at hselect
    rw [hresult, hevents]
    exact .failed hselect
  · rw [hselected] at hselect
    rw [hresult, hevents]
    cases selected with
    | none =>
      rw [customizeSelected, Run.events_done, List.append_nil]
      exact .nothing hselect
    | some exporter =>
      have hpass := customizesExporter_callbacks properties exporter plan.extensions
      -- Customizers of exporters return an exporter whatever they are given.
      obtain ⟨after, hafter⟩ := hpass.exists_ok fun call _ exporter => ⟨_, rfl⟩
      rw [hafter] at hpass
      obtain ⟨hdone, hcalls⟩ := Run.bind_of_ok hafter (fun exporter => pure (some exporter))
      rw [customizeSelected, hdone, hcalls, Run.events_pure, List.append_nil]
      exact .customized hselect hpass

theorem customizesResource_described (process : Environment) (plan : Plan)
    (properties : Properties) :
    CustomizesResource properties
      (Resource.base process properties (detected plan.environment properties))
      (calls (·.resourceCustomizers) plan.extensions)
      (described process plan properties).events (described process plan properties).result :=
  customizesResource_callbacks _ _ _

/-- The end of a build calls nothing. -/
theorem events_installed (process : Environment) (order : HeaderOrder) (properties : Properties)
    (exporter : Option Exporter) (resource : Resource) :
    (installed process order properties exporter resource).events = [] := by
  cases exporter with
  | none => rfl
  | some selected =>
    simp only [installed, installSelected, bind, Run.andThen, Run.write, Run.lift]
    cases selected.install process order <;> rfl

theorem result_installed_of_error {process : Environment} {order : HeaderOrder}
    {selected : Exporter} {error : SetupError} (h : selected.install process order = .error error)
    (properties : Properties) (resource : Resource) :
    (installed process order properties (some selected) resource).result = .error error := by
  simp only [installed, installSelected, bind, Run.andThen, Run.write, Run.lift, h]

theorem result_installed_of_ok {process : Environment} {order : HeaderOrder}
    {exporter : Option Exporter}
    (h : ∀ selected, exporter = some selected → selected.install process order = .ok ())
    (properties : Properties) (resource : Resource) :
    (installed process order properties exporter resource).result =
      .ok ⟨properties, resource, exporter, .ofExport process⟩ := by
  cases exporter with
  | none => rfl
  | some selected =>
    simp only [installed, installSelected, bind, Run.andThen, Run.write, Run.lift,
      h selected rfl]
    rfl

/-- A build makes the calls that are scheduled. -/
theorem builds_build (process : Environment) (plan : Plan) :
    Builds process plan (.ofArranged plan.extensions) (build process plan).events
      (build process plan).result := by
  have hassemble := assembles_assembled plan
  rw [build_eq]
  cases hproperties : (assembled plan).result with
  | error error =>
    rw [hproperties] at hassemble
    rw [Run.andThen_of_error hproperties]
    exact .assemblyFailed hassemble
  | ok properties =>
    rw [hproperties] at hassemble
    rw [Run.andThen_of_ok hproperties]
    have hexport := exports_exported plan properties
    cases hexporter : (exported plan properties).result with
    | error error =>
      rw [hexporter] at hexport
      simp only [Run.write, Run.andThen, hexporter, List.nil_append]
      exact .exporterFailed hassemble hexport
    | ok exporter =>
      rw [hexporter] at hexport
      have hdescribe := customizesResource_described process plan properties
      cases hresource : (described process plan properties).result with
      | error error =>
        rw [hresource] at hdescribe
        simp only [Run.write, Run.andThen, hexporter, hresource, List.nil_append,
          ← List.append_assoc]
        exact .resourceFailed hassemble hexport hdescribe
      | ok resource =>
        rw [hresource] at hdescribe
        simp only [Run.write, Run.andThen, hexporter, hresource, events_installed,
          List.nil_append, List.append_nil, ← List.append_assoc]
        by_cases hok : ∀ selected, exporter = some selected →
            selected.install process plan.headerOrder = .ok ()
        · rw [result_installed_of_ok hok]
          exact .built hassemble hexport hdescribe hok
        · simp only [not_forall] at hok
          obtain ⟨selected, rfl, hfails⟩ := hok
          cases hinstall : selected.install process plan.headerOrder with
          | ok done => exact absurd hinstall hfails
          | error error =>
            rw [result_installed_of_error hinstall]
            exact .installFailed hassemble hexport hdescribe hinstall

/-! ### There is one build -/

theorem Assembles.unique {plan : Plan} {schedule : Schedule plan.extensions}
    {events events' : List Event} {result result' : Except SetupError Properties}
    (h : Assembles plan schedule events result) (h' : Assembles plan schedule events' result') :
    events = events' ∧ result = result' := by
  cases h with
  | failed supply =>
    cases h' with
    | failed supply' =>
      obtain ⟨rfl, hresult⟩ := Passage.unique supply supply'
      exact ⟨rfl, by rw [Except.error.inj hresult]⟩
    | done supply' => cases (Passage.unique supply supply').2
  | done supply =>
    cases h' with
    | failed supply' => cases (Passage.unique supply supply').2
    | done supply' =>
      obtain ⟨rfl, hresult⟩ := Passage.unique supply supply'
      exact ⟨rfl, by rw [Except.ok.inj hresult]⟩

theorem Exports.unique {plan : Plan} {schedule : Schedule plan.extensions}
    {properties : Properties} {events events' : List Event}
    {result result' : Except SetupError (Option Exporter)}
    (h : Exports plan schedule properties events result)
    (h' : Exports plan schedule properties events' result') :
    events = events' ∧ result = result' := by
  cases h with
  | failed select =>
    cases h' with
    | failed select' => exact select.unique select'
    | nothing select' => cases (select.unique select').2
    | customized select' => cases (select.unique select').2
  | nothing select =>
    cases h' with
    | failed select' => cases (select.unique select').2
    | nothing select' => exact select.unique select'
    | customized select' => cases (select.unique select').2
  | customized select customize =>
    cases h' with
    | failed select' => cases (select.unique select').2
    | nothing select' => cases (select.unique select').2
    | customized select' customize' =>
      obtain ⟨rfl, hselected⟩ := select.unique select'
      obtain rfl := Option.some.inj (Except.ok.inj hselected)
      obtain ⟨rfl, hexporter⟩ := Passage.unique customize customize'
      exact ⟨rfl, by rw [Except.ok.inj hexporter]⟩

/-- What is built is what the relation says, and nothing else. -/
theorem Builds.eq_build {process : Environment} {plan : Plan} {events : List Event}
    {result : Except SetupError Built}
    (h : Builds process plan (.ofArranged plan.extensions) events result) :
    (build process plan).events = events ∧ (build process plan).result = result := by
  have hassemble := assembles_assembled plan
  have hexport := exports_exported plan
  have hdescribe := customizesResource_described process plan
  rw [build_eq]
  -- One case for each place where a build can end.  Each part of the build satisfies the relation
  -- for its phase, and the relation has one solution after those of the parts before it: so part
  -- by part the events and the value of the build are those of `h`, and what is left is to put the
  -- parts together.
  cases h with
  | assemblyFailed assemble =>
    obtain ⟨hevents, hresult⟩ := hassemble.unique assemble
    rw [Run.andThen_of_error hresult]
    exact ⟨hevents, rfl⟩
  | @exporterFailed _ _ properties _ assemble provide =>
    obtain ⟨rfl, hproperties⟩ := hassemble.unique assemble
    -- The exporter is selected by the properties that the relation assembles, as they are those of
    -- the build.
    obtain ⟨rfl, hexporter⟩ := (hexport properties).unique provide
    simp only [Run.write, Run.andThen, hproperties, hexporter, List.nil_append, and_self]
  | @resourceFailed _ _ _ properties _ _ assemble provide describe =>
    obtain ⟨rfl, hproperties⟩ := hassemble.unique assemble
    obtain ⟨rfl, hexporter⟩ := (hexport properties).unique provide
    obtain ⟨rfl, hresource⟩ := Passage.unique (hdescribe properties) describe
    -- The resource ends the build, so the exporter is not installed.
    simp only [Run.write, Run.andThen, hproperties, hexporter, hresource, List.nil_append,
      List.append_assoc, and_self]
  | @installFailed _ _ _ properties _ _ _ assemble provide describe install =>
    obtain ⟨rfl, hproperties⟩ := hassemble.unique assemble
    obtain ⟨rfl, hexporter⟩ := (hexport properties).unique provide
    obtain ⟨rfl, hresource⟩ := Passage.unique (hdescribe properties) describe
    -- The installation calls nothing, so it ends the build without a further event.
    simp only [Run.write, Run.andThen, hproperties, hexporter, hresource, events_installed,
      result_installed_of_error install, List.nil_append, List.append_nil, List.append_assoc,
      and_self]
  | @built _ _ _ properties _ _ assemble provide describe install =>
    obtain ⟨rfl, hproperties⟩ := hassemble.unique assemble
    obtain ⟨rfl, hexporter⟩ := (hexport properties).unique provide
    obtain ⟨rfl, hresource⟩ := Passage.unique (hdescribe properties) describe
    simp only [Run.write, Run.andThen, hproperties, hexporter, hresource, events_installed,
      result_installed_of_ok install, List.nil_append, List.append_nil, List.append_assoc,
      and_self]

/-- **A build makes the calls of its schedule and stops at the first error.**  For any extensions,
with any orders and any callbacks:

- the extensions announce themselves; then the suppliers are called, then the factory of a named
  exporter, then the customizers of the exporter, then those of the resource;
- each callback of a kind is called once, those of one kind in `RunOrder`: by the order of their
  extension, then by the place at which it was registered, then as it registered them; there is one
  such schedule;
- a customizer is shown what the one before it returned, and all that is called after the suppliers
  is shown the assembled properties;
- an error ends the build and is its result, and nothing is called after the call that failed. -/
theorem build_follows_schedule (process : Environment) (plan : Plan) :
    ∃ schedule : Schedule plan.extensions, (∀ other, other = schedule) ∧
      ∀ (events : List Event) (result : Except SetupError Built),
        Builds process plan schedule events result ↔
          (build process plan).events = events ∧ (build process plan).result = result := by
  refine ⟨.ofArranged plan.extensions, Schedule.eq_ofArranged, fun events result => ?_⟩
  constructor
  · exact Builds.eq_build
  · rintro ⟨rfl, rfl⟩
    exact builds_build process plan

/-! ### Builds that fail early -/

/-- Whether a call is made before the properties are assembled. -/
def Event.BeforeAssembly : Event → Prop
  | .customize _ | .supply _ _ => True
  | .factory _ _ | .exporter _ _ _ | .resource _ _ _ => False

/-- Up to the assembly only announcements and suppliers are called. -/
theorem Assembles.forall_beforeAssembly {plan : Plan} {schedule : Schedule plan.extensions}
    {events : List Event} {result : Except SetupError Properties}
    (h : Assembles plan schedule events result) : ∀ event ∈ events, event.BeforeAssembly := by
  have hsupplies : ∀ {supplies : List Event} {result : Except SetupError Properties},
      Supplies plan.properties .empty schedule.suppliers supplies result →
      ∀ event ∈ schedule.announced.map (fun call => .customize call.place) ++ supplies,
        event.BeforeAssembly := by
    intro supplies result hsupply event hmem
    rcases List.mem_append.1 hmem with hannounced | hsupplied
    · obtain ⟨call, -, rfl⟩ := List.mem_map.1 hannounced
      trivial
    · exact hsupply.forall_event (fun _ _ => trivial) event hsupplied
  cases h with
  | failed supply => exact hsupplies supply
  | done supply => exact hsupplies supply

/-- If the properties are not assembled, no factory and no customizer is called. -/
theorem forall_beforeAssembly_of_error (process : Environment) {plan : Plan} {error : SetupError}
    (h : (assembled plan).result = .error error) :
    ∀ event ∈ (build process plan).events, event.BeforeAssembly := by
  rw [build_eq, Run.andThen_of_error h]
  exact (assembles_assembled plan).forall_beforeAssembly

end TelemetryAuth.Pipeline
