import TelemetryAuth.Proofs.Pipeline.Trace

/-!
# An extension that runs behind all others

The phases of a build are functions of the extensions (`suppliedBy`, `assembledBy`, `exporterBy`,
`resourceBy`), so one can speak of what some of the extensions make on their own.

An extension runs last if its order is above that of those registered after it and not below that of
those registered before.  Its callbacks are then called behind all others of their kind
(`callback_calls_of_last`), so each phase hands it what the other extensions make
(`Passage.result_of_last`).
-/

namespace TelemetryAuth.Pipeline

variable {α σ : Type} {last : Extension} {earlier later : List Extension}

/-! ### What extensions make -/

/-- The defaults that extensions supply to a user. -/
def suppliedBy (extensions : List Extension) (user : Properties) : Except SetupError Properties :=
  (supply user .empty
    (Extension.callbacks (·.suppliers) (Extension.arranged extensions))).result

/-- The properties that are assembled for a user. -/
def assembledBy (extensions : List Extension) (user : Properties) :
    Except SetupError Properties :=
  (assemble user (Extension.callbacks (·.suppliers) (Extension.arranged extensions))).result

/-- What extensions make of a selected exporter. -/
def exporterBy (extensions : List Extension) (properties : Properties)
    (selected : Option Exporter) : Except SetupError (Option Exporter) :=
  (customizeSelected properties
    (Extension.callbacks (·.exporterCustomizers) (Extension.arranged extensions)) selected).result

/-- What extensions make of a resource. -/
def resourceBy (extensions : List Extension) (properties : Properties) (base : Resource) :
    Except SetupError Resource :=
  (runResourceCustomizers properties base
    (Extension.callbacks (·.resourceCustomizers) (Extension.arranged extensions))).result

theorem result_assembled (plan : Plan) :
    (assembled plan).result = assembledBy plan.extensions plan.properties := by
  unfold assembled assembledBy
  rw [Run.result_bind, (announce_eq _).1]
  rfl

/-- The result of a build is that of its phases. -/
theorem result_build (process : Environment) (plan : Plan) :
    (build process plan).result = do
      let properties ← assembledBy plan.extensions plan.properties
      let selected ← (select plan.factories properties).result
      let exporter ← exporterBy plan.extensions properties selected
      let resource ← resourceBy plan.extensions properties
        (Resource.base process properties (detected plan.environment properties))
      (installSelected process plan.headerOrder exporter).result
      return ⟨properties, resource, exporter, .ofExport process⟩ := by
  unfold build
  simp only [Run.result_bind, (announce_eq _).1]
  rfl

theorem exists_of_bind_ok {ε β γ : Type} {first : Except ε β} {second : β → Except ε γ}
    {value : γ} (h : first >>= second = .ok value) :
    ∃ middle, first = .ok middle ∧ second middle = .ok value := by
  cases first with
  | error error => cases h
  | ok middle => exact ⟨middle, rfl, h⟩

/-- What is built comes from the phases of the build, each of which has succeeded. -/
theorem exists_of_built {process : Environment} {plan : Plan} {built : Built}
    (h : (build process plan).result = .ok built) :
    ∃ selected, assembledBy plan.extensions plan.properties = .ok built.properties ∧
      (select plan.factories built.properties).result = .ok selected ∧
      exporterBy plan.extensions built.properties selected = .ok built.exporter ∧
      resourceBy plan.extensions built.properties (Resource.base process built.properties
        (detected plan.environment built.properties)) = .ok built.resource := by
  rw [result_build] at h
  obtain ⟨properties, hassemble, h⟩ := exists_of_bind_ok h
  obtain ⟨selected, hselect, h⟩ := exists_of_bind_ok h
  obtain ⟨exporter, hexporter, h⟩ := exists_of_bind_ok h
  obtain ⟨resource, hresource, h⟩ := exists_of_bind_ok h
  obtain ⟨_, -, h⟩ := exists_of_bind_ok h
  obtain rfl := Except.ok.inj h
  exact ⟨selected, hassemble, hselect, hexporter, hresource⟩

theorem exists_exporterBy (extensions : List Extension) (properties : Properties)
    (selected : Option Exporter) :
    ∃ exporter, exporterBy extensions properties selected = .ok exporter := by
  unfold exporterBy
  cases selected with
  | none => exact ⟨none, rfl⟩
  | some selected =>
    have hpass := customizesExporter_callbacks properties selected extensions
    obtain ⟨exporter, hexporter⟩ := hpass.exists_ok fun call _ exporter => ⟨_, rfl⟩
    rw [customizeSelected, Run.result_bind, hexporter]
    exact ⟨some exporter, rfl⟩

/-! ### The place of the last extension -/

/-- Whether an extension that is registered between others runs behind all of them. -/
structure RunsLast (last : Extension) (earlier later : List Extension) : Prop where
  order_earlier : ∀ extension ∈ earlier, extension.order ≤ last.order
  order_later : ∀ extension ∈ later, extension.order < last.order

/-- The place of an extension once another is registered at a place. -/
def makeRoom (place : Nat) (a : Nat × Extension) : Nat × Extension :=
  (if a.1 < place then a.1 else a.1 + 1, a.2)

/-- Registering one more extension moves those behind it on by one place. -/
theorem placed_perm_makeRoom (earlier later : List Extension) (last : Extension) :
    (placed (earlier ++ last :: later)).Perm
      ((placed (earlier ++ later)).map (makeRoom earlier.length) ++ [(earlier.length, last)]) := by
  -- The places before the new extension stay; those from it on are one higher.
  have hearlier : ∀ a ∈ placed earlier, makeRoom earlier.length a = a := by
    rintro ⟨place, extension⟩ ha
    obtain ⟨hplace, -⟩ := List.getElem?_eq_some_iff.1 (mem_placed_iff.1 ha)
    simp [makeRoom, hplace]
  have hlater : ∀ (start : Nat), earlier.length ≤ start →
      ((later.zipIdx start).map fun a => (a.2, a.1)).map (makeRoom earlier.length) =
        (later.zipIdx (start + 1)).map fun a => (a.2, a.1) := by
    intro start hstart
    rw [List.zipIdx_succ, List.map_map, List.map_map]
    refine List.map_congr_left fun a ha => ?_
    have hplace : start ≤ a.2 := List.le_snd_of_mem_zipIdx ha
    simp [makeRoom, Nat.not_lt.2 (Nat.le_trans hstart hplace)]
  have hroom : (placed (earlier ++ later)).map (makeRoom earlier.length) =
      placed earlier ++ (later.zipIdx (earlier.length + 1)).map fun a => (a.2, a.1) := by
    unfold placed at *
    rw [List.zipIdx_append, List.map_append, List.map_append, List.map_congr_left hearlier,
      List.map_id', Nat.zero_add, hlater _ (Nat.le_refl _)]
  have hplaced : placed (earlier ++ last :: later) = placed earlier ++
      (earlier.length, last) :: (later.zipIdx (earlier.length + 1)).map fun a => (a.2, a.1) := by
    unfold placed
    rw [List.zipIdx_append, List.map_append, Nat.zero_add, List.zipIdx_cons, List.map_cons]
  rw [hroom, hplaced, List.append_assoc]
  exact (List.perm_append_singleton _ _).symm.append_left _

/-- The extension that runs last is arranged behind the others, which keep their order. -/
theorem arranged_of_last (h : RunsLast last earlier later) :
    Extension.arranged (earlier ++ last :: later) =
      (Extension.arranged (earlier ++ later)).map (makeRoom earlier.length) ++
        [(earlier.length, last)] := by
  have hperm : (Extension.arranged (earlier ++ last :: later)).Perm
      ((Extension.arranged (earlier ++ later)).map (makeRoom earlier.length) ++
        [(earlier.length, last)]) := by
    refine (arranged_perm _).trans ((placed_perm_makeRoom earlier later last).trans ?_)
    exact ((arranged_perm (earlier ++ later)).symm.map _).append_right _
  have hsorted : ((Extension.arranged (earlier ++ later)).map (makeRoom earlier.length) ++
      [(earlier.length, last)]).Pairwise fun a b =>
        a.2.order < b.2.order ∨ (a.2.order = b.2.order ∧ a.1 < b.1) := by
    refine List.pairwise_append.2 ⟨?_, List.pairwise_singleton _ _, ?_⟩
    · rw [List.pairwise_map]
      refine (arranged_sorted _).imp fun {a b} hbefore => ?_
      simp only [makeRoom]
      split_ifs <;> omega
    · intro a ha b hb
      obtain rfl := List.mem_singleton.1 hb
      obtain ⟨⟨place, extension⟩, hmem, rfl⟩ := List.mem_map.1 ha
      have hget := mem_placed_iff.1 ((arranged_perm _).mem_iff.1 hmem)
      simp only [makeRoom]
      split_ifs with hplace
      · -- It was registered before the last extension.
        rw [List.getElem?_append_left hplace] at hget
        have horder := h.order_earlier extension (List.mem_of_getElem? hget)
        omega
      · rw [List.getElem?_append_right (Nat.not_lt.1 hplace)] at hget
        exact .inl (h.order_later extension (List.mem_of_getElem? hget))
  refine hperm.eq_of_pairwise (fun a b _ _ hab hba => ?_) (arranged_sorted _) hsorted
  omega

/-! ### The callbacks of the last extension -/

theorem callback_calls (select : Extension → List α) (extensions : List Extension) :
    (calls select extensions).map (·.callback) =
      (Extension.arranged extensions).flatMap fun a => select a.2 := by
  unfold calls
  rw [List.map_flatMap]
  refine congrArg (fun f => List.flatMap f (Extension.arranged extensions)) (funext fun a => ?_)
  unfold registeredOf
  rw [List.map_map]
  exact List.zipIdx_map_fst 0 (select a.2)

/-- Its callbacks are called behind those of the other extensions. -/
theorem callback_calls_of_last (h : RunsLast last earlier later) (select : Extension → List α) :
    (calls select (earlier ++ last :: later)).map (·.callback) =
      (calls select (earlier ++ later)).map (·.callback) ++ select last := by
  rw [callback_calls, callback_calls, arranged_of_last h, List.flatMap_append, List.flatMap_map,
    List.flatMap_singleton]
  rfl

/-- A called callback is one that some extension registers. -/
theorem exists_of_mem_calls {select : Extension → List α} {extensions : List Extension}
    {call : Registered α} (h : call ∈ calls select extensions) :
    ∃ extension ∈ extensions, call.callback ∈ select extension := by
  have hcallback := List.mem_map_of_mem (f := (·.callback)) h
  rw [callback_calls] at hcallback
  obtain ⟨⟨place, extension⟩, hmem, hselect⟩ := List.mem_flatMap.1 hcallback
  have hplaced := mem_placed_iff.1 ((arranged_perm extensions).mem_iff.1 hmem)
  exact ⟨extension, List.mem_of_getElem? hplaced, hselect⟩

/-! ### What the last extension is handed -/

/-- The result of a passage is that of the callbacks one after the other. -/
theorem Passage.result_eq {κ : Type} {event : κ → σ → Event} {call : κ → σ → Except SetupError σ}
    {value : σ} {callbacks : List κ} {events : List Event} {result : Except SetupError σ}
    (h : Passage event call value callbacks events result) :
    result = callbacks.foldlM (fun value callback => call callback value) value := by
  induction h with
  | done => rfl
  | next returned rest ih => rw [List.foldlM_cons, returned, ih]; rfl
  | failed failed => rw [List.foldlM_cons, failed]; rfl

/-- The one callback of the last extension is called with what the others leave. -/
theorem Passage.result_of_last (h : RunsLast last earlier later) {select : Extension → List α}
    {callback : α} (hone : select last = [callback]) (step : α → σ → Except SetupError σ)
    {event event' : Registered α → σ → Event} {value theirs : σ} {events events' : List Event}
    {result : Except SetupError σ}
    (hall : Passage event (fun call => step call.callback) value
      (calls select (earlier ++ last :: later)) events result)
    (hothers : Passage event' (fun call => step call.callback) value
      (calls select (earlier ++ later)) events' (.ok theirs)) :
    result = step callback theirs := by
  have hfold : ∀ extensions,
      (calls select extensions).foldlM (fun value call => step call.callback value) value =
        ((calls select extensions).map (·.callback)).foldlM
          (fun value callback => step callback value) value := by
    intro extensions
    rw [List.foldlM_map]
  have htheirs := hothers.result_eq
  rw [hfold] at htheirs
  rw [hall.result_eq, hfold, callback_calls_of_last h, hone, List.foldlM_append, ← htheirs]
  exact bind_pure (step callback theirs)

end TelemetryAuth.Pipeline
