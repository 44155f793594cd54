import TelemetryAuth.Exporter.Basic

/-!
# Exporters that are rebuilt

An exporter is rebuilt in steps (`Rebuild`): the changes of a builder, or an authentication, which
attaches a header source that did not exist before.  To tell such a source from all others, the
exporter stands on a `Workbench` that knows which identities are not in use yet.

All steps together are one list of changes (`Workbench.changes`, `run_exporter`).  So what a run
does to a field follows from what one change does to it: a setting is the one named last
(`field_foldl_edit`), the static headers are stored in order (`headers_foldl_edit`), and the source
is the one attached last.  That an authentication attaches a new source is an invariant of the run:
every identity seen so far is below `unused` (`lt_unused_of_mem_seen`).

The main result is `rebuild_changes_only_what_is_named`.
-/

namespace TelemetryAuth

/-! ### What a change names -/

namespace Edit

/-- The endpoint that a change names. -/
def endpoint? : Edit → Option String
  | .endpoint value => some value
  | .timeout _ | .header _ _ | .insecure _ | .source _ => none

/-- The time limit that a change names. -/
def timeout? : Edit → Option Milliseconds
  | .timeout value => some value
  | .endpoint _ | .header _ _ | .insecure _ | .source _ => none

/-- The static header that a change names. -/
def header? : Edit → Option (String × String)
  | .header name value => some (name, value)
  | .endpoint _ | .timeout _ | .insecure _ | .source _ => none

/-- Whether encryption is off, if a change names that. -/
def insecure? : Edit → Option Bool
  | .insecure value => some value
  | .endpoint _ | .timeout _ | .header _ _ | .source _ => none

/-- The source that a change attaches. -/
def source? : Edit → Option AttachedSource
  | .source value => some value
  | .endpoint _ | .timeout _ | .header _ _ | .insecure _ => none

end Edit

/-! ### Changes in a row -/

namespace TransportExporter

variable (exporter : TransportExporter)

theorem transport_foldl_edit (edits : List Edit) :
    (edits.foldl edit exporter).transport = exporter.transport := by
  induction edits generalizing exporter with
  | nil => rfl
  | cons change edits ih =>
    rw [List.foldl_cons, ih]
    cases change <;> rfl

/-- **The last change that names a field decides it.**  The premise says what one change does to
the field. -/
theorem field_foldl_edit {α : Type} (field : TransportExporter → α) (named? : Edit → Option α)
    (h : ∀ exporter change, field (edit exporter change) = (named? change).getD (field exporter))
    (edits : List Edit) :
    field (edits.foldl edit exporter)
      = (edits.filterMap named?).getLast?.getD (field exporter) := by
  induction edits generalizing exporter with
  | nil => rfl
  | cons change edits ih =>
    rw [List.foldl_cons, ih, h]
    -- What this change names is the last word only if no later change names the field.
    cases hnamed : named? change with
    | none => rw [List.filterMap_cons_none hnamed, Option.getD_none]
    | some value =>
      rw [List.filterMap_cons_some hnamed, List.getLast?_cons, Option.getD_some, Option.getD_some]

theorem headers_foldl_edit (edits : List Edit) :
    (edits.foldl edit exporter).settings.headers
      = exporter.settings.headers.insertMany (edits.filterMap Edit.header?) := by
  induction edits generalizing exporter with
  | nil => rfl
  | cons change edits ih =>
    rw [List.foldl_cons, ih]
    cases change <;> rfl

theorem source_foldl_edit (edits : List Edit) :
    (edits.foldl edit exporter).source
      = (edits.filterMap Edit.source?).getLast?.or exporter.source := by
  -- A change that attaches a source names the whole field, which is optional itself.
  have hlast := exporter.field_foldl_edit (·.source) (fun change => change.source?.map some)
    (fun exporter change => by cases change <;> rfl) edits
  rw [hlast, ← List.map_filterMap, List.getLast?_map]
  cases (edits.filterMap Edit.source?).getLast? <;> rfl

/-- A source may as well be attached before some changes that attach none. -/
theorem edit_source_foldl_edit {edits : List Edit} (h : ∀ change ∈ edits, change.source? = none)
    (source : AttachedSource) :
    (edits.foldl edit exporter).edit (.source source)
      = edits.foldl edit (exporter.edit (.source source)) := by
  induction edits generalizing exporter with
  | nil => rfl
  | cons change edits ih =>
    have hhead : change.source? = none := h change List.mem_cons_self
    have htail : ∀ change ∈ edits, change.source? = none :=
      fun change hmem => h change (List.mem_cons_of_mem _ hmem)
    have hswap : (exporter.edit change).edit (.source source)
        = (exporter.edit (.source source)).edit change := by
      cases change with
      | source value => cases hhead
      | endpoint value => rfl
      | timeout value => rfl
      | header name value => rfl
      | insecure value => rfl
    rw [List.foldl_cons, List.foldl_cons, ih (exporter.edit change) htail, hswap]

end TransportExporter

theorem Exporter.edit_append (exporter : Exporter) (first second : List Edit) :
    exporter.edit (first ++ second) = (exporter.edit first).edit second := by
  cases exporter with
  | transport exporter => exact congrArg Exporter.transport List.foldl_append
  | named name identity => rfl

/-! ### Steps -/

/-- A step that rebuilds an exporter. -/
inductive Rebuild
  /-- A builder takes the settings over, makes some changes and builds. -/
  | edit (edits : List Edit)
  /-- The exporter is authenticated with the credential at a place of a keyring. -/
  | authenticate (place : Nat)

/-- What some steps name of one kind, in order.  An authentication names no setting. -/
def Rebuild.named {α : Type} (named? : Edit → Option α) : Rebuild → List α
  | .edit edits => edits.filterMap named?
  | .authenticate _ => []

/-- The first identity that is neither below `unused` nor at or below one of some sources. -/
def AttachedSource.beyond (unused : Nat) (sources : List AttachedSource) : Nat :=
  sources.foldl (fun unused source => max unused (source.identity + 1)) unused

/-- An exporter that is being rebuilt.  The identities from `unused` on belong to no source that
it had so far. -/
structure Workbench where
  exporter : Exporter
  unused : Nat

namespace Workbench

open AttachedSource

/-- The workbench for an exporter as it is handed over. -/
def start (exporter : Exporter) : Workbench := ⟨exporter, beyond 0 exporter.source?.toList⟩

/-- The workbench after one step.  An authentication makes a source of its own. -/
def step (bench : Workbench) : Rebuild → Workbench
  | .edit edits =>
    ⟨bench.exporter.edit edits, beyond bench.unused (edits.filterMap Edit.source?)⟩
  | .authenticate place =>
    ⟨bench.exporter.authenticate ⟨bench.unused, .credentials place⟩, bench.unused + 1⟩

/-- The workbench after some steps. -/
def run (bench : Workbench) (steps : List Rebuild) : Workbench := steps.foldl step bench

/-- The changes that one step makes. -/
def changesOf (bench : Workbench) : Rebuild → List Edit
  | .edit edits => edits
  | .authenticate place => [.source ⟨bench.unused, .credentials place⟩]

/-- The changes that some steps make, in order. -/
def changes (bench : Workbench) : List Rebuild → List Edit
  | [] => []
  | rebuild :: steps => bench.changesOf rebuild ++ (bench.step rebuild).changes steps

/-- The sources that some steps attach, in order. -/
def attached (bench : Workbench) (steps : List Rebuild) : List AttachedSource :=
  (bench.changes steps).filterMap Edit.source?

/-- The sources that an exporter has had in the course of some steps. -/
def seen (bench : Workbench) (steps : List Rebuild) : List AttachedSource :=
  bench.exporter.source?.toList ++ bench.attached steps

/-! ### A run as one list of changes -/

theorem step_exporter (bench : Workbench) (rebuild : Rebuild) :
    (bench.step rebuild).exporter = bench.exporter.edit (bench.changesOf rebuild) := by
  cases rebuild <;> rfl

theorem step_unused (bench : Workbench) (rebuild : Rebuild) :
    (bench.step rebuild).unused
      = beyond bench.unused ((bench.changesOf rebuild).filterMap Edit.source?) := by
  cases rebuild with
  | edit edits => rfl
  | authenticate place => exact (Nat.max_eq_right (Nat.le_succ bench.unused)).symm

@[simp] theorem run_nil (bench : Workbench) : bench.run [] = bench := rfl

@[simp] theorem run_cons (bench : Workbench) (rebuild : Rebuild) (steps : List Rebuild) :
    bench.run (rebuild :: steps) = (bench.step rebuild).run steps := rfl

/-- **A run makes its changes one after the other.** -/
theorem run_exporter (bench : Workbench) (steps : List Rebuild) :
    (bench.run steps).exporter = bench.exporter.edit (bench.changes steps) := by
  induction steps generalizing bench with
  | nil => cases hexporter : bench.exporter <;> simpa [changes, Exporter.edit] using hexporter
  | cons rebuild steps ih => rw [run_cons, ih, step_exporter, changes, Exporter.edit_append]

theorem run_unused (bench : Workbench) (steps : List Rebuild) :
    (bench.run steps).unused = beyond bench.unused (bench.attached steps) := by
  induction steps generalizing bench with
  | nil => rfl
  | cons rebuild steps ih =>
    rw [run_cons, ih, step_unused, attached, attached, changes, List.filterMap_append, beyond,
      beyond, beyond, List.foldl_append]

/-- A kind of setting is named by the changes of a run as it is by the steps. -/
theorem filterMap_changes {α : Type} (named? : Edit → Option α)
    (h : ∀ source, named? (.source source) = none) (bench : Workbench) (steps : List Rebuild) :
    (bench.changes steps).filterMap named? = steps.flatMap (Rebuild.named named?) := by
  induction steps generalizing bench with
  | nil => rfl
  | cons rebuild steps ih =>
    have hstep : (bench.changesOf rebuild).filterMap named? = rebuild.named named? := by
      cases rebuild with
      | edit edits => rfl
      | authenticate place => exact List.filterMap_cons_none (h _)
    rw [changes, List.filterMap_append, ih, hstep, List.flatMap_cons]

/-! ### New sources -/

theorem le_beyond (unused : Nat) (sources : List AttachedSource) :
    unused ≤ beyond unused sources := by
  induction sources generalizing unused with
  | nil => exact Nat.le_refl unused
  | cons source sources ih => exact Nat.le_trans (Nat.le_max_left _ _) (ih _)

theorem lt_beyond {source : AttachedSource} {sources : List AttachedSource}
    (h : source ∈ sources) (unused : Nat) : source.identity < beyond unused sources := by
  induction sources generalizing unused with
  | nil => cases h
  | cons head sources ih =>
    rcases List.mem_cons.1 h with rfl | htail
    · exact Nat.le_trans (Nat.le_max_right unused _) (le_beyond _ sources)
    · exact ih htail _

/-- The invariant of a run: no source that the exporter has had is numbered from `unused` on. -/
theorem lt_unused_of_mem_seen (exporter : Exporter) (steps : List Rebuild)
    {source : AttachedSource} (h : source ∈ (start exporter).seen steps) :
    source.identity < ((start exporter).run steps).unused := by
  rw [run_unused]
  rcases List.mem_append.1 h with hfirst | hlater
  · exact Nat.lt_of_lt_of_le (lt_beyond hfirst 0) (le_beyond _ _)
  · exact lt_beyond hlater _

/-! ### Steps that attach no source, and authentications -/

/-- Builders that attach no source attach none in a row either. -/
theorem attached_map_edit {builders : List (List Edit)}
    (h : ∀ edits ∈ builders, ∀ change ∈ edits, change.source? = none) (bench : Workbench) :
    bench.attached (builders.map .edit) = [] := by
  induction builders generalizing bench with
  | nil => rfl
  | cons edits builders ih =>
    have hhead : edits.filterMap Edit.source? = [] :=
      List.filterMap_eq_nil_iff.2 (h edits List.mem_cons_self)
    have htail := ih (fun edits hmem => h edits (List.mem_cons_of_mem _ hmem))
      (bench.step (.edit edits))
    show (edits ++ (bench.step (.edit edits)).changes (builders.map .edit)).filterMap _ = []
    rw [List.filterMap_append, hhead, List.nil_append]
    exact htail

theorem authenticate_transport (bench : Workbench) {exporter : TransportExporter}
    (h : bench.exporter = .transport exporter) (place : Nat) :
    bench.step (.authenticate place)
      = ⟨.transport { exporter with source := some ⟨bench.unused, .credentials place⟩ },
          bench.unused + 1⟩ := by
  rw [step, h]
  rfl

/-- **An authentication commutes with changes that attach no source.** -/
theorem step_edit_comm_authenticate (bench : Workbench) {edits : List Edit}
    (h : ∀ change ∈ edits, change.source? = none) (place : Nat) :
    (bench.step (.edit edits)).step (.authenticate place)
      = (bench.step (.authenticate place)).step (.edit edits) := by
  obtain ⟨exporter, unused⟩ := bench
  have hnone : edits.filterMap Edit.source? = [] := List.filterMap_eq_nil_iff.2 h
  simp only [step, hnone]
  cases exporter with
  | transport exporter =>
    have hswap := exporter.edit_source_foldl_edit h ⟨unused, .credentials place⟩
    exact congrArg (fun exporter => Workbench.mk (.transport exporter) (unused + 1)) hswap
  | named name identity => rfl

end Workbench

/-! ### What a run changes -/

/-- What some steps make of an exporter.  They keep its transport; a setting is the one named last,
or the one from before; the source is the one attached last, or the one from before. -/
structure Rebuilt (before after : TransportExporter) (steps : List Rebuild) : Prop where
  transport : after.transport = before.transport
  endpoint : after.settings.endpoint
    = (steps.flatMap (Rebuild.named Edit.endpoint?)).getLast?.getD before.settings.endpoint
  timeout : after.settings.timeout
    = (steps.flatMap (Rebuild.named Edit.timeout?)).getLast?.getD before.settings.timeout
  headers : after.settings.headers
    = before.settings.headers.insertMany (steps.flatMap (Rebuild.named Edit.header?))
  insecure : after.settings.insecure
    = (steps.flatMap (Rebuild.named Edit.insecure?)).getLast?.getD before.settings.insecure
  source : after.source
    = ((Workbench.start (.transport before)).attached steps).getLast?.or before.source

namespace TransportExporter

/-- A field that one change sets or keeps, and that no authentication touches, is the one that the
steps name last. -/
theorem field_foldl_changes {α : Type} (field : TransportExporter → α) (named? : Edit → Option α)
    (hedit : ∀ exporter change,
      field (edit exporter change) = (named? change).getD (field exporter))
    (hsource : ∀ source, named? (.source source) = none)
    (before : TransportExporter) (bench : Workbench) (steps : List Rebuild) :
    field ((bench.changes steps).foldl edit before)
      = (steps.flatMap (Rebuild.named named?)).getLast?.getD (field before) := by
  rw [field_foldl_edit before field named? hedit, Workbench.filterMap_changes named? hsource]

theorem rebuilt (before : TransportExporter) (steps : List Rebuild) :
    Rebuilt before
      (((Workbench.start (.transport before)).changes steps).foldl edit before) steps where
  transport := transport_foldl_edit before _
  endpoint := field_foldl_changes (·.settings.endpoint) Edit.endpoint?
    (fun exporter change => by cases change <;> rfl) (fun source => rfl) before _ steps
  timeout := field_foldl_changes (·.settings.timeout) Edit.timeout?
    (fun exporter change => by cases change <;> rfl) (fun source => rfl) before _ steps
  headers := by
    rw [headers_foldl_edit, Workbench.filterMap_changes Edit.header? fun source => rfl]
  insecure := field_foldl_changes (·.settings.insecure) Edit.insecure?
    (fun exporter change => by cases change <;> rfl) (fun source => rfl) before _ steps
  source := source_foldl_edit before _

end TransportExporter

namespace Workbench

/-- **Rebuilding an exporter changes what the steps name, and nothing else.**  Some steps change the
settings that they name (`Rebuilt`), and builders that attach no source keep the very source.  An
authentication replaces the source by one that the exporter never had, one more replaces that one in
turn, and either of them changes nothing but the source.  It may as well be done before the changes
of a builder that attach no source.  An exporter without a transport stays the very exporter. -/
theorem rebuild_changes_only_what_is_named (before : TransportExporter) (name : String)
    (identity : Nat) (steps : List Rebuild) :
    let bench := (start (.transport before)).run steps
    (∃ after, bench.exporter = .transport after ∧
      Rebuilt before after steps ∧
      (∀ builders : List (List Edit),
        (∀ edits ∈ builders, ∀ change ∈ edits, change.source? = none) →
          (bench.run (builders.map .edit)).exporter.source? = after.source) ∧
      (∀ place, ∃ new newer : AttachedSource,
        new.source = .credentials place ∧ newer.source = .credentials place ∧
        (∀ source ∈ (start (.transport before)).seen steps, source.identity ≠ new.identity) ∧
        newer.identity ≠ new.identity ∧
        (bench.step (.authenticate place)).exporter
          = .transport { after with source := some new } ∧
        (bench.run [.authenticate place, .authenticate place]).exporter
          = .transport { after with source := some newer })) ∧
    (∀ edits place, (∀ change ∈ edits, change.source? = none) →
      bench.run [.edit edits, .authenticate place]
        = bench.run [.authenticate place, .edit edits]) ∧
    ((start (.named name identity)).run steps).exporter = .named name identity := by
  intro bench
  have hafter : bench.exporter
      = .transport (((start (.transport before)).changes steps).foldl .edit before) :=
    run_exporter _ steps
  refine ⟨⟨_, hafter, before.rebuilt steps, fun builders h => ?_, fun place => ?_⟩, ?_, ?_⟩
  · have hnone : (bench.changes (builders.map .edit)).filterMap Edit.source? = [] :=
      attached_map_edit h bench
    rw [run_exporter, hafter]
    show TransportExporter.source _ = _
    rw [TransportExporter.source_foldl_edit, hnone]
    rfl
  · have honce := authenticate_transport bench hafter place
    have htwice := authenticate_transport (bench.step (.authenticate place))
      (congrArg Workbench.exporter honce) place
    refine ⟨⟨bench.unused, .credentials place⟩, ⟨bench.unused + 1, .credentials place⟩, rfl, rfl,
      ?_, Nat.succ_ne_self _, congrArg Workbench.exporter honce,
      congrArg Workbench.exporter htwice⟩
    intro source hseen
    exact Nat.ne_of_lt (lt_unused_of_mem_seen (.transport before) steps hseen)
  · intro edits place h
    exact step_edit_comm_authenticate bench h place
  · exact run_exporter (start (.named name identity)) steps

/-- A source that a builder attaches is replaced by an authentication, and the builder after that
keeps the new one. -/
theorem rebuild_changes_only_what_is_named_replaced :
    ∃ after, ((start (.transport (.ofDefaults .http))).run
        [.edit [.timeout 3000, .source ⟨7, .fixed .empty⟩], .authenticate 0,
          .edit [.header "x-tenant" "a", .timeout 5000]]).exporter = .transport after ∧
      after = ⟨.http, ⟨Transport.http.defaultEndpoint, 5000, .ofList [("x-tenant", "a")], false⟩,
        some ⟨8, .credentials 0⟩⟩ := by
  obtain ⟨⟨after, hafter, hrebuilt, -⟩, -⟩ := rebuild_changes_only_what_is_named
    (.ofDefaults .http) "memory" 1 [.edit [.timeout 3000, .source ⟨7, .fixed .empty⟩],
      .authenticate 0, .edit [.header "x-tenant" "a", .timeout 5000]]
  refine ⟨after, hafter, ?_⟩
  obtain ⟨transport, ⟨endpoint, timeout, headers, insecure⟩, source⟩ := after
  obtain rfl : transport = .http := hrebuilt.transport
  obtain rfl : endpoint = Transport.http.defaultEndpoint := hrebuilt.endpoint
  obtain rfl : timeout = 5000 := hrebuilt.timeout
  obtain rfl : headers = .ofList [("x-tenant", "a")] := hrebuilt.headers
  obtain rfl : insecure = false := hrebuilt.insecure
  obtain rfl : source = some ⟨8, .credentials 0⟩ := hrebuilt.source
  rfl

end Workbench

end TelemetryAuth
