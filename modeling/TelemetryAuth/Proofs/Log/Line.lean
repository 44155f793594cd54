import TelemetryAuth.Log.Span
import TelemetryAuth.Proofs.Dictionary
import TelemetryAuth.Proofs.Json.RoundTrip

/-!
# The members of a log line

A line of the log is a JSON object.  At its root stand the severity, the time, the target and the
name of the span that the entry was logged in (`RootMember`), beside the fields of the entry.

The spans that a thread is in are described without a recorder, by entering and leaving alone
(`openSpans`).  One step of a recorder keeps its stack in line with them (`Tracks.step`), so a whole
run does (`Tracks.foldl`), and an entry is written with the innermost span that passes the filter.

A reader of the log takes the root at its word (`Truthful`).  A field that is called like a member
of the root takes the place of that member, so an entry can say of itself what it wants
(`field_displaces_severity`).  The main result is `lines_follow_entries`: every entry that passes
becomes a line, each member of the line is the last field of its name or else stands at the root,
and the line is truthful just if the fields that are called like a member of the root agree with it.
-/

namespace TelemetryAuth.Log

open Dictionary

/-! ### The spans a thread is in -/

/-- The spans that a thread is in after one more step, the innermost first. -/
def Step.spans (spans : List SpanKind) : Step → List SpanKind
  | .enter kind => kind :: spans
  | .exit => spans.tail
  | .log _ => spans

/-- The spans that a thread is in after some steps, the innermost first. -/
def openSpans (steps : List Step) : List SpanKind := steps.foldl Step.spans []

/-- The innermost span that passes the filter has some name. -/
def Inside (filter : Filter) (spans : List SpanKind) (name : String) : Prop :=
  ∃ inner kind outer, spans = inner ++ kind :: outer ∧ kind.name = name ∧
    filter.passes kind.level kind.target ∧
    ∀ hidden ∈ inner, ¬ filter.passes hidden.level hidden.target

section Spans

variable {filter : Filter} {tracer : Tracer} {spans : List SpanKind} {recorder : Recorder}

/-- What a place on the stack has in common with the span that was entered. -/
def OpenSpan.mark (place : OpenSpan) : SpanKind × Bool := (place.kind, place.passed)

/-- The stack of a recorder has a place for each span that the thread is in. -/
def Tracks (filter : Filter) (recorder : Recorder) (spans : List SpanKind) : Prop :=
  recorder.stack.map OpenSpan.mark
    = spans.map fun kind => (kind, filter.passes kind.level kind.target)

theorem map_mark_addEvent (limit : Nat) (name : String) (stack : List OpenSpan) :
    (Recorder.addEvent limit name stack).map OpenSpan.mark = stack.map OpenSpan.mark := by
  induction stack with
  | nil => rfl
  | cons top rest ih =>
    unfold Recorder.addEvent
    split
    · rfl
    · rw [List.map_cons, ih, List.map_cons]

theorem step_log_of_passes {entry : Entry} (h : filter.passes entry.level entry.target) :
    recorder.step filter tracer (.log entry) =
      { recorder with
        stack := Recorder.addEvent tracer.eventLimit (Recorder.eventName entry) recorder.stack
        lines := recorder.lines ++ [⟨entry, recorder.current?⟩] } :=
  if_pos h

theorem step_log_of_hidden {entry : Entry} (h : ¬ filter.passes entry.level entry.target) :
    recorder.step filter tracer (.log entry) = recorder :=
  if_neg h

theorem stack_step_exit :
    (recorder.step filter tracer .exit).stack = recorder.stack.tail := by
  unfold Recorder.step
  cases hplaces : recorder.stack with
  | nil => simpa using hplaces
  | cons top rest => rfl

/-- A step keeps the stack in line with the spans that the thread is in. -/
theorem Tracks.step (h : Tracks filter recorder spans) (step : Step) :
    Tracks filter (recorder.step filter tracer step) (step.spans spans) := by
  cases step with
  | enter kind => exact congrArg (List.cons _) h
  | exit =>
    -- Leaving with nothing open changes neither side, as the tail of an empty list is empty.
    have htail : recorder.stack.tail.map OpenSpan.mark
        = spans.tail.map fun kind => (kind, filter.passes kind.level kind.target) := by
      rw [List.map_tail, h, List.map_tail]
    unfold Tracks
    rw [stack_step_exit]
    exact htail
  | log entry =>
    by_cases hpasses : filter.passes entry.level entry.target
    · rw [step_log_of_passes hpasses]
      exact (map_mark_addEvent _ _ _).trans h
    · rw [step_log_of_hidden hpasses]
      exact h

theorem Tracks.foldl (h : Tracks filter recorder spans) (steps : List Step) :
    Tracks filter (steps.foldl (Recorder.step filter tracer) recorder)
      (steps.foldl Step.spans spans) := by
  induction steps generalizing recorder spans with
  | nil => exact h
  | cons step steps ih => exact ih (h.step step)

/-- The innermost span that passes, looked up among the spans that the thread is in. -/
theorem Tracks.current?_eq (h : Tracks filter recorder spans) :
    recorder.current?
      = (spans.find? fun kind => filter.passes kind.level kind.target).map (·.name) := by
  have hmarks : (recorder.stack.map OpenSpan.mark).find? (·.2)
      = (spans.map fun kind => (kind, filter.passes kind.level kind.target)).find? (·.2) :=
    congrArg _ h
  rw [List.find?_map, List.find?_map] at hmarks
  have hnames := congrArg (Option.map fun marked => marked.1.name) hmarks
  rw [Option.map_map, Option.map_map] at hnames
  exact hnames

theorem find?_eq_some_iff_inside {name : String} :
    (spans.find? fun kind => filter.passes kind.level kind.target).map (·.name) = some name ↔
      Inside filter spans name := by
  rw [Option.map_eq_some_iff]
  constructor
  · rintro ⟨kind, hkind, hname⟩
    obtain ⟨hpasses, inner, outer, rfl, hinner⟩ := List.find?_eq_some_iff_append.1 hkind
    exact ⟨inner, kind, outer, rfl, hname, hpasses, by simpa using hinner⟩
  · rintro ⟨inner, kind, outer, rfl, hname, hpasses, hinner⟩
    exact ⟨kind, List.find?_eq_some_iff_append.2
      ⟨hpasses, inner, outer, rfl, by simpa using hinner⟩, hname⟩

/-- Steps add to the lines that there are. -/
theorem exists_lines_foldl (filter : Filter) (tracer : Tracer) (recorder : Recorder)
    (steps : List Step) :
    ∃ more,
      (steps.foldl (Recorder.step filter tracer) recorder).lines = recorder.lines ++ more := by
  induction steps generalizing recorder with
  | nil => exact ⟨[], (List.append_nil _).symm⟩
  | cons step steps ih =>
    have hstep : ∃ more, (recorder.step filter tracer step).lines = recorder.lines ++ more := by
      cases step with
      | enter kind => exact ⟨[], (List.append_nil _).symm⟩
      | exit =>
        refine ⟨[], ?_⟩
        unfold Recorder.step
        rw [List.append_nil]
        cases recorder.stack with
        | nil => rfl
        | cons top rest => rfl
      | log entry =>
        by_cases hpasses : filter.passes entry.level entry.target
        · rw [step_log_of_passes hpasses]
          exact ⟨_, rfl⟩
        · rw [step_log_of_hidden hpasses]
          exact ⟨[], (List.append_nil _).symm⟩
    obtain ⟨first, hfirst⟩ := hstep
    obtain ⟨more, hmore⟩ := ih (recorder.step filter tracer step)
    exact ⟨first ++ more, by rw [List.foldl_cons, hmore, hfirst, List.append_assoc]⟩

/-- **An entry that passes becomes a line**, behind the lines from before it, with the innermost
span that the thread is in and that passes. -/
theorem exists_line_of_passes (filter : Filter) (tracer : Tracer) (before after : List Step)
    {entry : Entry} (h : filter.passes entry.level entry.target) :
    ∃ span others, (Recorder.run filter tracer (before ++ .log entry :: after)).lines
        = (Recorder.run filter tracer before).lines ++ ⟨entry, span⟩ :: others ∧
      ∀ name, span = some name ↔ Inside filter (openSpans before) name := by
  let recorder := before.foldl (Recorder.step filter tracer) .initial
  have hinitial : Tracks filter .initial [] := rfl
  have htracks : Tracks filter recorder (openSpans before) := hinitial.foldl before
  obtain ⟨others, hothers⟩ :=
    exists_lines_foldl filter tracer (recorder.step filter tracer (.log entry)) after
  refine ⟨recorder.current?, others, ?_, fun name => ?_⟩
  · -- The end of the thread closes spans, but it writes no line.
    show ((before ++ Step.log entry :: after).foldl (Recorder.step filter tracer) .initial).lines
      = recorder.lines ++ _
    rw [List.foldl_append, List.foldl_cons, hothers, step_log_of_passes h, List.append_assoc]
    rfl
  · rw [htracks.current?_eq]
    exact find?_eq_some_iff_inside

end Spans

/-! ### What stands at the root -/

/-- The severity that a collector is to read for a level. -/
inductive Level.Rated : Level → String → Prop
  | error : Rated .error "ERROR"
  | warn : Rated .warn "WARNING"
  | info : Rated .info "INFO"
  | debug : Rated .debug "DEBUG"
  | trace : Rated .trace "DEBUG"

/-- What a collector is to read for the value of a field: texts and truth values as they are, an
integer with all its digits, and any other value as the text that its printer gives. -/
inductive Value.Written : Value → Json → Prop
  | text (value : String) : Written (.text value) (.string value)
  | integer (value : Int) : Written (.integer value) (.number (.integer value))
  | truth (value : Bool) : Written (.truth value) (.bool value)
  | shown (printed : String) : Written (.shown printed) (.string printed)

/-- What stands at the root beside the fields of an entry: the severity of its level, the time, its
target, and the name of the innermost span if it was logged inside one. -/
inductive RootMember (filter : Filter) (spans : List SpanKind) (entry : Entry) (time : String) :
    String → Json → Prop
  | severity {severity : String} (rated : entry.level.Rated severity) :
      RootMember filter spans entry time "severity" (.string severity)
  | timestamp : RootMember filter spans entry time "timestamp" (.string time)
  | target : RootMember filter spans entry time "target" (.string entry.target)
  | span {name : String} (inside : Inside filter spans name) :
      RootMember filter spans entry time "span" (.string name)

/-- The names of what stands at the root. -/
def rootNames : List String := ["severity", "timestamp", "target", "span"]

/-- A line can be taken at its word: its root says what there is to say of the entry whatever the
fields are called, each other member is the last field of its name, and there are no more. -/
structure Truthful (filter : Filter) (spans : List SpanKind) (entry : Entry) (time : String)
    (members : List (String × Json)) : Prop where
  root : ∀ name ∈ rootNames, ∀ json,
    (name, json) ∈ members ↔ RootMember filter spans entry time name json
  fields : ∀ name, name ∉ rootNames → ∀ json,
    (name, json) ∈ members ↔ ∃ value, LastOf entry.fields name value ∧ value.Written json

section Root

variable {filter : Filter} {spans : List SpanKind} {entry : Entry} {time name : String}
  {span : Option String} {json : Json}

theorem RootMember.mem_rootNames (h : RootMember filter spans entry time name json) :
    name ∈ rootNames := by
  cases h <;> decide

theorem Level.rated_iff {level : Level} {severity : String} :
    level.Rated severity ↔ severity = level.severity := by
  constructor
  · intro hrated
    cases hrated <;> rfl
  · rintro rfl
    cases level with
    | error => exact .error
    | warn => exact .warn
    | info => exact .info
    | debug => exact .debug
    | trace => exact .trace

theorem Value.written_iff {value : Value} : value.Written json ↔ json = value.json := by
  constructor
  · intro hwritten
    cases hwritten <;> rfl
  · rintro rfl
    cases value with
    | text value => exact .text value
    | integer value => exact .integer value
    | truth value => exact .truth value
    | shown printed => exact .shown printed

/-- What an entry puts at the root before its fields. -/
theorem mem_root_iff (hspan : ∀ name, span = some name ↔ Inside filter spans name) :
    (∃ value, (name, value) ∈ entry.root (some time) span ∧ value.Written json) ↔
      RootMember filter spans entry time name json := by
  simp only [Value.written_iff]
  constructor
  · rintro ⟨value, hmem, rfl⟩
    unfold Entry.root at hmem
    simp only [List.mem_append, List.mem_singleton, List.mem_map, Option.mem_toList,
      Prod.mk.injEq] at hmem
    obtain ((⟨rfl, rfl⟩ | ⟨_, ⟨⟩, rfl, rfl⟩) | ⟨rfl, rfl⟩) | ⟨inner, hinner, rfl, rfl⟩ := hmem
    · exact .severity (Level.rated_iff.2 rfl)
    · exact .timestamp
    · exact .target
    · exact .span ((hspan inner).1 hinner)
  · intro h
    cases h with
    | severity rated =>
      obtain rfl := Level.rated_iff.1 rated
      exact ⟨.text entry.level.severity, by simp [Entry.root], rfl⟩
    | timestamp => exact ⟨.text time, by simp [Entry.root], rfl⟩
    | target => exact ⟨.text entry.target, by simp [Entry.root], rfl⟩
    | @span inner inside =>
      obtain rfl := (hspan inner).2 inside
      exact ⟨.text inner, by simp [Entry.root], rfl⟩

theorem nodup_root (entry : Entry) (time span : Option String) :
    ((entry.root time span).map (·.1)).Nodup := by
  cases time <;> cases span <;> simp [Entry.root]

/-- Only one thing can stand at the root under a name. -/
theorem RootMember.unique {other : Json} (h : RootMember filter spans entry time name json)
    (hother : RootMember filter spans entry time name other)
    (hspan : ∀ name, span = some name ↔ Inside filter spans name) : json = other := by
  obtain ⟨value, hvalue, hjson⟩ := (mem_root_iff hspan).2 h
  obtain ⟨otherValue, hotherValue, hotherJson⟩ := (mem_root_iff hspan).2 hother
  have heq := List.inj_on_of_nodup_map (nodup_root entry (some time) span) hvalue hotherValue rfl
  cases heq
  rw [Value.written_iff.1 hjson, Value.written_iff.1 hotherJson]

/-! ### The members of a line -/

/-- A field takes the place of what stands at the root under its name. -/
theorem mem_object_iff {stamp : Option String} {value : Value} :
    (name, value) ∈ (entry.object stamp span).toList ↔
      LastOf entry.fields name value ∨
        (∀ field ∈ entry.fields, field.1 ≠ name) ∧ (name, value) ∈ entry.root stamp span := by
  rw [mem_toList_iff, Entry.object, ofList, insertMany_append, get?_insertMany_eq_some_iff,
    ← ofList, get?_ofList_eq_some_iff, lastOf_iff_mem (nodup_root entry stamp span)]

/-- A member of a line is the last field of its name, or it stands at the root and no field has its
name. -/
theorem mem_members_iff {members : List (String × Json)}
    (hmembers : (⟨entry, span⟩ : Line).json time = .object members)
    (hspan : ∀ name, span = some name ↔ Inside filter spans name) :
    (name, json) ∈ members ↔
      (∃ value, LastOf entry.fields name value ∧ value.Written json) ∨
        (∀ field ∈ entry.fields, field.1 ≠ name) ∧
          RootMember filter spans entry time name json := by
  have hjson : (name, json) ∈ members ↔
      ∃ value, (name, value) ∈ (entry.object (some time) span).toList ∧ value.Written json := by
    obtain rfl := Json.object.inj hmembers
    simp only [Value.written_iff]
    constructor
    · intro hmem
      obtain ⟨⟨own, value⟩, hvalue, heq⟩ := List.mem_map.1 hmem
      cases heq
      exact ⟨value, hvalue, rfl⟩
    · rintro ⟨value, hvalue, rfl⟩
      exact List.mem_map.2 ⟨(name, value), hvalue, rfl⟩
  rw [hjson, ← mem_root_iff hspan]
  constructor
  · rintro ⟨value, hvalue, hwritten⟩
    rcases mem_object_iff.1 hvalue with hlast | ⟨hnone, hroot⟩
    · exact .inl ⟨value, hlast, hwritten⟩
    · exact .inr ⟨hnone, value, hroot, hwritten⟩
  · rintro (⟨value, hlast, hwritten⟩ | ⟨hnone, value, hroot, hwritten⟩)
    · exact ⟨value, mem_object_iff.2 (.inl hlast), hwritten⟩
    · exact ⟨value, mem_object_iff.2 (.inr ⟨hnone, hroot⟩), hwritten⟩

/-- The names in a line ascend, so no name stands there twice. -/
theorem pairwise_members {line : Line} {members : List (String × Json)}
    (hmembers : line.json time = .object members) :
    members.Pairwise fun member other => member.1 < other.1 := by
  obtain rfl := Json.object.inj hmembers
  exact List.pairwise_map.2 (line.entry.object (some time) line.span).sorted

/-- **A line is truthful just if the fields that are called like a member of the root agree with
it.** -/
theorem truthful_iff {members : List (String × Json)}
    (hmembers : (⟨entry, span⟩ : Line).json time = .object members)
    (hspan : ∀ name, span = some name ↔ Inside filter spans name) :
    Truthful filter spans entry time members ↔
      ∀ name ∈ rootNames, ∀ value json, LastOf entry.fields name value → value.Written json →
        RootMember filter spans entry time name json := by
  have hmem : ∀ {name json}, (name, json) ∈ members ↔ _ := mem_members_iff hmembers hspan
  constructor
  · intro htruthful name hname value json hlast hwritten
    exact (htruthful.root name hname json).1 (hmem.2 (.inl ⟨value, hlast, hwritten⟩))
  · intro hagree
    constructor
    · intro name hname json
      constructor
      · intro hmember
        rcases hmem.1 hmember with ⟨value, hlast, hwritten⟩ | ⟨-, hroot⟩
        · exact hagree name hname value json hlast hwritten
        · exact hroot
      · intro hroot
        -- A field of this name is what the line shows, so the last one must be what the root says.
        by_cases hfield : ∃ field ∈ entry.fields, field.1 = name
        · obtain ⟨value, hlast⟩ := exists_lastOf hfield
          have hwritten : value.Written value.json := Value.written_iff.2 rfl
          have hown := hagree name hname value _ hlast hwritten
          obtain rfl := hroot.unique hown hspan
          exact hmem.2 (.inl ⟨value, hlast, hwritten⟩)
        · exact hmem.2 (.inr ⟨fun field hmem hname => hfield ⟨field, hmem, hname⟩, hroot⟩)
    · intro name hname json
      constructor
      · intro hmember
        rcases hmem.1 hmember with hlast | ⟨-, hroot⟩
        · exact hlast
        · exact absurd hroot.mem_rootNames hname
      · intro hlast
        exact hmem.2 (.inl hlast)

/-- A value that the text of a line can hold: an integer has at most 64 bits, with a sign or
without. -/
def Value.Fits (value : Value) : Prop :=
  ∀ n, value = .integer n → -0x8000000000000000 ≤ n ∧ n ≤ 0xFFFFFFFFFFFFFFFF

theorem Value.Written.scalar {value : Value} (hwritten : value.Written json) (h : value.Fits) :
    json.Scalar := by
  cases hwritten with
  | text value => exact .string value
  | integer n =>
    obtain ⟨least, greatest⟩ := h n rfl
    exact .int n least greatest
  | truth value => exact .bool value
  | shown printed => exact .string printed

theorem RootMember.scalar (h : RootMember filter spans entry time name json) : json.Scalar := by
  cases h <;> exact .string _

/-- The text of a line is read as the line. -/
theorem parse_compact_line {members : List (String × Json)}
    (hmembers : (⟨entry, span⟩ : Line).json time = .object members)
    (hspan : ∀ name, span = some name ↔ Inside filter spans name)
    (hfits : ∀ field ∈ entry.fields, field.2.Fits) :
    Json.parse (Json.compact (.object members)) = .ok (.object members) := by
  refine Json.parse_compact_record fun member hmember => ?_
  rcases (mem_members_iff hmembers hspan).1 hmember with ⟨value, hlast, hwritten⟩ | ⟨-, hroot⟩
  · exact hwritten.scalar (hfits _ hlast.mem)
  · exact hroot.scalar

end Root

/-! ### Lines and entries -/

/-- **Every entry that passes becomes a line, and the line is truthful just if no field contradicts
the root.**  The line names the innermost span that the thread is in and that passes; each of its
members is the last field of that name, or stands at the root under a name that no field has; and
its text is read as the same members, whatever the texts and the integers of 64 bits in it. -/
theorem lines_follow_entries (filter : Filter) (tracer : Tracer) (before after : List Step)
    (entry : Entry) (h : filter.passes entry.level entry.target) (time : String) :
    ∃ span others members,
      (Recorder.run filter tracer (before ++ .log entry :: after)).lines
        = (Recorder.run filter tracer before).lines ++ ⟨entry, span⟩ :: others ∧
      (∀ name, span = some name ↔ Inside filter (openSpans before) name) ∧
      (⟨entry, span⟩ : Line).json time = .object members ∧
      members.Pairwise (fun member other => member.1 < other.1) ∧
      (∀ name json, (name, json) ∈ members ↔
        (∃ value, LastOf entry.fields name value ∧ value.Written json) ∨
          (∀ field ∈ entry.fields, field.1 ≠ name) ∧
            RootMember filter (openSpans before) entry time name json) ∧
      (Truthful filter (openSpans before) entry time members ↔
        ∀ name ∈ rootNames, ∀ value json, LastOf entry.fields name value → value.Written json →
          RootMember filter (openSpans before) entry time name json) ∧
      ((∀ field ∈ entry.fields, field.2.Fits) →
        Json.parse (Json.compact (.object members)) = .ok (.object members)) := by
  obtain ⟨span, others, hlines, hspan⟩ := exists_line_of_passes filter tracer before after h
  obtain ⟨members, hmembers⟩ : ∃ members, (⟨entry, span⟩ : Line).json time = .object members :=
    ⟨_, rfl⟩
  exact ⟨span, others, members, hlines, hspan, hmembers, pairwise_members hmembers,
    fun _ _ => mem_members_iff hmembers hspan, truthful_iff hmembers hspan,
    parse_compact_line hmembers hspan⟩

/-- The filter that passes what is at least as important as `INFO`. -/
def infoFilter : Filter := .ofDirectives [⟨none, some .info⟩]

/-- The tracer of a process without variables. -/
def plainTracer : Tracer := .ofProcess (.ofList []) "app"

/-- An error that comes with a severity of its own. -/
def selfRatedEntry : Entry :=
  .withMessage .error "app" "export failed" [("severity", .text "DEBUG")]

/-- **An error is written with the severity `DEBUG` if a field says so**, so the line is not
truthful. -/
theorem field_displaces_severity :
    infoFilter.passes selfRatedEntry.level selfRatedEntry.target ∧
    ∃ members,
      (Recorder.run infoFilter plainTracer [.log selfRatedEntry]).lines.map (·.json "now")
        = [.object members] ∧
      ("severity", .string "DEBUG") ∈ members ∧
      ¬ Truthful infoFilter (openSpans []) selfRatedEntry "now" members := by
  -- No span is open, so there is nothing to be inside of.
  have hspan : ∀ name, (none : Option String) = some name ↔
      Inside infoFilter (openSpans []) name :=
    fun name => @find?_eq_some_iff_inside infoFilter (openSpans []) name
  have hlast : LastOf selfRatedEntry.fields "severity" (.text "DEBUG") :=
    ⟨[("message", .shown "export failed")], [], rfl, by simp⟩
  refine ⟨by decide, _, rfl, (mem_members_iff rfl hspan).2 (.inl ⟨_, hlast, .text "DEBUG"⟩), ?_⟩
  intro htruthful
  have hroot := (truthful_iff rfl hspan).1 htruthful "severity" (by decide) _ _ hlast (.text _)
  have hsame := hroot.unique (.severity .error) hspan
  simp at hsame

/-- A thread inside a span that passes and one that does not. -/
def nestedSteps : List Step :=
  [.enter ⟨"outer", .info, "app"⟩, .enter ⟨"inner", .debug, "app::db"⟩]

/-- A warning with a field that is recorded twice, and one with the name of a member of the root
that agrees with it. -/
def retriedEntry : Entry :=
  .withMessage .warn "app" "retried"
    [("attempt", .integer (-0x8000000000000000)), ("span", .shown "outer"), ("final", .truth false),
      ("attempt", .integer 0xFFFFFFFFFFFFFFFF)]

theorem lines_follow_entries_nested :
    infoFilter.passes retriedEntry.level retriedEntry.target ∧
    (∀ field ∈ retriedEntry.fields, field.2.Fits) ∧
    ∃ members,
      (Recorder.run infoFilter plainTracer (nestedSteps ++ .log retriedEntry :: [.exit])).lines.map
        (·.json "now") = [.object members] ∧
      Truthful infoFilter (openSpans nestedSteps) retriedEntry "now" members ∧
      ("severity", .string "WARNING") ∈ members ∧
      ("span", .string "outer") ∈ members ∧
      ("attempt", .number (.integer 0xFFFFFFFFFFFFFFFF)) ∈ members ∧
      ("final", .bool false) ∈ members ∧
      Json.parse (Json.compact (.object members)) = .ok (.object members) := by
  have hpasses : infoFilter.passes retriedEntry.level retriedEntry.target := by decide
  have hfits : ∀ field ∈ retriedEntry.fields, field.2.Fits := by
    simp [retriedEntry, Entry.withMessage, Value.Fits]
  have hinside : Inside infoFilter (openSpans nestedSteps) "outer" :=
    ⟨[⟨"inner", .debug, "app::db"⟩], _, [], rfl, rfl, by decide, by decide⟩
  have hattempt : LastOf retriedEntry.fields "attempt" (.integer 0xFFFFFFFFFFFFFFFF) :=
    ⟨retriedEntry.fields.dropLast, [], rfl, by simp⟩
  have hfinal : LastOf retriedEntry.fields "final" (.truth false) :=
    ⟨retriedEntry.fields.take 3, [("attempt", .integer 0xFFFFFFFFFFFFFFFF)], rfl, by simp⟩
  have hone : (Recorder.run infoFilter plainTracer
      (nestedSteps ++ .log retriedEntry :: [.exit])).lines = [⟨retriedEntry, some "outer"⟩] := rfl
  obtain ⟨span, others, members, hlines, -, hjson, -, hmem, htruthful, hparse⟩ :=
    lines_follow_entries infoFilter plainTracer nestedSteps [.exit] retriedEntry hpasses "now"
  have hagrees : Truthful infoFilter (openSpans nestedSteps) retriedEntry "now" members := by
    refine htruthful.2 fun name hname value json hfield hwritten => ?_
    have hvalue := hfield.mem
    simp only [retriedEntry, Entry.withMessage, List.mem_cons, List.not_mem_nil, or_false,
      Prod.mk.injEq] at hvalue
    obtain ⟨rfl, rfl⟩ | ⟨rfl, rfl⟩ | ⟨rfl, rfl⟩ | ⟨rfl, rfl⟩ | ⟨rfl, rfl⟩ := hvalue
    · exact absurd hname (by decide)
    · exact absurd hname (by decide)
    · cases hwritten
      exact .span hinside
    · exact absurd hname (by decide)
    · exact absurd hname (by decide)
  refine ⟨hpasses, hfits, members, ?_, hagrees, (hagrees.root _ (by decide) _).2 (.severity .warn),
    (hagrees.root _ (by decide) _).2 (.span hinside),
    (hmem _ _).2 (.inl ⟨_, hattempt, .integer _⟩), (hmem _ _).2 (.inl ⟨_, hfinal, .truth false⟩),
    hparse hfits⟩
  have hline := hone.symm.trans hlines
  obtain ⟨hsame, -⟩ := List.cons.inj hline
  rw [hone, List.map_singleton, hsame, hjson]

end TelemetryAuth.Log
