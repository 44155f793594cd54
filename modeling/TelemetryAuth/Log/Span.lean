import TelemetryAuth.Log.Filter
import TelemetryAuth.Sampling

/-!
# Spans and log lines of one thread

A thread enters and leaves spans and logs entries.  A filter lets some of them pass.  A span that
does not pass still takes its place on the stack, so that leaving it leaves nothing else, but
entries and inner spans do not see it: they belong to the innermost open span that passed.

A `Tracer` says under which scope spans are recorded, how many events a span keeps, and whether
spans are recorded at all.  Further events of a span that has enough leave no mark on it.

What has been logged and which spans have ended is collected in a `Recorder`.  `Recorder.step`
describes one step, `Recorder.run` a whole thread; at the end of the thread the spans that are still
open end from the innermost to the outermost.
-/

namespace TelemetryAuth.Log

/-! ### Tracers -/

/-- How the spans of a thread are recorded. -/
structure Tracer where
  scope : String
  eventLimit : Nat
  sampling : Sampling
  deriving DecidableEq

namespace Tracer

/-- The variable of the process that limits the events of a span. -/
def eventLimitVariable : String := "OTEL_SPAN_EVENT_COUNT_LIMIT"

/-- The greatest number of events of a span unless the process names another. -/
def defaultEventLimit : Nat := 128

/-- The tracer of a process for a scope.  A limit has at most 32 bits. -/
def ofProcess (process : Environment) (scope : String) : Tracer where
  scope := scope
  eventLimit :=
    (((process.get? eventLimitVariable).map String.toList).bind
      (Text.readCount? 0xFFFFFFFF)).getD defaultEventLimit
  sampling := .ofProcess process

end Tracer

/-! ### Spans -/

/-- What is fixed about a span before it is entered. -/
structure SpanKind where
  name : String
  level : Level
  target : String
  deriving DecidableEq

/-- A span that has ended. -/
structure Span where
  name : String
  parent : Option String
  scope : String
  events : List String
  deriving DecidableEq

/-- A place on the stack of a thread. -/
structure OpenSpan where
  kind : SpanKind
  passed : Bool
  parent : Option String
  events : List String
  deriving DecidableEq

/-- A step of a thread. -/
inductive Step
  | enter (kind : SpanKind)
  | exit
  | log (entry : Entry)

/-- An entry that passed, with the innermost span it belongs to. -/
structure Line where
  entry : Entry
  span : Option String
  deriving DecidableEq

/-- The stack of a thread, the innermost span first, and what has been recorded so far. -/
structure Recorder where
  stack : List OpenSpan
  lines : List Line
  ended : List Span

namespace Recorder

/-- The recorder of a thread that has not started. -/
def initial : Recorder := ⟨[], [], []⟩

/-- The innermost open span that passed. -/
def current? (recorder : Recorder) : Option String :=
  (recorder.stack.find? (·.passed)).map (·.kind.name)

/-- The name of the event that an entry leaves in its span: its message, if it has one. -/
def eventName (entry : Entry) : String :=
  match entry.fields.find? (·.1 == Entry.messageName) with
  | some (_, .text message) => if message = "" then "<unnamed>" else message
  | some (_, .shown message) => if message = "" then "<unnamed>" else message
  | _ => "<unnamed>"

/-- Adds an event to the innermost open span that passed, unless the span has enough. -/
def addEvent (limit : Nat) (name : String) : List OpenSpan → List OpenSpan
  | [] => []
  | top :: rest =>
    if top.passed then { top with events := (top.events ++ [name]).take limit } :: rest
    else top :: addEvent limit name rest

/-- The span that a place on the stack leaves when it ends. -/
def finished? (scope : String) (place : OpenSpan) : Option Span :=
  if place.passed then some ⟨place.kind.name, place.parent, scope, place.events⟩ else none

/-- One step of a thread. -/
def step (filter : Filter) (tracer : Tracer) (recorder : Recorder) : Step → Recorder
  | .enter kind =>
    let place : OpenSpan :=
      ⟨kind, filter.passes kind.level kind.target, recorder.current?, []⟩
    { recorder with stack := place :: recorder.stack }
  | .exit =>
    match recorder.stack with
    | [] => recorder
    | top :: rest =>
      let ended := recorder.ended ++ (finished? tracer.scope top).toList
      { recorder with stack := rest, ended := ended }
  | .log entry =>
    if filter.passes entry.level entry.target then
      { recorder with
        stack := addEvent tracer.eventLimit (eventName entry) recorder.stack
        lines := recorder.lines ++ [⟨entry, recorder.current?⟩] }
    else recorder

/-- Ends all open spans, the innermost first. -/
def close (scope : String) (recorder : Recorder) : Recorder :=
  { recorder with
    stack := []
    ended := recorder.ended ++ recorder.stack.filterMap (finished? scope) }

/-- A whole thread. -/
def run (filter : Filter) (tracer : Tracer) (steps : List Step) : Recorder :=
  close tracer.scope (steps.foldl (step filter tracer) initial)

end Recorder

/-- A line as it is written: a JSON object with sorted names. -/
def Line.json (line : Line) (timestamp : String) : Json :=
  line.entry.json (some timestamp) line.span

end TelemetryAuth.Log
