import TelemetryAuth.Environment
import TelemetryAuth.Log.Settings
import TelemetryAuth.Log.Entry
import TelemetryAuth.Text.Alphanumeric

/-!
# Log filters

A filter is a list of directives, each a level for the targets that begin with a text (or for all
targets).  The directives are kept from the most specific to the least: the longer target first, and
of two targets of one length the greater first, so the first directive that fits an entry decides.
A later directive for the same target takes the place of the earlier.

A text is read strictly (`read?`: one bad directive spoils it) or loosely (`readLoosely`: bad
directives are dropped).  A filter without directives passes nothing.  Loosely read, a text without
directives stands for the filter that passes errors.
-/

namespace TelemetryAuth.Log

/-- The most detailed level that passes; `none` means that nothing passes. -/
abbrev Threshold := Option Level

namespace Threshold

/-- The place of a threshold, zero if nothing passes. -/
def rank (threshold : Threshold) : Nat := (threshold.map Level.rank).getD 0

/-- The name of a threshold. -/
def name : Threshold → String
  | none => "off"
  | some .error => "error"
  | some .warn => "warn"
  | some .info => "info"
  | some .debug => "debug"
  | some .trace => "trace"

/-- The thresholds in the order of their places. -/
def all : List Threshold := [none, some .error, some .warn, some .info, some .debug, some .trace]

/-- Reads a threshold: its place as a number, or its name in any mixture of capitals. -/
def read? (cs : List Char) : Option Threshold :=
  match (Text.readCount? Text.maxWord64 cs).bind (all[·]?) with
  | some threshold => some threshold
  | none => all.find? fun threshold => Text.lowerAscii cs = threshold.name.toList

end Threshold

/-- A threshold for the targets that begin with a text, or for all targets. -/
structure Directive where
  target : Option String
  threshold : Threshold
  deriving DecidableEq

namespace Directive

/-- The written form of a directive. -/
def text (directive : Directive) : String :=
  match directive.target with
  | some target => target ++ "=" ++ directive.threshold.name
  | none => directive.threshold.name

/-- Whether a character may begin a directive. -/
def startsDirective (c : Char) : Bool :=
  Text.isAlphanumeric c || c == '-' || c == ':' || c == '_'

/-- Whether a piece may be a directive: behind any blanks it has a character to begin with, and it
does not speak of spans. -/
def isDirective (piece : List Char) : Bool :=
  (Text.trimStart piece).head?.any startsDirective && !piece.contains '['

/-- Reads one directive: a threshold, a target with a threshold behind an equals sign, or a bare
target.  A target alone, or with nothing behind its equals sign, lets everything pass.  Blanks are
part of a target, but there is no equals sign behind a target that begins with one. -/
def read? (piece : List Char) : Option Directive :=
  if !isDirective piece then none
  else match Text.splitFirst '=' piece with
    | some (target, level) =>
      if Text.trimStart piece ≠ piece then none
      else if level = [] then some ⟨some (String.ofList target), some .trace⟩
      else (Threshold.read? level).map fun threshold => ⟨some (String.ofList target), threshold⟩
    | none =>
      match Threshold.read? piece with
      | some threshold => some ⟨none, threshold⟩
      | none => some ⟨some (String.ofList piece), some .trace⟩

/-- The length of a target in bytes; a missing target is shorter than any. -/
def specificity (directive : Directive) : Nat :=
  match directive.target with
  | some target => target.utf8ByteSize + 1
  | none => 0

/-- Whether a directive stands before another: it is more specific, or as specific with the greater
target. -/
def precedes (a b : Directive) : Bool :=
  a.specificity > b.specificity ||
    (a.specificity == b.specificity && decide (b.target.getD "" < a.target.getD ""))

/-- Whether a directive speaks of a target. -/
def covers (directive : Directive) (target : String) : Bool :=
  match directive.target with
  | some start => start.toList.isPrefixOf target.toList
  | none => true

end Directive

/-- Directives from the most specific to the least, one for each target. -/
structure Filter where
  directives : List Directive

namespace Filter

/-- Puts a directive at its place; an earlier one for the same target is replaced. -/
def insertDirective (directive : Directive) : List Directive → List Directive
  | [] => [directive]
  | d :: rest =>
    if directive.target = d.target then directive :: rest
    else if directive.precedes d then directive :: d :: rest
    else d :: insertDirective directive rest

/-- The filter of some directives. -/
def ofDirectives (directives : List Directive) : Filter :=
  ⟨directives.foldl (fun acc directive => insertDirective directive acc) []⟩

/-- The filter that passes errors. -/
def errorsOnly : Filter := ⟨[⟨none, some .error⟩]⟩

/-- The pieces of a filter text between commas, without empty ones. -/
def pieces (text : String) : List (List Char) :=
  (Text.splitAll ',' text.toList).filter (· ≠ [])

/-- Reads a filter text in which every directive is well formed. -/
def read? (text : String) : Option Filter :=
  ((pieces text).mapM Directive.read?).map ofDirectives

/-- Reads a filter text and drops the directives that are not well formed. -/
def readLoosely (text : String) : Filter :=
  match (pieces text).filterMap Directive.read? with
  | [] => errorsOnly
  | directives => ofDirectives directives

/-- The filter of a process: its own variable if that can be read, else the configured text. -/
def ofSettings (process : Environment) (settings : LogSettings) : Filter :=
  match (process.get? "RUST_LOG").bind read? with
  | some filter => filter
  | none => readLoosely settings.filterText

/-- The written form of a filter. -/
def text (filter : Filter) : String :=
  ",".intercalate (filter.directives.map Directive.text)

/-- Whether an entry or a span of a level and a target passes: the first directive that speaks of
the target decides. -/
def passes (filter : Filter) (level : Level) (target : String) : Bool :=
  match filter.directives.find? (·.covers target) with
  | some directive => level.rank ≤ Threshold.rank directive.threshold
  | none => false

end Filter

end TelemetryAuth.Log
