import TelemetryAuth.Exporter.Basic
import TelemetryAuth.Resource

/-!
# Extensions of a pipeline

An extension registers callbacks of three kinds: suppliers of default properties, customizers of the
exporter and customizers of the resource.  It has an order among the extensions of a pipeline.
Callbacks are functions, so a pipeline can be built and reasoned about with any callbacks.
-/

namespace TelemetryAuth

/-- Supplies defaults; it is shown the properties that the user has set. -/
abbrev DefaultsSupplier := Properties → Except MissingOption Properties

/-- Changes the exporter; it is shown the assembled properties and may log. -/
abbrev ExporterCustomizer := Exporter → Properties → Exporter × List Log.Entry

/-- Changes the resource; it is shown the assembled properties. -/
abbrev ResourceCustomizer := Resource → Properties → Except MissingOption Resource

/-- Makes an exporter that is selected by its key; the result is the name that it reports. -/
abbrev ExporterFactory := Properties → String

/-- What an extension registers, and its order among the extensions. -/
structure Extension where
  order : Int
  announcement : List Log.Entry
  suppliers : List DefaultsSupplier
  exporterCustomizers : List ExporterCustomizer
  resourceCustomizers : List ResourceCustomizer

namespace Extension

/-- The order of an extension that does not choose one. -/
def defaultOrder : Int := 0

/-- The extensions of a list with their places in it, in ascending order; of two with one order the
one registered first comes first. -/
def arranged (extensions : List Extension) : List (Nat × Extension) :=
  (extensions.zipIdx.map fun (extension, place) => (place, extension)).mergeSort
    fun a b => decide (a.2.order ≤ b.2.order)

/-- The callbacks of one kind, each with the place of its extension. -/
def callbacks {α : Type} (select : Extension → List α) (arranged : List (Nat × Extension)) :
    List (Nat × α) :=
  arranged.flatMap fun (place, extension) =>
    (select extension).map fun callback => (place, callback)

end Extension

end TelemetryAuth
