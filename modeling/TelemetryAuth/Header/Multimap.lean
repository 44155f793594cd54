import TelemetryAuth.Dictionary
import TelemetryAuth.Header.Grammar

/-!
# Headers of a request

A request may carry several values for one name.  `HeaderMap` keeps names in small letters and the
values of one name in the order in which they were added; the view of a map is `values`.

A `CallHeaders` is what a header source hands out for one call: at most one value per name.
`HeaderMap.attach` puts such a set on a request.  Each name of the set replaces all earlier values,
and the first name or value that is not well formed stops the whole, so a request is never sent with
a part of its set.  A set may be gone through in any order (`HeaderOrder`); unless one is given, it
is gone through by name.
-/

namespace TelemetryAuth

/-- The headers of one call, at most one value per name as it is spelled. -/
abbrev CallHeaders := Dictionary String

/-- An order in which the headers of a set are gone through. -/
structure HeaderOrder where
  list : CallHeaders → List (String × String)
  list_perm : ∀ headers, (list headers).Perm headers.toList

/-- The order of the names. -/
def HeaderOrder.byName : HeaderOrder := ⟨Dictionary.toList, fun _ => .refl _⟩

/-- The headers on a request: pairs of a name in small letters and a value. -/
structure HeaderMap where
  entries : List (String × String)
  deriving DecidableEq, Inhabited

/-- Why a header cannot be attached. -/
inductive HeaderFault
  | name (name : String)
  | value (name : String)
  deriving DecidableEq

namespace HeaderMap

/-- No headers. -/
def empty : HeaderMap := ⟨[]⟩

/-- The values of a name, in the order in which they were added. -/
def values (headers : HeaderMap) (name : String) : List String :=
  (headers.entries.filter fun entry => entry.1 == Header.lowerName name).map (·.2)

/-- Adds a value behind the values that a name has. -/
def append (headers : HeaderMap) (name value : String) : HeaderMap :=
  ⟨headers.entries ++ [(Header.lowerName name, value)]⟩

/-- Gives a name one value in place of all it has. -/
def set (headers : HeaderMap) (name value : String) : HeaderMap :=
  ⟨(headers.entries.filter fun entry => entry.1 != Header.lowerName name) ++
    [(Header.lowerName name, value)]⟩

/-- The headers of a list of pairs, each added behind the others. -/
def ofList (pairs : List (String × String)) : HeaderMap :=
  pairs.foldl (fun headers pair => headers.append pair.1 pair.2) empty

/-- The pairs sorted by name and then by value. -/
def toSortedList (headers : HeaderMap) : List (String × String) :=
  headers.entries.mergeSort fun a b => decide (a.1 < b.1) || (a.1 == b.1 && decide (a.2 ≤ b.2))

/-- Sets one header if its name, by the given rule, and its value are well formed. -/
def attachOne (isName : String → Bool) (headers : HeaderMap) (header : String × String) :
    Except HeaderFault HeaderMap :=
  if !isName header.1 then .error (.name header.1)
  else if !Header.isValue header.2 then .error (.value header.1)
  else .ok (headers.set header.1 header.2)

/-- Sets headers one after the other, up to the first that is not well formed. -/
def attachList (isName : String → Bool) (headers : HeaderMap) :
    List (String × String) → Except HeaderFault HeaderMap
  | [] => .ok headers
  | header :: rest =>
    match attachOne isName headers header with
    | .error fault => .error fault
    | .ok headers => attachList isName headers rest

/-- Sets all headers of a set. -/
def attach (isName : String → Bool) (headers : HeaderMap) (set : CallHeaders)
    (order : HeaderOrder := .byName) : Except HeaderFault HeaderMap :=
  attachList isName headers (order.list set)

/-! ### The view -/

@[simp] theorem values_empty (name : String) : empty.values name = [] := rfl

theorem values_set (headers : HeaderMap) (name value other : String) :
    (headers.set name value).values other =
      if Header.lowerName name = Header.lowerName other then [value]
      else headers.values other := by
  simp only [values, set, List.filter_append, List.map_append, List.filter_filter]
  by_cases h : Header.lowerName name = Header.lowerName other
  · simp [h]
  · simp only [h, if_false]
    have : ∀ entry : String × String,
        ((entry.1 == Header.lowerName other) && (entry.1 != Header.lowerName name))
          = (entry.1 == Header.lowerName other) := by
      intro entry
      by_cases he : entry.1 = Header.lowerName other
      · simp [he, Ne.symm h]
      · simp [he]
    simp [this, h]

end HeaderMap

end TelemetryAuth
