/-!
# Splitting a text at a separator

`splitAll` cuts at every separator and `splitFirst` at the first one.  Lists of properties, of
attributes and of filter directives are written with such separators.
-/

namespace TelemetryAuth.Text

/-- Splits at every occurrence of a separator; there is always one piece more than separators. -/
def splitAll (separator : Char) : List Char → List (List Char)
  | [] => [[]]
  | c :: rest =>
    if c = separator then [] :: splitAll separator rest
    else match splitAll separator rest with
      | [] => [[c]]
      | piece :: pieces => (c :: piece) :: pieces

/-- Splits at the first occurrence of a separator, if there is one. -/
def splitFirst (separator : Char) : List Char → Option (List Char × List Char)
  | [] => none
  | c :: rest =>
    if c = separator then some ([], rest)
    else (splitFirst separator rest).map fun (before, after) => (c :: before, after)

/-- Whether a text stands somewhere inside another. -/
def occursIn (part : List Char) : List Char → Bool
  | [] => part = []
  | c :: rest => part.isPrefixOf (c :: rest) || occursIn part rest

/-! ### Small laws -/

theorem splitAll_ne_nil (separator : Char) (cs : List Char) : splitAll separator cs ≠ [] := by
  cases cs with
  | nil => simp [splitAll]
  | cons c rest =>
    rw [splitAll]
    split
    · simp
    · split <;> simp

/-- The pieces of two texts around a separator are the pieces of the one and of the other. -/
theorem splitAll_append_cons (separator : Char) (xs ys : List Char) :
    splitAll separator (xs ++ separator :: ys)
      = splitAll separator xs ++ splitAll separator ys := by
  induction xs with
  | nil => simp [splitAll]
  | cons c rest ih =>
    rw [List.cons_append, splitAll, splitAll]
    split
    · rw [ih, List.cons_append]
    · rw [ih]
      cases h : splitAll separator rest with
      | nil => exact absurd h (splitAll_ne_nil separator rest)
      | cons piece pieces => rfl

/-- The first part has no separator, and the two parts with one between them are the text. -/
theorem splitFirst_eq_some_iff {separator : Char} {cs before after : List Char} :
    splitFirst separator cs = some (before, after)
      ↔ cs = before ++ separator :: after ∧ separator ∉ before := by
  induction cs generalizing before with
  | nil => simp [splitFirst]
  | cons c rest ih =>
    rw [splitFirst]
    split
    next h =>
      subst h
      cases before with
      | nil => simp [eq_comm]
      | cons b before => simp +contextual [eq_comm]
    next h =>
      cases before with
      | nil => simp [h]
      | cons b before =>
        simp only [Option.map_eq_some_iff, Prod.exists, Prod.mk.injEq, List.cons.injEq]
        grind

end TelemetryAuth.Text
