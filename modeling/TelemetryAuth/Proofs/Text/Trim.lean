import Mathlib.Data.List.DropRight
import Mathlib.Data.List.TakeWhile
import TelemetryAuth.Text.Blank

/-!
# Trimmed text

`Text.trim` is a pair of loops.  What it leaves is said here without them: the part of a text that
stands between two runs of blanks and has no blank at either end (`Trims`).  Every text has one such
part, and it is the one that `trim` leaves (`trim_eq_iff`).
-/

namespace TelemetryAuth.Text

variable {cs inner front back : List Char}

/-- All characters of a text are blanks. -/
def AllBlank (cs : List Char) : Prop := ∀ c ∈ cs, isBlank c = true

instance (cs : List Char) : Decidable (AllBlank cs) :=
  inferInstanceAs (Decidable (∀ c ∈ cs, _))

/-- A text neither begins nor ends with a blank. -/
structure Tight (cs : List Char) : Prop where
  first : ∀ c, cs.head? = some c → isBlank c = false
  last : ∀ c, cs.getLast? = some c → isBlank c = false

/-- A text is `inner` between blanks. -/
def Trims (cs inner : List Char) : Prop :=
  ∃ front back, cs = front ++ inner ++ back ∧ AllBlank front ∧ AllBlank back ∧ Tight inner

/-! ### One end -/

theorem allBlank_nil : AllBlank [] := nofun

theorem dropEndWhile_eq_rdropWhile (p : Char → Bool) (cs : List Char) :
    dropEndWhile p cs = cs.rdropWhile p := rfl

/-- What is dropped at the end makes no difference. -/
theorem dropEndWhile_append {p : Char → Bool} (h : ∀ c ∈ back, p c = true) (cs : List Char) :
    dropEndWhile p (cs ++ back) = dropEndWhile p cs := by
  have hreverse : ∀ c ∈ back.reverse, p c = true := by
    intro c hmem
    exact h c (List.mem_reverse.1 hmem)
  rw [dropEndWhile, dropEndWhile, List.reverse_append, List.dropWhile_append_of_pos hreverse]

theorem dropEndWhile_of_last {p : Char → Bool} (h : ∀ c, cs.getLast? = some c → p c = false) :
    dropEndWhile p cs = cs := by
  rw [dropEndWhile_eq_rdropWhile, List.rdropWhile_eq_self_iff]
  intro hne
  have hlast : p (cs.getLast hne) = false := h _ (List.getLast?_eq_some_getLast hne)
  simp [hlast]

/-- The last character that is left is not one to be dropped. -/
theorem of_getLast?_dropEndWhile {p : Char → Bool} {c : Char}
    (h : (dropEndWhile p cs).getLast? = some c) : p c = false := by
  have hne : cs.rdropWhile p ≠ [] := by
    intro hnil
    rw [dropEndWhile_eq_rdropWhile, hnil] at h
    cases h
  obtain rfl : (cs.rdropWhile p).getLast hne = c := by
    rw [dropEndWhile_eq_rdropWhile, List.getLast?_eq_some_getLast hne] at h
    exact Option.some.inj h
  rw [← Bool.not_eq_true]
  exact List.rdropWhile_last_not p cs hne

/-- What is left and what is dropped are the text. -/
theorem exists_dropEndWhile_append (p : Char → Bool) (cs : List Char) :
    ∃ back, (∀ c ∈ back, p c = true) ∧ cs = dropEndWhile p cs ++ back :=
  ⟨cs.rtakeWhile p, fun _ hmem => List.mem_rtakeWhile_imp hmem,
    List.rdropWhile_append_rtakeWhile.symm⟩

/-- Blanks in front do not count. -/
theorem trimStart_append (h : AllBlank front) (cs : List Char) :
    trimStart (front ++ cs) = trimStart cs :=
  List.dropWhile_append_of_pos h

/-- Blanks at the end do not count. -/
theorem trimEnd_append (h : AllBlank back) (cs : List Char) :
    trimEnd (cs ++ back) = trimEnd cs :=
  dropEndWhile_append h cs

theorem trimStart_of_first (h : ∀ c, cs.head? = some c → isBlank c = false) :
    trimStart cs = cs := by
  cases cs with
  | nil => rfl
  | cons c rest =>
    have hfirst : isBlank c = false := h c rfl
    exact List.dropWhile_cons_of_neg (by simp [hfirst])

/-! ### Both ends -/

theorem trim_of_allBlank (h : AllBlank cs) : trim cs = [] := by
  have hstart : trimStart cs = [] := List.dropWhile_eq_nil_iff.2 h
  rw [trim, hstart]
  rfl

/-- A text that stands between blanks is what is left of it. -/
theorem Trims.trim_eq (h : Trims cs inner) : trim cs = inner := by
  obtain ⟨front, back, rfl, hfront, hback, htight⟩ := h
  cases inner with
  | nil =>
    apply trim_of_allBlank
    intro c hmem
    rcases List.mem_append.1 hmem with hmem | hmem
    · rw [List.append_nil] at hmem
      exact hfront c hmem
    · exact hback c hmem
  | cons c rest =>
    have hfirst : trimStart (c :: rest ++ back) = c :: rest ++ back :=
      trimStart_of_first fun other hother => htight.first other hother
    calc trim (front ++ (c :: rest) ++ back)
        = trimEnd (trimStart (c :: rest ++ back)) := by
          rw [trim, List.append_assoc, trimStart_append hfront]
      _ = trimEnd (c :: rest) := by rw [hfirst, trimEnd_append hback]
      _ = c :: rest := dropEndWhile_of_last htight.last

/-- What is left of a text stands in it between blanks. -/
theorem trims_trim (cs : List Char) : Trims cs (trim cs) := by
  have hfront : cs.takeWhile isBlank ++ trimStart cs = cs := List.takeWhile_append_dropWhile
  obtain ⟨back, hblank, hback⟩ : ∃ back, AllBlank back ∧ trimStart cs = trim cs ++ back :=
    exists_dropEndWhile_append isBlank (trimStart cs)
  refine ⟨cs.takeWhile isBlank, back, ?_, ?_, hblank, ?_, ?_⟩
  · rw [List.append_assoc, ← hback, hfront]
  · exact fun c hmem => List.mem_takeWhile_imp hmem
  · -- The first character left is the first one behind the blanks in front.
    intro c hc
    have hhead : (trimStart cs).head? = some c := by
      rw [hback, List.head?_append, hc]
      rfl
    have hnot := List.head?_dropWhile_not isBlank cs
    rw [show cs.dropWhile isBlank = trimStart cs from rfl, hhead] at hnot
    exact hnot
  · exact fun c hc => of_getLast?_dropEndWhile hc

/-- **What is left of a text is the one part between its outer blanks.** -/
theorem trim_eq_iff : trim cs = inner ↔ Trims cs inner := by
  constructor
  · rintro rfl
    exact trims_trim cs
  · exact Trims.trim_eq

/-- A text without blanks at its ends is left as it is. -/
theorem trim_eq_self_iff : trim cs = cs ↔ Tight cs := by
  constructor
  · intro h
    obtain ⟨front, back, -, -, -, htight⟩ := trim_eq_iff.1 h
    exact htight
  · intro h
    exact trim_eq_iff.2 ⟨[], [], by simp, allBlank_nil, allBlank_nil, h⟩

end TelemetryAuth.Text
