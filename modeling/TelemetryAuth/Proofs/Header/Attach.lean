import TelemetryAuth.Header.Multimap

/-!
# A request with a set of headers attached

A set can be attached to a request if each of its headers fits: its name obeys the rule for names
and its value is well formed.  Then each name of the set has the one value of the set, and every
other name keeps all its values (`HeaderMap.Overlaid`).  This determines the view of the request
(`Overlaid.values_eq`), so the order in which the set is gone through leaves no mark.  It decides
one thing only: which header is blamed if several do not fit.

Names are compared in small letters, so the names of a set must differ in that form
(`CallHeaders.NamesDiffer`); otherwise one of its own headers replaces another.
-/

namespace TelemetryAuth

/-- The names of a set differ even if capitals do not count. -/
def CallHeaders.NamesDiffer (set : CallHeaders) : Prop :=
  set.toList.Pairwise fun a b => Header.lowerName a.1 ≠ Header.lowerName b.1

instance (set : CallHeaders) : Decidable (CallHeaders.NamesDiffer set) :=
  inferInstanceAs (Decidable (List.Pairwise _ _))

/-- A header is well formed, where names obey the rule `isName`. -/
def Header.Fits (isName : String → Bool) (header : String × String) : Prop :=
  isName header.1 = true ∧ Header.isValue header.2 = true

instance (isName : String → Bool) (header : String × String) :
    Decidable (Header.Fits isName header) :=
  inferInstanceAs (Decidable (_ ∧ _))

/-- A fault names a header and says what is wrong with it: the name, or else the value. -/
def HeaderFault.Blames (isName : String → Bool) (header : String × String) : HeaderFault → Prop
  | .name blamed => blamed = header.1 ∧ isName header.1 = false
  | .value blamed => blamed = header.1 ∧ isName header.1 = true ∧ Header.isValue header.2 = false

namespace HeaderMap

variable {isName : String → Bool} {headers : HeaderMap} {header : String × String}
  {pairs : List (String × String)}

/-! ### One header after the other -/

/-- The headers after all pairs of a list have been set. -/
def setAll (headers : HeaderMap) (pairs : List (String × String)) : HeaderMap :=
  pairs.foldl (fun headers pair => headers.set pair.1 pair.2) headers

theorem attachOne_of_fits (h : Header.Fits isName header) :
    attachOne isName headers header = .ok (headers.set header.1 header.2) := by
  obtain ⟨hname, hvalue⟩ := h
  simp [attachOne, hname, hvalue]

theorem attachOne_of_not_fits (headers : HeaderMap) (h : ¬ Header.Fits isName header) :
    ∃ fault : HeaderFault, fault.Blames isName header ∧
      attachOne isName headers header = .error fault := by
  by_cases hname : isName header.1 = true
  · have hvalue : Header.isValue header.2 = false := by
      rw [← Bool.not_eq_true]
      intro hvalue
      exact h ⟨hname, hvalue⟩
    exact ⟨.value header.1, ⟨rfl, hname, hvalue⟩, by simp [attachOne, hname, hvalue]⟩
  · rw [Bool.not_eq_true] at hname
    exact ⟨.name header.1, ⟨rfl, hname⟩, by simp [attachOne, hname]⟩

theorem attachList_of_fits (h : ∀ header ∈ pairs, Header.Fits isName header) :
    attachList isName headers pairs = .ok (headers.setAll pairs) := by
  induction pairs generalizing headers with
  | nil => rfl
  | cons first rest ih =>
    obtain ⟨hfirst, hrest⟩ := List.forall_mem_cons.1 h
    rw [attachList, attachOne_of_fits hfirst]
    exact ih hrest

/-- The first header that does not fit stops the whole and is blamed. -/
theorem attachList_of_not_fits (headers : HeaderMap)
    (h : ∃ header ∈ pairs, ¬ Header.Fits isName header) :
    ∃ header ∈ pairs, ∃ fault : HeaderFault, fault.Blames isName header ∧
      attachList isName headers pairs = .error fault := by
  induction pairs generalizing headers with
  | nil =>
    obtain ⟨header, hmem, -⟩ := h
    simp at hmem
  | cons first rest ih =>
    by_cases hfirst : Header.Fits isName first
    · -- The misfit stands behind the first header, which has been set.
      have hrest : ∃ header ∈ rest, ¬ Header.Fits isName header := by
        obtain ⟨header, hmem, hmisfit⟩ := h
        rcases List.mem_cons.1 hmem with rfl | hmem
        · exact absurd hfirst hmisfit
        · exact ⟨header, hmem, hmisfit⟩
      obtain ⟨header, hmem, fault, hblames, hresult⟩ := ih (headers.set first.1 first.2) hrest
      refine ⟨header, List.mem_cons_of_mem _ hmem, fault, hblames, ?_⟩
      rw [attachList, attachOne_of_fits hfirst]
      exact hresult
    · obtain ⟨fault, hblames, hresult⟩ := attachOne_of_not_fits headers hfirst
      refine ⟨first, List.mem_cons_self, fault, hblames, ?_⟩
      rw [attachList, hresult]

/-! ### The view -/

/-- Setting some names leaves the values of every other name. -/
theorem values_setAll_of_forall_ne {name : String}
    (h : ∀ header ∈ pairs, Header.lowerName header.1 ≠ Header.lowerName name) :
    (headers.setAll pairs).values name = headers.values name := by
  induction pairs generalizing headers with
  | nil => rfl
  | cons first rest ih =>
    obtain ⟨hfirst, hrest⟩ := List.forall_mem_cons.1 h
    calc (headers.setAll (first :: rest)).values name
        = (headers.set first.1 first.2).values name := ih hrest
      _ = headers.values name := by rw [values_set, if_neg hfirst]

/-- Of names that differ, each has the value that was set. -/
theorem values_setAll_of_mem {name : String}
    (hdiffer : pairs.Pairwise fun a b => Header.lowerName a.1 ≠ Header.lowerName b.1)
    (hmem : header ∈ pairs) (hname : Header.lowerName header.1 = Header.lowerName name) :
    (headers.setAll pairs).values name = [header.2] := by
  induction pairs generalizing headers with
  | nil => simp at hmem
  | cons first rest ih =>
    obtain ⟨hfirst, hrest⟩ := List.pairwise_cons.1 hdiffer
    rcases List.mem_cons.1 hmem with rfl | hmem
    · -- No later header of the list has the name, so the value stays.
      have hlater : ∀ other ∈ rest, Header.lowerName other.1 ≠ Header.lowerName name := by
        intro other hother
        rw [← hname]
        exact (hfirst other hother).symm
      calc (headers.setAll (header :: rest)).values name
          = (headers.set header.1 header.2).values name := values_setAll_of_forall_ne hlater
        _ = [header.2] := by rw [values_set, if_pos hname]
    · exact ih hrest hmem

/-! ### Sets -/

/-- What a request is after a set has been attached: each name of the set has the one value of the
set, and every other name has the values it had, in their order. -/
structure Overlaid (before : HeaderMap) (set : CallHeaders) (after : HeaderMap) : Prop where
  own : ∀ header ∈ set.toList, ∀ name, Header.lowerName header.1 = Header.lowerName name →
    after.values name = [header.2]
  others : ∀ name, (∀ header ∈ set.toList, Header.lowerName header.1 ≠ Header.lowerName name) →
    after.values name = before.values name

variable {before after other : HeaderMap} {set : CallHeaders}

/-- There is one view that a request has after a set has been attached. -/
theorem Overlaid.values_eq (h : before.Overlaid set after) (h' : before.Overlaid set other)
    (name : String) : after.values name = other.values name := by
  by_cases hset : ∃ header ∈ set.toList, Header.lowerName header.1 = Header.lowerName name
  · obtain ⟨header, hmem, hname⟩ := hset
    rw [h.own header hmem name hname, h'.own header hmem name hname]
  · have hne : ∀ header ∈ set.toList, Header.lowerName header.1 ≠ Header.lowerName name := by
      intro header hmem hname
      exact hset ⟨header, hmem, hname⟩
    rw [h.others name hne, h'.others name hne]

/-- A set whose headers fit is attached as a whole, in any order. -/
theorem attach_of_fits (before : HeaderMap) (order : HeaderOrder)
    (hdiffer : CallHeaders.NamesDiffer set)
    (hfits : ∀ header ∈ set.toList, Header.Fits isName header) :
    ∃ after, before.attach isName set order = .ok after ∧ before.Overlaid set after := by
  have hperm : (order.list set).Perm set.toList := order.list_perm set
  have hfits' : ∀ header ∈ order.list set, Header.Fits isName header := by
    intro header hmem
    exact hfits header (hperm.mem_iff.1 hmem)
  have hdiffer' : (order.list set).Pairwise
      fun a b => Header.lowerName a.1 ≠ Header.lowerName b.1 :=
    (hperm.pairwise_iff fun hne => Ne.symm hne).2 hdiffer
  refine ⟨before.setAll (order.list set), attachList_of_fits hfits', ?_, ?_⟩
  · intro header hmem name hname
    exact values_setAll_of_mem hdiffer' (hperm.mem_iff.2 hmem) hname
  · intro name hne
    refine values_setAll_of_forall_ne fun header hmem => ?_
    exact hne header (hperm.mem_iff.1 hmem)

/-- A set with a header that does not fit is not attached, whatever the order. -/
theorem attach_of_not_fits (before : HeaderMap) (order : HeaderOrder)
    (h : ∃ header ∈ set.toList, ¬ Header.Fits isName header) :
    ∃ header ∈ set.toList, ∃ fault : HeaderFault, fault.Blames isName header ∧
      before.attach isName set order = .error fault := by
  have hperm : (order.list set).Perm set.toList := order.list_perm set
  obtain ⟨misfit, hmem, hmisfit⟩ := h
  obtain ⟨header, hheader, fault, hblames, hresult⟩ :=
    attachList_of_not_fits before ⟨misfit, hperm.mem_iff.2 hmem, hmisfit⟩
  exact ⟨header, hperm.mem_iff.1 hheader, fault, hblames, hresult⟩

end HeaderMap

end TelemetryAuth
