import Mathlib.Data.List.Perm.Basic
import TelemetryAuth.Pipeline.Extension

/-!
# The order in which callbacks run

A callback is registered with the order of its extension, the place of the extension among all and
its index among the callbacks of its kind.  Callbacks of one kind run by ascending order, then by
place, then by index (`Registered.Before`), each exactly once (`RunOrder`).  This fixes the list of
calls (`RunOrder.unique`), and it is the list in which `Extension.callbacks` puts the callbacks of
the arranged extensions (`runOrder_calls`, `callbacks_arranged`).
-/

namespace TelemetryAuth.Pipeline

variable {α : Type}

/-! ### Callbacks as they are registered -/

/-- A callback with what decides when it runs. -/
structure Registered (α : Type) where
  order : Int
  place : Nat
  index : Nat
  callback : α

/-- The callbacks of one kind of an extension that was registered at a place. -/
def registeredOf (select : Extension → List α) (place : Nat) (extension : Extension) :
    List (Registered α) :=
  (select extension).zipIdx.map fun (callback, index) => ⟨extension.order, place, index, callback⟩

/-- All callbacks of one kind, as they were registered. -/
def registered (select : Extension → List α) (extensions : List Extension) :
    List (Registered α) :=
  extensions.zipIdx.flatMap fun (extension, place) => registeredOf select place extension

/-- Whether a callback runs before another. -/
def Registered.Before (a b : Registered α) : Prop :=
  a.order < b.order ∨
    (a.order = b.order ∧ (a.place < b.place ∨ (a.place = b.place ∧ a.index < b.index)))

/-- The calls of one kind of callbacks: each is called once, and none before one that goes first. -/
structure RunOrder (select : Extension → List α) (extensions : List Extension)
    (calls : List (Registered α)) : Prop where
  once : calls.Perm (registered select extensions)
  sorted : calls.Pairwise Registered.Before

theorem Registered.Before.asymm {a b : Registered α} (h : a.Before b) : ¬ b.Before a := by
  unfold Registered.Before at *
  omega

/-- There is one list of calls. -/
theorem RunOrder.unique {select : Extension → List α} {extensions : List Extension}
    {xs ys : List (Registered α)} (hx : RunOrder select extensions xs)
    (hy : RunOrder select extensions ys) : xs = ys := by
  have hperm : xs.Perm ys := hx.once.trans hy.once.symm
  exact hperm.eq_of_pairwise (fun a b _ _ hab hba => absurd hba hab.asymm) hx.sorted hy.sorted

/-! ### Arranged extensions -/

/-- The extensions of a list with their places, as they were registered. -/
def placed (extensions : List Extension) : List (Nat × Extension) :=
  extensions.zipIdx.map fun (extension, place) => (place, extension)

theorem placed_sorted (extensions : List Extension) :
    (placed extensions).Pairwise fun a b => a.1 < b.1 := by
  have hplaces : (extensions.zipIdx.map Prod.snd).Pairwise fun a b => a < b := by
    rw [List.zipIdx_map_snd]
    exact List.pairwise_lt_range' 1
  exact List.pairwise_map.2 (List.pairwise_map.1 hplaces)

theorem mem_placed_iff {extensions : List Extension} {place : Nat} {extension : Extension} :
    (place, extension) ∈ placed extensions ↔ extensions[place]? = some extension := by
  simp [placed, List.mem_zipIdx_iff_getElem?]

theorem arranged_perm (extensions : List Extension) :
    (Extension.arranged extensions).Perm (placed extensions) :=
  List.mergeSort_perm _ _

private theorem order_trans (a b c : Nat × Extension) :
    decide (a.2.order ≤ b.2.order) = true → decide (b.2.order ≤ c.2.order) = true →
      decide (a.2.order ≤ c.2.order) = true := by
  simp only [decide_eq_true_eq]
  exact Int.le_trans

private theorem order_total (a b : Nat × Extension) :
    (decide (a.2.order ≤ b.2.order) || decide (b.2.order ≤ a.2.order)) = true := by
  simp only [Bool.or_eq_true, decide_eq_true_eq]
  exact Int.le_total _ _

/-- The order of the extensions never falls. -/
theorem order_arranged (extensions : List Extension) :
    (Extension.arranged extensions).Pairwise fun a b => a.2.order ≤ b.2.order :=
  (List.pairwise_mergeSort order_trans order_total _).imp of_decide_eq_true

/-- Extensions with one order stay as they were registered. -/
theorem filter_arranged (extensions : List Extension) (order : Int) :
    (Extension.arranged extensions).filter (fun a => a.2.order = order) =
      (placed extensions).filter fun a => a.2.order = order := by
  let same := (placed extensions).filter fun a => a.2.order = order
  have hsame : ∀ a ∈ same, a.2.order = order := by
    intro a ha
    simpa using (List.mem_filter.1 ha).2
  have hsorted : same.Pairwise fun a b => decide (a.2.order ≤ b.2.order) = true := by
    refine List.pairwise_of_forall_mem_list fun a ha b hb => ?_
    rw [hsame a ha, hsame b hb]
    simp
  -- They are sorted already, so sorting all extensions keeps them as they stand.
  have hkept : same.Sublist (Extension.arranged extensions) :=
    List.sublist_mergeSort order_trans order_total hsorted List.filter_sublist
  have hsublist := hkept.filter fun a => a.2.order = order
  rw [List.filter_eq_self.2 (by simpa using hsame)] at hsublist
  have hlength := ((arranged_perm extensions).filter fun a => a.2.order = order).length_eq
  exact (hsublist.eq_of_length hlength.symm).symm

/-- **Extensions are arranged by order, and by place where the orders are equal.** -/
theorem arranged_sorted (extensions : List Extension) :
    (Extension.arranged extensions).Pairwise fun a b =>
      a.2.order < b.2.order ∨ (a.2.order = b.2.order ∧ a.1 < b.1) := by
  rw [List.pairwise_iff_forall_sublist]
  intro a b hsublist
  have hle : a.2.order ≤ b.2.order :=
    List.pairwise_iff_forall_sublist.1 (order_arranged extensions) hsublist
  rcases Int.lt_or_eq_of_le hle with hlt | heq
  · exact .inl hlt
  · refine .inr ⟨heq, ?_⟩
    have hsame := hsublist.filter fun c => c.2.order = b.2.order
    rw [filter_arranged] at hsame
    have hplaced : [a, b].Sublist (placed extensions) := by
      refine .trans ?_ (hsame.trans List.filter_sublist)
      simp [heq]
    exact List.pairwise_iff_forall_sublist.1 (placed_sorted extensions) hplaced

/-! ### The calls of the arranged extensions -/

/-- The callbacks of one kind of the arranged extensions. -/
def calls (select : Extension → List α) (extensions : List Extension) : List (Registered α) :=
  (Extension.arranged extensions).flatMap fun (place, extension) =>
    registeredOf select place extension

/-- A call as the phases of a build are handed it. -/
def Registered.pair (call : Registered α) : Nat × α := (call.place, call.callback)

theorem callbacks_arranged (select : Extension → List α) (extensions : List Extension) :
    Extension.callbacks select (Extension.arranged extensions) =
      (calls select extensions).map Registered.pair := by
  have hown : ∀ (place : Nat) (extension : Extension),
      (select extension).map (fun callback => (place, callback)) =
        (registeredOf select place extension).map Registered.pair := by
    intro place extension
    unfold registeredOf
    rw [List.map_map]
    conv_lhs => rw [← List.zipIdx_map_fst 0 (select extension), List.map_map]
    rfl
  unfold Extension.callbacks calls
  simp only [hown, List.map_flatMap]

theorem registeredOf_sorted (select : Extension → List α) (place : Nat) (extension : Extension) :
    (registeredOf select place extension).Pairwise Registered.Before := by
  have hindices : ((select extension).zipIdx.map Prod.snd).Pairwise fun a b => a < b := by
    rw [List.zipIdx_map_snd]
    exact List.pairwise_lt_range' 1
  unfold registeredOf
  rw [List.pairwise_map]
  refine (List.pairwise_map.1 hindices).imp fun {a b} hlt => ?_
  exact .inr ⟨rfl, .inr ⟨rfl, hlt⟩⟩

theorem of_mem_registeredOf {select : Extension → List α} {place : Nat} {extension : Extension}
    {call : Registered α} (h : call ∈ registeredOf select place extension) :
    call.order = extension.order ∧ call.place = place := by
  unfold registeredOf at h
  obtain ⟨⟨callback, index⟩, -, rfl⟩ := List.mem_map.1 h
  exact ⟨rfl, rfl⟩

/-- **The callbacks of the arranged extensions are in their order.** -/
theorem runOrder_calls (select : Extension → List α) (extensions : List Extension) :
    RunOrder select extensions (calls select extensions) where
  once := by
    have hregistered : registered select extensions = (placed extensions).flatMap
        fun (place, extension) => registeredOf select place extension := by
      unfold registered placed
      rw [List.flatMap_map]
    rw [hregistered]
    exact (arranged_perm extensions).flatMap_right _
  sorted := by
    refine List.pairwise_flatMap.2 ⟨fun a _ => registeredOf_sorted select a.1 a.2, ?_⟩
    refine (arranged_sorted extensions).imp fun {a b} hbefore x hx y hy => ?_
    obtain ⟨hxOrder, hxPlace⟩ := of_mem_registeredOf hx
    obtain ⟨hyOrder, hyPlace⟩ := of_mem_registeredOf hy
    unfold Registered.Before
    omega

/-- Each extension announces itself once, in the order in which the extensions are arranged. -/
theorem place_calls_announce (extensions : List Extension) :
    (calls (fun _ => [()]) extensions).map (·.place) =
      (Extension.arranged extensions).map Prod.fst := by
  have hone : ∀ a : Nat × Extension,
      (registeredOf (fun _ => [()]) a.1 a.2).map (·.place) = [a.1] := fun _ => rfl
  unfold calls
  simp only [List.map_flatMap, hone]
  exact List.map_eq_flatMap.symm

/-! ### Schedules -/

/-- The calls of a build, each kind of callbacks in its order. -/
structure Schedule (extensions : List Extension) where
  announced : List (Registered Unit)
  suppliers : List (Registered DefaultsSupplier)
  exporterCustomizers : List (Registered ExporterCustomizer)
  resourceCustomizers : List (Registered ResourceCustomizer)
  announced_inOrder : RunOrder (fun _ => [()]) extensions announced
  suppliers_inOrder : RunOrder (·.suppliers) extensions suppliers
  exporterCustomizers_inOrder :
    RunOrder (·.exporterCustomizers) extensions exporterCustomizers
  resourceCustomizers_inOrder :
    RunOrder (·.resourceCustomizers) extensions resourceCustomizers

/-- The schedule of the arranged extensions. -/
def Schedule.ofArranged (extensions : List Extension) : Schedule extensions where
  announced := calls _ extensions
  suppliers := calls _ extensions
  exporterCustomizers := calls _ extensions
  resourceCustomizers := calls _ extensions
  announced_inOrder := runOrder_calls _ extensions
  suppliers_inOrder := runOrder_calls _ extensions
  exporterCustomizers_inOrder := runOrder_calls _ extensions
  resourceCustomizers_inOrder := runOrder_calls _ extensions

/-- There is one schedule. -/
theorem Schedule.eq_ofArranged {extensions : List Extension} (schedule : Schedule extensions) :
    schedule = .ofArranged extensions := by
  obtain ⟨announced, suppliers, exporterCustomizers, resourceCustomizers, h₁, h₂, h₃, h₄⟩ :=
    schedule
  obtain rfl := h₁.unique (runOrder_calls _ extensions)
  obtain rfl := h₂.unique (runOrder_calls _ extensions)
  obtain rfl := h₃.unique (runOrder_calls _ extensions)
  obtain rfl := h₄.unique (runOrder_calls _ extensions)
  rfl

end TelemetryAuth.Pipeline
