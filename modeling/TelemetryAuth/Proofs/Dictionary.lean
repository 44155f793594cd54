import Mathlib.Data.List.Dedup
import Mathlib.Data.List.Perm.Basic
import TelemetryAuth.Dictionary

/-!
# Layers of dictionaries

Settings come in layers, each a dictionary, and a layer is laid over those below it
(`Dictionary.layered`).  The value of a key is then that of the topmost layer that has it
(`get?_layered`).

A layer may also be a list of pairs.  Of the pairs that have a key, the last one decides
(`get?_insertMany_eq_some_iff`), so what matters is only what a list is for each key, in order
(`insertMany_congr`).

A layer that comes from a hash map is listed in an order of its own.  As its keys are distinct, the
order makes no difference (`insertMany_of_perm`).
-/

namespace TelemetryAuth.Dictionary

variable {α : Type}

/-! ### Layers -/

/-- The dictionary `bottom` under some layers, the last of which is on top. -/
def layered (bottom : Dictionary α) (layers : List (Dictionary α)) : Dictionary α :=
  layers.foldl (fun below layer => below.insertMany layer.toList) bottom

/-- The value in the last of some layers that has a key. -/
def topmost? (layers : List (Dictionary α)) (key : String) : Option α :=
  layers.reverse.findSome? fun layer => layer.get? key

@[simp] theorem layered_nil (bottom : Dictionary α) : bottom.layered [] = bottom := rfl

@[simp] theorem layered_cons (bottom layer : Dictionary α) (layers : List (Dictionary α)) :
    bottom.layered (layer :: layers) = (bottom.insertMany layer.toList).layered layers := rfl

/-- **The topmost layer that has a key decides.** -/
theorem get?_layered (bottom : Dictionary α) (layers : List (Dictionary α)) (key : String) :
    (bottom.layered layers).get? key = (topmost? layers key).or (bottom.get? key) := by
  induction layers generalizing bottom with
  | nil => rfl
  | cons layer layers ih =>
    have htop : topmost? (layer :: layers) key = (topmost? layers key).or (layer.get? key) := by
      simp [topmost?, List.findSome?_append]
    rw [layered_cons, ih, get?_insertMany_toList, htop, Option.or_assoc]

/-! ### Dictionaries of lists -/

/-- The dictionary of two lists is that of the second over that of the first. -/
theorem ofList_append (xs ys : List (String × α)) :
    ofList (xs ++ ys) = (ofList xs).insertMany (ofList ys).toList := by
  refine ext_get? fun key => ?_
  unfold ofList
  rw [get?_insertMany_toList, insertMany_append, get?_insertMany, get?_insertMany empty ys,
    get?_empty, Option.or_none]

theorem ofList_toList (d : Dictionary α) : ofList d.toList = d := by
  refine ext_get? fun key => ?_
  rw [ofList, get?_insertMany_toList, get?_empty, Option.or_none]

/-! ### The last pair of a key -/

/-- Of the pairs of a list that have a key, the last one has a value. -/
def LastOf (pairs : List (String × α)) (key : String) (value : α) : Prop :=
  ∃ earlier later, pairs = earlier ++ (key, value) :: later ∧ ∀ pair ∈ later, pair.1 ≠ key

theorem LastOf.mem {pairs : List (String × α)} {key : String} {value : α}
    (h : LastOf pairs key value) : (key, value) ∈ pairs := by
  obtain ⟨earlier, later, rfl, -⟩ := h
  exact List.mem_append_cons_self

/-- If the keys of some pairs are distinct, each pair is the last one of its key. -/
theorem lastOf_iff_mem {pairs : List (String × α)} (h : (pairs.map (·.1)).Nodup) {key : String}
    {value : α} : LastOf pairs key value ↔ (key, value) ∈ pairs := by
  constructor
  · exact LastOf.mem
  · intro hmem
    obtain ⟨earlier, later, rfl⟩ := List.append_of_mem hmem
    refine ⟨earlier, later, rfl, fun pair hpair hkey => ?_⟩
    rw [List.map_append, List.map_cons, List.nodup_middle, List.nodup_cons] at h
    exact h.1 (List.mem_append_right _ (List.mem_map.2 ⟨pair, hpair, hkey⟩))

/-- **The last pair of a key decides on it**, and without any the value from before stays. -/
theorem get?_insertMany_eq_some_iff {d : Dictionary α} {pairs : List (String × α)} {key : String}
    {value : α} :
    (d.insertMany pairs).get? key = some value ↔
      LastOf pairs key value ∨ (∀ pair ∈ pairs, pair.1 ≠ key) ∧ d.get? key = some value := by
  have hfound : ∀ pair, (pairs.reverse.find? fun pair => pair.1 = key) = some pair ↔
      pair.1 = key ∧ LastOf pairs key pair.2 := by
    rintro ⟨own, stored⟩
    rw [List.find?_eq_some_iff_append]
    constructor
    · rintro ⟨hkey, later, earlier, hpairs, hlater⟩
      obtain rfl : own = key := by simpa using hkey
      refine ⟨rfl, earlier.reverse, later.reverse, ?_, fun pair hpair => ?_⟩
      · rw [← List.reverse_reverse pairs, hpairs]
        simp
      · simpa using hlater pair (List.mem_reverse.1 hpair)
    · rintro ⟨rfl, earlier, later, rfl, hlater⟩
      refine ⟨by simp, later.reverse, earlier.reverse, by simp, fun pair hpair => ?_⟩
      simpa using hlater pair (List.mem_reverse.1 hpair)
  rw [get?_insertMany]
  cases hcase : pairs.reverse.find? fun pair => pair.1 = key with
  | none =>
    have hnone : ∀ pair ∈ pairs, pair.1 ≠ key := by
      intro pair hpair
      simpa using List.find?_eq_none.1 hcase pair (List.mem_reverse.2 hpair)
    constructor
    · intro h
      exact .inr ⟨hnone, h⟩
    · rintro (hlast | ⟨-, h⟩)
      · cases hcase.symm.trans ((hfound (key, value)).2 ⟨rfl, hlast⟩)
      · exact h
  | some pair =>
    obtain ⟨own, stored⟩ := pair
    obtain ⟨rfl, hlast⟩ := (hfound (own, stored)).1 hcase
    constructor
    · intro h
      obtain rfl : stored = value := Option.some.inj h
      exact .inl hlast
    · rintro (hother | ⟨hnone, -⟩)
      · have hsame := hcase.symm.trans ((hfound (own, value)).2 ⟨rfl, hother⟩)
        cases hsame
        rfl
      · exact absurd rfl (hnone (own, stored) hlast.mem)

theorem get?_ofList_eq_some_iff {pairs : List (String × α)} {key : String} {value : α} :
    (ofList pairs).get? key = some value ↔ LastOf pairs key value := by
  rw [ofList, get?_insertMany_eq_some_iff, get?_empty]
  simp

/-- A key is in a dictionary if some pair has it, or it was there before. -/
theorem get?_insertMany_eq_none_iff {d : Dictionary α} {pairs : List (String × α)}
    {key : String} :
    (d.insertMany pairs).get? key = none ↔
      (∀ pair ∈ pairs, pair.1 ≠ key) ∧ d.get? key = none := by
  rw [get?_insertMany, Option.or_eq_none_iff, Option.map_eq_none_iff, List.find?_eq_none]
  simp

/-- If a key stands in some pair, one of the pairs is its last. -/
theorem exists_lastOf {pairs : List (String × α)} {key : String}
    (h : ∃ pair ∈ pairs, pair.1 = key) : ∃ value, LastOf pairs key value := by
  obtain ⟨pair, hpair, hkey⟩ := h
  cases hcase : (ofList pairs).get? key with
  | some value => exact ⟨value, get?_ofList_eq_some_iff.1 hcase⟩
  | none => exact absurd hkey ((get?_insertMany_eq_none_iff.1 hcase).1 pair hpair)

/-- Storing pairs depends only on what they are for each key, in order. -/
theorem insertMany_congr (d : Dictionary α) {xs ys : List (String × α)}
    (h : ∀ key, xs.filter (·.1 = key) = ys.filter (·.1 = key)) :
    d.insertMany xs = d.insertMany ys := by
  refine ext_get? fun key => ?_
  rw [get?_insertMany, get?_insertMany, ← List.head?_filter, ← List.head?_filter,
    List.filter_reverse, List.filter_reverse, h key]

/-- Storing the same pairs again changes nothing. -/
theorem insertMany_self (d : Dictionary α) (pairs : List (String × α)) :
    (d.insertMany pairs).insertMany pairs = d.insertMany pairs := by
  refine ext_get? fun key => ?_
  rw [get?_insertMany, get?_insertMany, ← Option.or_assoc, Option.or_self]

/-! ### The order of the entries of a layer -/

theorem insert_comm (d : Dictionary α) {x y : String × α} (h : x.1 ≠ y.1) :
    (d.insert x.1 x.2).insert y.1 y.2 = (d.insert y.1 y.2).insert x.1 x.2 := by
  refine ext_get? fun key => ?_
  simp only [get?_insert]
  split_ifs with hy hx
  · exact absurd (hx.trans hy.symm) h
  · rfl
  · rfl
  · rfl

/-- Pairs with distinct keys may be stored in any order. -/
theorem insertMany_of_perm (d : Dictionary α) {xs ys : List (String × α)} (h : xs.Perm ys)
    (hkeys : (xs.map (·.1)).Nodup) : d.insertMany xs = d.insertMany ys := by
  refine h.foldl_eq' (fun x hx y hy below => ?_) d
  by_cases hkey : x.1 = y.1
  · rw [List.inj_on_of_nodup_map hkeys hx hy hkey]
  · exact insert_comm below hkey

/-! ### Keys -/

/-- The keys of a dictionary are distinct. -/
theorem nodup_keys (d : Dictionary α) : (d.toList.map (·.1)).Nodup := by
  refine List.pairwise_map.2 (d.sorted.imp fun {a b} hlt heq => ?_)
  rw [heq] at hlt
  exact String.lt_irrefl _ hlt

theorem mem_keys_iff {d : Dictionary α} {key : String} :
    key ∈ d.keys ↔ ∃ value, d.get? key = some value := by
  constructor
  · intro h
    obtain ⟨⟨own, value⟩, hmem, rfl⟩ := List.mem_map.1 h
    exact ⟨value, mem_toList_iff.1 hmem⟩
  · rintro ⟨value, hvalue⟩
    exact List.mem_map_of_mem (mem_toList_iff.2 hvalue)

theorem mem_keys_ofList_iff {pairs : List (String × α)} {key : String} :
    key ∈ (ofList pairs).keys ↔ key ∈ pairs.map (·.1) := by
  have hnone : (ofList pairs).get? key = none ↔ ∀ pair ∈ pairs, pair.1 ≠ key := by
    rw [ofList, get?_insertMany_eq_none_iff, get?_empty]
    simp
  rw [mem_keys_iff, ← Option.isSome_iff_exists, ← Option.ne_none_iff_isSome, ne_eq, hnone]
  simp

/-- A dictionary has one entry for each key that some pair has. -/
theorem size_ofList (pairs : List (String × α)) :
    (ofList pairs).size = (pairs.map (·.1)).dedup.length := by
  have hsame : (ofList pairs).keys.Perm (pairs.map (·.1)).dedup := by
    refine (List.perm_ext_iff_of_nodup (nodup_keys _) (List.nodup_dedup _)).2 fun key => ?_
    show key ∈ (ofList pairs).keys ↔ _
    rw [mem_keys_ofList_iff, List.mem_dedup]
  have hlength : (ofList pairs).size = (ofList pairs).keys.length := (List.length_map _).symm
  rw [hlength, hsame.length_eq]

end TelemetryAuth.Dictionary
