/-!
# Dictionaries with string keys

A `Dictionary α` holds at most one value per key and keeps its keys in strictly increasing order
of code points.  Property maps, static headers, resource attributes and the fields of a log line
are all dictionaries, so the order in which they are listed is fixed here once.

The view of a dictionary is `get?`.  Each operation is pinned down by what it does to that view
(`get?_empty`, `get?_insert`, `get?_insertMany`), and two dictionaries with the same view are equal
(`ext_get?`): because the entries are sorted, the list of entries carries no history.
-/

namespace TelemetryAuth

/-- A finite map from strings to `α`, listed in strictly increasing order of its keys. -/
structure Dictionary (α : Type) where
  entries : List (String × α)
  sorted : entries.Pairwise (fun a b => a.1 < b.1)

namespace Dictionary

variable {α β : Type}

/-! ### The order of keys -/

private theorem lt_of_lt_of_key_lt {a b c : String} (h₁ : a < b) (h₂ : b < c) : a < c :=
  List.lt_trans (α := Char) h₁ h₂

private theorem key_lt_irrefl (a : String) : ¬ a < a :=
  List.lt_irrefl (α := Char) a.toList

private theorem key_lt_of_not_lt_of_ne {a b : String} (h : ¬ a < b) (hne : a ≠ b) : b < a :=
  Decidable.byContradiction fun hba => hne (String.le_antisymm hba h)

/-! ### Entries -/

/-- Puts a key at its place in a sorted list of entries; an entry with that key is replaced. -/
def insertEntry (key : String) (value : α) : List (String × α) → List (String × α)
  | [] => [(key, value)]
  | (k, v) :: rest =>
    if key < k then (key, value) :: (k, v) :: rest
    else if key = k then (key, value) :: rest
    else (k, v) :: insertEntry key value rest

/-- The value stored under a key in a list of entries. -/
def findEntry (key : String) : List (String × α) → Option α
  | [] => none
  | (k, v) :: rest => if k = key then some v else findEntry key rest

theorem mem_insertEntry {key : String} {value : α} {entry : String × α}
    {entries : List (String × α)} (h : entry ∈ insertEntry key value entries) :
    entry = (key, value) ∨ entry ∈ entries := by
  induction entries with
  | nil => simpa [insertEntry] using h
  | cons head rest ih =>
    obtain ⟨k, v⟩ := head
    rw [insertEntry] at h
    split at h
    · simpa using h
    · split at h
      · rcases List.mem_cons.1 h with h | h
        · exact .inl h
        · exact .inr (List.mem_cons_of_mem _ h)
      · rcases List.mem_cons.1 h with h | h
        · exact .inr (h ▸ List.mem_cons_self)
        · exact (ih h).imp_right (List.mem_cons_of_mem _)

theorem pairwise_insertEntry {key : String} {value : α} {entries : List (String × α)}
    (h : entries.Pairwise (fun a b => a.1 < b.1)) :
    (insertEntry key value entries).Pairwise (fun a b => a.1 < b.1) := by
  induction entries with
  | nil => exact List.pairwise_singleton _ _
  | cons head rest ih =>
    obtain ⟨k, v⟩ := head
    have hhead := (List.pairwise_cons.1 h).1
    have hrest := (List.pairwise_cons.1 h).2
    rw [insertEntry]
    split
    next hlt =>
      refine List.pairwise_cons.2 ⟨fun entry hmem => ?_, h⟩
      rcases List.mem_cons.1 hmem with rfl | hmem
      · exact hlt
      · exact lt_of_lt_of_key_lt hlt (hhead entry hmem)
    next hlt =>
      split
      next heq =>
        subst heq
        exact List.pairwise_cons.2 ⟨hhead, hrest⟩
      next hne =>
        refine List.pairwise_cons.2 ⟨fun entry hmem => ?_, ih hrest⟩
        rcases mem_insertEntry hmem with rfl | hmem
        · exact key_lt_of_not_lt_of_ne hlt hne
        · exact hhead entry hmem

theorem findEntry_insertEntry (key other : String) (value : α) (entries : List (String × α)) :
    findEntry other (insertEntry key value entries)
      = if key = other then some value else findEntry other entries := by
  induction entries with
  | nil => rfl
  | cons head rest ih =>
    obtain ⟨k, v⟩ := head
    rw [insertEntry]
    split
    · rfl
    · split
      next heq => subst heq; simp only [findEntry]; split <;> rfl
      next hne =>
        simp only [findEntry, ih]
        by_cases hk : k = other
        · subst hk; simp [hne]
        · simp [hk]

theorem findEntry_map (f : α → β) (key : String) (entries : List (String × α)) :
    findEntry key (entries.map fun entry => (entry.1, f entry.2)) =
      (findEntry key entries).map f := by
  induction entries with
  | nil => rfl
  | cons head rest ih =>
    obtain ⟨k, v⟩ := head
    simp only [List.map_cons, findEntry, ih]
    split <;> rfl

/-! ### Operations -/

/-- The dictionary without keys. -/
def empty : Dictionary α := ⟨[], .nil⟩

instance : Inhabited (Dictionary α) := ⟨empty⟩

/-- Stores a value under a key, in place of any earlier value. -/
def insert (d : Dictionary α) (key : String) (value : α) : Dictionary α :=
  ⟨insertEntry key value d.entries, pairwise_insertEntry d.sorted⟩

/-- Stores the pairs one after the other, so that of two pairs with one key the later stays. -/
def insertMany (d : Dictionary α) (pairs : List (String × α)) : Dictionary α :=
  pairs.foldl (fun acc pair => acc.insert pair.1 pair.2) d

/-- The dictionary of a list of pairs; a later pair wins. -/
def ofList (pairs : List (String × α)) : Dictionary α := empty.insertMany pairs

/-- The value stored under a key. -/
def get? (d : Dictionary α) (key : String) : Option α := findEntry key d.entries

/-- The entries in the order of their keys. -/
def toList (d : Dictionary α) : List (String × α) := d.entries

/-- The keys in increasing order. -/
def keys (d : Dictionary α) : List String := d.entries.map (·.1)

/-- The number of keys. -/
def size (d : Dictionary α) : Nat := d.entries.length

/-- Whether there is no key. -/
def isEmpty (d : Dictionary α) : Bool := d.entries.isEmpty

/-- Changes every value and no key. -/
def mapValues (f : α → β) (d : Dictionary α) : Dictionary β :=
  ⟨d.entries.map fun entry => (entry.1, f entry.2), List.pairwise_map.2 d.sorted⟩

/-! ### The view -/

@[simp] theorem get?_empty (key : String) : (empty : Dictionary α).get? key = none := rfl

@[simp] theorem get?_insert (d : Dictionary α) (key other : String) (value : α) :
    (d.insert key value).get? other = if key = other then some value else d.get? other :=
  findEntry_insertEntry key other value d.entries

@[simp] theorem get?_mapValues (f : α → β) (d : Dictionary α) (key : String) :
    (d.mapValues f).get? key = (d.get? key).map f :=
  findEntry_map f key d.entries

@[simp] theorem insertMany_nil (d : Dictionary α) : d.insertMany [] = d := rfl

@[simp] theorem insertMany_cons (d : Dictionary α) (pair : String × α)
    (pairs : List (String × α)) :
    d.insertMany (pair :: pairs) = (d.insert pair.1 pair.2).insertMany pairs := rfl

theorem insertMany_append (d : Dictionary α) (xs ys : List (String × α)) :
    d.insertMany (xs ++ ys) = (d.insertMany xs).insertMany ys :=
  List.foldl_append

/-- The last pair of a key decides; without any, the value from before stays. -/
theorem get?_insertMany (d : Dictionary α) (pairs : List (String × α)) (key : String) :
    (d.insertMany pairs).get? key
      = ((pairs.reverse.find? fun pair => pair.1 = key).map (·.2)).or (d.get? key) := by
  induction pairs generalizing d with
  | nil => rfl
  | cons pair rest ih =>
    rw [insertMany_cons, ih, get?_insert, List.reverse_cons, List.find?_append]
    cases rest.reverse.find? fun pair => pair.1 = key with
    | some found => rfl
    | none => by_cases h : pair.1 = key <;> simp [h]

private theorem mem_of_findEntry {key : String} {value : α} {entries : List (String × α)}
    (h : findEntry key entries = some value) : (key, value) ∈ entries := by
  induction entries with
  | nil => simp [findEntry] at h
  | cons head rest ih =>
    obtain ⟨k, v⟩ := head
    rw [findEntry] at h
    split at h
    next heq => subst heq; cases h; exact List.mem_cons_self
    next => exact List.mem_cons_of_mem _ (ih h)

private theorem findEntry_of_mem {key : String} {value : α} {entries : List (String × α)}
    (hsorted : entries.Pairwise (fun a b => a.1 < b.1)) (h : (key, value) ∈ entries) :
    findEntry key entries = some value := by
  induction entries with
  | nil => cases h
  | cons head rest ih =>
    obtain ⟨hhead, hrest⟩ := List.pairwise_cons.1 hsorted
    rcases List.mem_cons.1 h with rfl | h
    · exact if_pos rfl
    · have hlt : head.1 < key := hhead _ h
      have hne : head.1 ≠ key := by
        intro heq
        rw [heq] at hlt
        exact key_lt_irrefl _ hlt
      rw [findEntry, if_neg hne, ih hrest h]

/-- The entries are what the view answers. -/
theorem mem_toList_iff {d : Dictionary α} {key : String} {value : α} :
    (key, value) ∈ d.toList ↔ d.get? key = some value :=
  ⟨findEntry_of_mem d.sorted, mem_of_findEntry⟩

private theorem findEntry_of_forall_lt {key : String} {entries : List (String × α)}
    (h : ∀ entry ∈ entries, key < entry.1) : findEntry key entries = none := by
  cases hf : findEntry key entries with
  | none => rfl
  | some value => exact absurd (h _ (mem_of_findEntry hf)) (key_lt_irrefl key)

private theorem entries_eq_of_findEntry {xs ys : List (String × α)}
    (hx : xs.Pairwise (fun a b => a.1 < b.1)) (hy : ys.Pairwise (fun a b => a.1 < b.1))
    (h : ∀ key, findEntry key xs = findEntry key ys) : xs = ys := by
  induction xs generalizing ys with
  | nil =>
    cases ys with
    | nil => rfl
    | cons head rest => exact absurd (h head.1) (by simp [findEntry])
  | cons headX restX ih =>
    obtain ⟨kx, vx⟩ := headX
    cases ys with
    | nil => exact absurd (h kx) (by simp [findEntry])
    | cons headY restY =>
      obtain ⟨ky, vy⟩ := headY
      have hxHead := (List.pairwise_cons.1 hx).1
      have hyHead := (List.pairwise_cons.1 hy).1
      have hkey : kx = ky := by
        rcases Decidable.em (kx = ky) with heq | hne
        · exact heq
        · have hX : findEntry kx ((ky, vy) :: restY) = some vx := by
            rw [← h kx]; simp [findEntry]
          have hY : findEntry ky ((kx, vx) :: restX) = some vy := by
            rw [h ky]; simp [findEntry]
          rw [findEntry, if_neg (Ne.symm hne)] at hX
          rw [findEntry, if_neg hne] at hY
          exact absurd
            (lt_of_lt_of_key_lt (hxHead _ (mem_of_findEntry hY)) (hyHead _ (mem_of_findEntry hX)))
            (key_lt_irrefl kx)
      subst hkey
      have hval : vx = vy := by simpa [findEntry] using h kx
      subst hval
      refine congrArg _ (ih (List.pairwise_cons.1 hx).2 (List.pairwise_cons.1 hy).2 fun key => ?_)
      have hk := h key
      rw [findEntry, findEntry] at hk
      split at hk
      next heq =>
        subst heq
        rw [findEntry_of_forall_lt hxHead, findEntry_of_forall_lt hyHead]
      next => exact hk

/-- Storing a dictionary lays it over what is there. -/
theorem get?_insertMany_toList (d e : Dictionary α) (key : String) :
    (d.insertMany e.toList).get? key = (e.get? key).or (d.get? key) := by
  obtain ⟨entries, hsorted⟩ := e
  show (d.insertMany entries).get? key = (findEntry key entries).or (d.get? key)
  induction entries generalizing d with
  | nil => rfl
  | cons head rest ih =>
    obtain ⟨k, v⟩ := head
    obtain ⟨hhead, hrest⟩ := List.pairwise_cons.1 hsorted
    rw [insertMany_cons, ih _ hrest, get?_insert, findEntry]
    by_cases hkey : k = key
    · subst hkey
      rw [findEntry_of_forall_lt hhead]
      simp
    · simp [hkey]

/-- **A dictionary is its view.** Two dictionaries that answer alike for every key are equal. -/
theorem ext_get? {d e : Dictionary α} (h : ∀ key, d.get? key = e.get? key) : d = e := by
  obtain ⟨xs, hx⟩ := d
  obtain ⟨ys, hy⟩ := e
  have : xs = ys := entries_eq_of_findEntry hx hy h
  subst this
  rfl

end Dictionary

instance {α : Type} [DecidableEq α] : DecidableEq (Dictionary α) := fun d e =>
  if h : d.entries = e.entries then
    .isTrue (by cases d; cases e; cases h; rfl)
  else
    .isFalse fun heq => h (congrArg Dictionary.entries heq)

end TelemetryAuth
