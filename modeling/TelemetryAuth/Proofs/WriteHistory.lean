import TelemetryAuth.Proofs.Dictionary
import TelemetryAuth.Properties

/-!
# Properties and the writes behind them

Properties come about by writes, one after the other.  Most writes add to what is there; one kind
collects pairs and begins anew with them.  So what counts after some writes is the list of the pairs
that have been written since properties were collected for the last time (`Standing`), and the
properties are the dictionary of these pairs (`ofWrites_eq`).

Of that list only the last pair of each key can be seen (`ShowsLast`).  Two histories of writes are
therefore told apart by looking at single keys, or not at all.  The main result is
`last_writes_remain`.
-/

namespace TelemetryAuth

/-! ### Writes -/

/-- A write to properties. -/
inductive PropertyWrite
  /-- One value is stored in place. -/
  | insert (key value : String)
  /-- One value is stored, and the properties are handed on. -/
  | including (key value : String)
  /-- Some pairs are added. -/
  | extend (pairs : List (String × String))
  /-- Some pairs are collected and take the place of what was there. -/
  | collect (pairs : List (String × String))

namespace PropertyWrite

/-- The properties after one write. -/
def apply (properties : Properties) : PropertyWrite → Properties
  | .insert key value => properties.insert key value
  | .including key value => properties.insert key value
  | .extend pairs => properties.insertMany pairs
  | .collect pairs => .ofList pairs

/-- The pairs that are written, in order. -/
def pairs : PropertyWrite → List (String × String)
  | .insert key value => [(key, value)]
  | .including key value => [(key, value)]
  | .extend pairs => pairs
  | .collect pairs => pairs

/-- Whether a write leaves what was there under other keys. -/
def Adds (write : PropertyWrite) : Prop := ∀ pairs, write ≠ .collect pairs

/-- A write that adds stores its pairs. -/
theorem apply_of_adds {write : PropertyWrite} (h : write.Adds) (properties : Properties) :
    apply properties write = properties.insertMany write.pairs := by
  cases write with
  | insert key value => rfl
  | including key value => rfl
  | extend pairs => rfl
  | collect pairs => exact absurd rfl (h pairs)

end PropertyWrite

namespace Properties

open Dictionary PropertyWrite

variable {writes : List PropertyWrite} {pairs : List (String × String)}

/-- The properties after some writes, from none at all. -/
def ofWrites (writes : List PropertyWrite) : Properties := writes.foldl apply .empty

/-- The pairs that count after some writes: those written from the last collection on, that one
included, or since the start if nothing was collected. -/
inductive Standing : List PropertyWrite → List (String × String) → Prop
  | started (later : List PropertyWrite) (adds : ∀ write ∈ later, write.Adds) :
      Standing later (later.flatMap PropertyWrite.pairs)
  | collected (earlier : List PropertyWrite) (first : List (String × String))
      (later : List PropertyWrite) (adds : ∀ write ∈ later, write.Adds) :
      Standing (earlier ++ .collect first :: later) (first ++ later.flatMap PropertyWrite.pairs)

/-- After any writes there are pairs that count. -/
theorem exists_standing (writes : List PropertyWrite) : ∃ pairs, Standing writes pairs := by
  induction writes with
  | nil => exact ⟨_, .started [] (by simp)⟩
  | cons write writes ih =>
    obtain ⟨pairs, hpairs⟩ := ih
    cases hpairs with
    | collected earlier first later adds =>
      exact ⟨_, .collected (write :: earlier) first later adds⟩
    | started _ adds =>
      -- Nothing is collected later on, so it depends on this write where the span begins.
      by_cases hcollect : ∃ first, write = .collect first
      · obtain ⟨first, rfl⟩ := hcollect
        exact ⟨_, .collected [] first writes adds⟩
      · have hwrite : write.Adds := fun first heq => hcollect ⟨first, heq⟩
        exact ⟨_, .started (write :: writes) (List.forall_mem_cons.2 ⟨hwrite, adds⟩)⟩

theorem foldl_apply_of_adds (properties : Properties) (h : ∀ write ∈ writes, write.Adds) :
    writes.foldl apply properties = properties.insertMany (writes.flatMap PropertyWrite.pairs) := by
  induction writes generalizing properties with
  | nil => rfl
  | cons write writes ih =>
    obtain ⟨hwrite, hwrites⟩ := List.forall_mem_cons.1 h
    rw [List.foldl_cons, ih _ hwrites, apply_of_adds hwrite, List.flatMap_cons, insertMany_append]

/-- **Properties are the dictionary of the pairs that count.** -/
theorem ofWrites_eq (h : Standing writes pairs) : ofWrites writes = .ofList pairs := by
  cases h with
  | started _ adds => exact foldl_apply_of_adds .empty adds
  | collected earlier first later adds =>
    rw [ofWrites, List.foldl_append, List.foldl_cons, foldl_apply_of_adds _ adds]
    exact (insertMany_append .empty first _).symm

/-! ### What can be seen of a history -/

/-- The numbers of the characters of a key. -/
def codePoints (key : String) : List Nat := key.toList.map Char.toNat

theorem codePoints_lt {a b : String} (h : a < b) : codePoints a < codePoints b :=
  List.map_lt (fun _ _ hlt => hlt) (String.lt_iff.1 h)

/-- Properties show the last value of each key of some pairs: under every key, and in a listing by
increasing keys.  Their size is the number of keys. -/
structure ShowsLast (pairs : List (String × String)) (properties : Properties) : Prop where
  value : ∀ key value, properties.get? key = some value ↔ LastOf pairs key value
  missing : ∀ key, properties.get? key = none ↔ key ∉ pairs.map (·.1)
  listed : ∀ key value, (key, value) ∈ properties.toList ↔ properties.get? key = some value
  increasing : properties.toList.Pairwise fun a b => codePoints a.1 < codePoints b.1
  size : properties.size = (pairs.map (·.1)).dedup.length
  isEmpty : properties.isEmpty = true ↔ properties.size = 0

theorem showsLast_ofList (pairs : List (String × String)) : ShowsLast pairs (.ofList pairs) where
  value _ _ := get?_ofList_eq_some_iff
  missing key := by
    rw [← mem_keys_ofList_iff, mem_keys_iff, ← Option.isSome_iff_exists]
    simp
  listed _ _ := mem_toList_iff
  increasing := (Dictionary.ofList pairs).sorted.imp codePoints_lt
  size := size_ofList pairs
  isEmpty := by
    show (Dictionary.ofList pairs).entries.isEmpty = true ↔
      (Dictionary.ofList pairs).entries.length = 0
    rw [List.isEmpty_iff, List.length_eq_zero_iff]

/-- Properties with the same listing are the same. -/
theorem toList_inj {properties others : Properties} :
    properties.toList = others.toList ↔ properties = others := by
  constructor
  · intro h
    refine ext_get? fun key => ?_
    exact Option.ext fun value => by rw [← mem_toList_iff, ← mem_toList_iff, h]
  · rintro rfl
    rfl

theorem ofWrites_concat (writes : List PropertyWrite) (write : PropertyWrite) :
    ofWrites (writes ++ [write]) = apply (ofWrites writes) write := by
  rw [ofWrites, List.foldl_append]
  rfl

/-- **Only the last writes remain.**

- After any writes there are pairs that count: those written from the last collection on, that one
  included.  Of these the properties show the last value of each key, and nothing else.
- To add some pairs is to insert them one by one, and to collect pairs is to add them to none.
- Properties after two histories are equal, and are listed alike, if and only if they answer alike
  for every key. -/
theorem last_writes_remain :
    (∀ writes, (∃ pairs, Standing writes pairs) ∧
      ∀ pairs, Standing writes pairs → ShowsLast pairs (ofWrites writes)) ∧
    (∀ writes pairs,
      ofWrites (writes ++ [.extend pairs]) =
        ofWrites (writes ++ pairs.map fun pair => .insert pair.1 pair.2) ∧
      ofWrites (writes ++ [.collect pairs]) = ofWrites [.extend pairs]) ∧
    ∀ writes others,
      (ofWrites writes = ofWrites others ↔
        ∀ key, (ofWrites writes).get? key = (ofWrites others).get? key) ∧
      ((ofWrites writes).toList = (ofWrites others).toList ↔
        ∀ key, (ofWrites writes).get? key = (ofWrites others).get? key) := by
  have hequal : ∀ properties others : Properties,
      properties = others ↔ ∀ key, properties.get? key = others.get? key := by
    intro properties others
    constructor
    · rintro rfl key
      rfl
    · exact ext_get?
  refine ⟨fun writes => ⟨exists_standing writes, fun pairs h => ?_⟩, ?_, ?_⟩
  · rw [ofWrites_eq h]
    exact showsLast_ofList pairs
  · intro writes pairs
    have hadds : ∀ write ∈ pairs.map fun pair => PropertyWrite.insert pair.1 pair.2,
        write.Adds := by
      intro write hwrite
      obtain ⟨pair, -, rfl⟩ := List.mem_map.1 hwrite
      exact nofun
    have hpairs : (pairs.map fun pair => PropertyWrite.insert pair.1 pair.2).flatMap
        PropertyWrite.pairs = pairs := by
      rw [List.flatMap_map]
      exact List.flatMap_singleton' pairs
    constructor
    · rw [ofWrites_concat, ofWrites, ofWrites, List.foldl_append, foldl_apply_of_adds _ hadds,
        hpairs]
      rfl
    · rw [ofWrites_concat]
      rfl
  · intro writes others
    exact ⟨hequal _ _, toList_inj.trans (hequal _ _)⟩

/-! ### A history with a collection in the middle -/

/-- Writes before and after a collection that has two values for one key. -/
def writtenTwice : List PropertyWrite :=
  [.insert "gone" "1", .collect [("b", "x"), ("a", "old"), ("b", "y")], .including "😀" "2",
    .extend [("\uffff", "3"), ("a", "new")]]

/-- The pairs that count after them. -/
def standingPairs : List (String × String) :=
  [("b", "x"), ("a", "old"), ("b", "y"), ("😀", "2"), ("\uffff", "3"), ("a", "new")]

theorem last_writes_remain_collected :
    Standing writtenTwice standingPairs ∧
    (ofWrites writtenTwice).get? "gone" = none ∧
    (ofWrites writtenTwice).get? "a" = some "new" ∧
    (ofWrites writtenTwice).size = 4 ∧
    (ofWrites writtenTwice).toList = [("a", "new"), ("b", "y"), ("\uffff", "3"), ("😀", "2")] ∧
    ofWrites writtenTwice
      = ofWrites [.extend [("😀", "2"), ("\uffff", "3"), ("b", "y"), ("a", "new")]] := by
  have hstanding : Standing writtenTwice standingPairs := by
    refine Standing.collected [.insert "gone" "1"] [("b", "x"), ("a", "old"), ("b", "y")]
      [.including "😀" "2", .extend [("\uffff", "3"), ("a", "new")]] ?_
    exact List.forall_mem_cons.2 ⟨nofun, List.forall_mem_singleton.2 nofun⟩
  obtain ⟨hshows, -, hequal⟩ := last_writes_remain
  have hlast := (hshows writtenTwice).2 standingPairs hstanding
  refine ⟨hstanding, (hlast.missing "gone").2 (by decide), (hlast.value "a" "new").2 ?_,
    hlast.size.trans (by decide), by decide +kernel, ?_⟩
  · exact ⟨standingPairs.dropLast, [], rfl, by simp⟩
  · exact ((hequal _ _).2.trans (hequal _ _).1.symm).1 (by decide +kernel)

end Properties

end TelemetryAuth
