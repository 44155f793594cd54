import TelemetryAuth.Proofs.Dictionary
import TelemetryAuth.Proofs.Text.Trim
import TelemetryAuth.Properties

/-!
# Maps that are written as lists

A map is written as pieces between commas (`Pieces`), each with a key and a value around its first
equals sign and blanks around both (`Writes`).  Reading such a text goes through several loops; what
it comes to is said in terms of the pieces only: a key has the value of the last piece that writes
it, unless it is empty.

From the other side, `Written` says which pieces write given entries, with any blanks and with
pieces in between that say nothing.  The main result is `last_piece_decides`: what reading answers
for every text, how it treats two texts with a comma between them, and that it inverts writing.
-/

namespace TelemetryAuth

namespace Text

variable {separator : Char} {cs piece : List Char} {pieces : List (List Char)}
  {key value : String}

/-! ### Pieces -/

/-- The pieces of a text between separators: there is one at least, none of them has a separator,
and the text is the pieces with a separator between each two. -/
structure Pieces (separator : Char) (cs : List Char) (pieces : List (List Char)) : Prop where
  ne_nil : pieces ≠ []
  free : ∀ piece ∈ pieces, separator ∉ piece
  joined : [separator].intercalate pieces = cs

theorem splitAll_eq_splitOn (separator : Char) (cs : List Char) :
    splitAll separator cs = cs.splitOn separator := by
  induction cs with
  | nil => simp [splitAll]
  | cons c rest ih =>
    rw [splitAll, List.splitOn_cons_eq_if_modifyHead, ← ih]
    by_cases h : c = separator
    · simp [h]
    · rw [if_neg h, if_neg (by simpa using h)]
      cases hrest : splitAll separator rest with
      | nil => exact absurd hrest (splitAll_ne_nil separator rest)
      | cons first others => rfl

theorem not_mem_of_mem_splitAll (h : piece ∈ splitAll separator cs) : separator ∉ piece := by
  induction cs generalizing piece with
  | nil =>
    obtain rfl : piece = [] := by simpa [splitAll] using h
    exact List.not_mem_nil
  | cons c rest ih =>
    rw [splitAll] at h
    by_cases hc : c = separator
    · rw [if_pos hc] at h
      rcases List.mem_cons.1 h with rfl | h
      · exact List.not_mem_nil
      · exact ih h
    · rw [if_neg hc] at h
      cases hrest : splitAll separator rest with
      | nil => exact absurd hrest (splitAll_ne_nil separator rest)
      | cons first others =>
        -- The character stands in front of the first piece of the rest.
        rw [hrest] at h ih
        rcases List.mem_cons.1 h with rfl | h
        · intro hmem
          rcases List.mem_cons.1 hmem with heq | hmem
          · exact hc heq.symm
          · exact ih List.mem_cons_self hmem
        · exact ih (List.mem_cons_of_mem _ h)

/-- A text has one list of pieces, the one that splitting gives. -/
theorem pieces_iff : Pieces separator cs pieces ↔ splitAll separator cs = pieces := by
  constructor
  · rintro ⟨hne, hfree, rfl⟩
    rw [splitAll_eq_splitOn]
    exact List.splitOn_intercalate separator hfree hne
  · rintro rfl
    refine ⟨splitAll_ne_nil separator cs, fun piece hmem => not_mem_of_mem_splitAll hmem, ?_⟩
    rw [splitAll_eq_splitOn]
    exact List.intercalate_splitOn separator

/-! ### One piece -/

/-- A piece writes a key and a value: they stand around its first equals sign, between blanks. -/
def Writes (piece : List Char) (key value : String) : Prop :=
  ∃ before after, piece = before ++ '=' :: after ∧ '=' ∉ before ∧
    Trims before key.toList ∧ Trims after value.toList

theorem keyValue?_eq_some_iff : keyValue? piece = some (key, value) ↔ Writes piece key value := by
  constructor
  · intro h
    obtain ⟨⟨before, after⟩, hsplit, hentry⟩ := Option.map_eq_some_iff.1 h
    obtain ⟨hpiece, hfree⟩ := splitFirst_eq_some_iff.1 hsplit
    obtain ⟨rfl, rfl⟩ := Prod.mk.inj hentry
    refine ⟨before, after, hpiece, hfree, ?_, ?_⟩
    · rw [String.toList_ofList]
      exact trims_trim before
    · rw [String.toList_ofList]
      exact trims_trim after
  · rintro ⟨before, after, hpiece, hfree, hkey, hvalue⟩
    rw [keyValue?, splitFirst_eq_some_iff.2 ⟨hpiece, hfree⟩, Option.map_some]
    show some (String.ofList (trim before), String.ofList (trim after)) = some (key, value)
    rw [hkey.trim_eq, hvalue.trim_eq, String.ofList_toList, String.ofList_toList]

/-- The entry that a piece adds to a map, if it adds one. -/
def namedKeyValue? (piece : List Char) : Option (String × String) :=
  (keyValue? piece).filter fun entry => entry.1 ≠ ""

theorem namedKeyValue?_eq_some_iff :
    namedKeyValue? piece = some (key, value) ↔ key ≠ "" ∧ Writes piece key value := by
  rw [namedKeyValue?, Option.filter_eq_some_iff, keyValue?_eq_some_iff, decide_eq_true_iff]
  exact and_comm

theorem namedKeyValues_eq (text : String) :
    namedKeyValues text = (splitAll ',' text.toList).filterMap namedKeyValue? := by
  rw [namedKeyValues, keyValues, List.filter_filterMap]
  rfl

/-! ### Writing -/

/-- A piece says nothing: it has no equals sign, or its key is empty. -/
structure Idle (piece : List Char) : Prop where
  free : ',' ∉ piece
  keyless : '=' ∉ piece ∨ ∃ blanks after, piece = blanks ++ '=' :: after ∧ AllBlank blanks

/-- Pieces write entries in their order, with any blanks around keys and values and with any pieces
in between that say nothing. -/
inductive Written : List (String × String) → List (List Char) → Prop
  | nothing : Written [] []
  | entry {key value : String} {front behind ahead back : List Char}
      {entries : List (String × String)} {pieces : List (List Char)} (front_blank : AllBlank front)
      (behind_blank : AllBlank behind) (ahead_blank : AllBlank ahead) (back_blank : AllBlank back)
      (rest : Written entries pieces) :
      Written ((key, value) :: entries)
        ((front ++ key.toList ++ behind ++ '=' :: (ahead ++ value.toList ++ back)) :: pieces)
  | idle {piece : List Char} {entries : List (String × String)} {pieces : List (List Char)}
      (idle : Idle piece) (rest : Written entries pieces) : Written entries (piece :: pieces)

/-- An entry can be written: the key is not empty, neither key nor value has a comma or a blank at
an end, and the key has no equals sign. -/
structure Listable (entry : String × String) : Prop where
  key_ne_empty : entry.1 ≠ ""
  key_free : ',' ∉ entry.1.toList ∧ '=' ∉ entry.1.toList
  value_free : ',' ∉ entry.2.toList
  key_trim : trim entry.1.toList = entry.1.toList
  value_trim : trim entry.2.toList = entry.2.toList

theorem not_mem_of_allBlank {c : Char} (h : AllBlank cs) (hc : isBlank c = false) : c ∉ cs := by
  intro hmem
  have hblank := h c hmem
  rw [hc] at hblank
  cases hblank

theorem namedKeyValue?_of_idle (h : Idle piece) : namedKeyValue? piece = none := by
  rw [Option.eq_none_iff_forall_ne_some]
  rintro ⟨key, value⟩ hsome
  obtain ⟨hkey, before, after, hpiece, hfree, htrims, -⟩ := namedKeyValue?_eq_some_iff.1 hsome
  rcases h.keyless with hnone | ⟨blanks, rest, hblanks, hblank⟩
  · exact hnone (by simp [hpiece])
  · -- The first equals sign stands behind the blanks, so the key between them is empty.
    have hfirst := splitFirst_eq_some_iff.2 ⟨hpiece, hfree⟩
    have hblankFree : '=' ∉ blanks := not_mem_of_allBlank hblank (by decide)
    rw [splitFirst_eq_some_iff.2 ⟨hblanks, hblankFree⟩] at hfirst
    obtain ⟨rfl, -⟩ := Prod.mk.inj (Option.some.inj hfirst)
    have hnil : key.toList = [] := htrims.trim_eq.symm.trans (trim_of_allBlank hblank)
    exact hkey (String.toList_eq_nil_iff.1 hnil)

/-- A piece for an entry with blanks around key and value adds this entry. -/
theorem namedKeyValue?_of_listable {front behind ahead back : List Char}
    (h : Listable (key, value)) (hfront : AllBlank front) (hbehind : AllBlank behind)
    (hahead : AllBlank ahead) (hback : AllBlank back) :
    namedKeyValue? (front ++ key.toList ++ behind ++ '=' :: (ahead ++ value.toList ++ back)) =
      some (key, value) := by
  have hequals : isBlank '=' = false := by decide
  refine namedKeyValue?_eq_some_iff.2 ⟨h.key_ne_empty, _, _, rfl, ?_, ?_, ?_⟩
  · simp only [List.mem_append, not_or]
    exact ⟨⟨not_mem_of_allBlank hfront hequals, h.key_free.2⟩, not_mem_of_allBlank hbehind hequals⟩
  · exact ⟨front, behind, rfl, hfront, hbehind, trim_eq_self_iff.1 h.key_trim⟩
  · exact ⟨ahead, back, rfl, hahead, hback, trim_eq_self_iff.1 h.value_trim⟩

/-- Reading the pieces gives the entries. -/
theorem Written.filterMap_eq {entries : List (String × String)} (h : Written entries pieces)
    (hlistable : ∀ entry ∈ entries, Listable entry) :
    pieces.filterMap namedKeyValue? = entries := by
  induction h with
  | nothing => rfl
  | entry hfront hbehind hahead hback rest ih =>
    obtain ⟨hentry, hrest⟩ := List.forall_mem_cons.1 hlistable
    rw [List.filterMap_cons_some
      (namedKeyValue?_of_listable hentry hfront hbehind hahead hback), ih hrest]
  | idle hidle rest ih =>
    rw [List.filterMap_cons_none (namedKeyValue?_of_idle hidle), ih hlistable]

/-- No piece has a comma. -/
theorem Written.free {entries : List (String × String)} (h : Written entries pieces)
    (hlistable : ∀ entry ∈ entries, Listable entry) : ∀ piece ∈ pieces, ',' ∉ piece := by
  have hcomma : isBlank ',' = false := by decide
  induction h with
  | nothing => exact List.forall_mem_nil _
  | entry hfront hbehind hahead hback rest ih =>
    obtain ⟨hentry, hrest⟩ := List.forall_mem_cons.1 hlistable
    refine List.forall_mem_cons.2 ⟨?_, ih hrest⟩
    simp only [List.mem_append, List.mem_cons, not_or]
    exact ⟨⟨⟨not_mem_of_allBlank hfront hcomma, hentry.key_free.1⟩,
      not_mem_of_allBlank hbehind hcomma⟩, by decide,
      ⟨not_mem_of_allBlank hahead hcomma, hentry.value_free⟩, not_mem_of_allBlank hback hcomma⟩
  | idle hidle rest ih => exact List.forall_mem_cons.2 ⟨hidle.free, ih hlistable⟩

/-- Reading a written list gives its entries. -/
theorem Written.namedKeyValues_eq {entries : List (String × String)} (h : Written entries pieces)
    (hlistable : ∀ entry ∈ entries, Listable entry) :
    namedKeyValues (String.ofList ([','].intercalate pieces)) = entries := by
  rw [Text.namedKeyValues_eq, String.toList_ofList]
  by_cases hne : pieces = []
  · -- Without any piece the text is empty, and an empty text has one piece that says nothing.
    subst hne
    have hentries := h.filterMap_eq hlistable
    rw [List.filterMap_nil] at hentries
    rw [← hentries]
    rfl
  · rw [pieces_iff.1 ⟨hne, h.free hlistable, rfl⟩]
    exact h.filterMap_eq hlistable

end Text

/-! ### Dictionaries of lists -/

namespace Dictionary

variable {α : Type}

/-- What a list of readings stores under a key is what the last reading for the key stores. -/
theorem get?_ofList_filterMap_eq_some_iff {κ : Type} (read : κ → Option (String × α))
    (items : List κ) {key : String} {value : α} :
    (ofList (items.filterMap read)).get? key = some value ↔
      ∃ earlier item later, items = earlier ++ item :: later ∧ read item = some (key, value) ∧
        ∀ other ∈ later, ∀ stored, read other ≠ some (key, stored) := by
  -- The last reading for the key is the first one from behind.
  have hlast : (ofList (items.filterMap read)).get? key =
      ((items.reverse.find? fun item => (read item).any fun entry => entry.1 = key).bind read).map
        (·.2) := by
    rw [ofList, get?_insertMany, get?_empty, Option.or_none, ← List.filterMap_reverse,
      List.find?_filterMap]
  rw [hlast]
  constructor
  · intro h
    obtain ⟨entry, hentry, rfl⟩ := Option.map_eq_some_iff.1 h
    obtain ⟨item, hitem, hread⟩ := Option.bind_eq_some_iff.1 hentry
    obtain ⟨hkey, later, earlier, hitems, hlater⟩ := List.find?_eq_some_iff_append.1 hitem
    have hkey : entry.1 = key := by simpa [hread] using hkey
    refine ⟨earlier.reverse, item, later.reverse, ?_, ?_, ?_⟩
    · rw [← List.reverse_reverse items, hitems]
      simp
    · rw [hread, ← hkey]
    · intro other hother stored hstored
      have hnone := hlater other (List.mem_reverse.1 hother)
      simp [hstored] at hnone
  · rintro ⟨earlier, item, later, rfl, hread, hlater⟩
    have hitem : (earlier ++ item :: later).reverse.find?
        (fun item => (read item).any fun entry => entry.1 = key) = some item := by
      refine List.find?_eq_some_iff_append.2
        ⟨by simp [hread], later.reverse, earlier.reverse, by simp, ?_⟩
      intro other hother
      have hnone := hlater other (List.mem_reverse.1 hother)
      cases hother : read other with
      | none => rfl
      | some entry =>
        obtain ⟨own, stored⟩ := entry
        have hne : own ≠ key := by
          rintro rfl
          exact hnone stored hother
        simp [hne]
    rw [hitem, Option.bind_some, hread]
    rfl

end Dictionary

/-! ### Maps -/

namespace Properties

open Text

theorem readKeyValueMap_eq (raw : String) :
    readKeyValueMap raw =
      Dictionary.ofList ((splitAll ',' raw.toList).filterMap namedKeyValue?) := by
  rw [readKeyValueMap, namedKeyValues_eq]

/-- The last piece that writes a key decides. -/
theorem get?_readKeyValueMap_eq_some_iff {raw key value : String} {pieces : List (List Char)}
    (h : Pieces ',' raw.toList pieces) :
    (readKeyValueMap raw).get? key = some value ↔
      key ≠ "" ∧ ∃ earlier piece later, pieces = earlier ++ piece :: later ∧
        Writes piece key value ∧ ∀ other ∈ later, ∀ stored, ¬ Writes other key stored := by
  rw [readKeyValueMap_eq, pieces_iff.1 h, Dictionary.get?_ofList_filterMap_eq_some_iff]
  simp only [ne_eq, namedKeyValue?_eq_some_iff, not_and]
  constructor
  · rintro ⟨earlier, piece, later, hpieces, ⟨hkey, hwrites⟩, hlater⟩
    exact ⟨hkey, earlier, piece, later, hpieces, hwrites,
      fun other hother stored => hlater other hother stored hkey⟩
  · rintro ⟨hkey, earlier, piece, later, hpieces, hwrites, hlater⟩
    exact ⟨earlier, piece, later, hpieces, ⟨hkey, hwrites⟩,
      fun other hother stored _ => hlater other hother stored⟩

/-- Two lists with a comma between them are the second over the first. -/
theorem readKeyValueMap_append (first second : String) :
    readKeyValueMap (first ++ "," ++ second) =
      (readKeyValueMap first).insertMany (readKeyValueMap second).toList := by
  have hsplit : splitAll ',' (first ++ "," ++ second).toList =
      splitAll ',' first.toList ++ splitAll ',' second.toList := by
    rw [← splitAll_append_cons, String.toList_append, String.toList_append, List.append_assoc]
    rfl
  rw [readKeyValueMap_eq, readKeyValueMap_eq, readKeyValueMap_eq, hsplit, List.filterMap_append,
    Dictionary.ofList_append]

/-- Reading inverts writing. -/
theorem readKeyValueMap_of_written {map : Dictionary String} {entries : List (String × String)}
    {pieces : List (List Char)} (hlistable : ∀ entry ∈ map.toList, Listable entry)
    (horder : entries.Perm map.toList) (hwritten : Written entries pieces) :
    readKeyValueMap (String.ofList ([','].intercalate pieces)) = map := by
  have hentries : ∀ entry ∈ entries, Listable entry := by
    intro entry hmem
    exact hlistable entry (horder.mem_iff.1 hmem)
  have hkeys : (entries.map (·.1)).Nodup :=
    (horder.map _).nodup_iff.2 (Dictionary.nodup_keys map)
  rw [readKeyValueMap, hwritten.namedKeyValues_eq hentries, Dictionary.ofList,
    Dictionary.insertMany_of_perm _ horder hkeys]
  exact Dictionary.ofList_toList map

/-- **The last piece that writes a key decides.**

- However a text falls into pieces between commas, and there is one way: a key has a value if and
  only if it is not empty and, of the pieces whose part in front of the first equals sign is the key
  between blanks, the last one has the value between blanks behind that sign.
- Two texts with a comma between them are read as the map of the second over that of the first.
- If the entries of a map can be written, then however they are ordered, with whatever blanks
  around keys and values and whatever pieces in between that say nothing, reading gives the map. -/
theorem last_piece_decides :
    (∀ raw : String, (∃ pieces, Pieces ',' raw.toList pieces) ∧
      (∀ properties name, Dictionary.get? properties name = some raw →
        keyValueMap properties name = readKeyValueMap raw) ∧
      ∀ pieces, Pieces ',' raw.toList pieces → ∀ key value,
        (readKeyValueMap raw).get? key = some value ↔
          key ≠ "" ∧ ∃ earlier piece later, pieces = earlier ++ piece :: later ∧
            Writes piece key value ∧ ∀ other ∈ later, ∀ stored, ¬ Writes other key stored) ∧
    (∀ first second, readKeyValueMap (first ++ "," ++ second) =
      (readKeyValueMap first).insertMany (readKeyValueMap second).toList) ∧
    ∀ map : Dictionary String, (∀ entry ∈ map.toList, Listable entry) →
      ∀ entries pieces, entries.Perm map.toList → Written entries pieces →
        readKeyValueMap (String.ofList ([','].intercalate pieces)) = map := by
  refine ⟨fun raw => ⟨?_, ?_, ?_⟩, readKeyValueMap_append, ?_⟩
  · exact ⟨_, pieces_iff.2 rfl⟩
  · intro properties name hraw
    rw [keyValueMap, hraw]
  · intro pieces hpieces key value
    exact get?_readKeyValueMap_eq_some_iff hpieces
  · intro map hlistable entries pieces horder hwritten
    exact readKeyValueMap_of_written hlistable horder hwritten

/-! ### A list with blanks and with pieces that say nothing -/

/-- A map with an equals sign in a value. -/
def listedMap : Dictionary String := .ofList [("a", "1"), ("b", "two=2")]

/-- Its entries, the last one first, and two pieces that say nothing. -/
def listedPieces : List (List Char) :=
  ["broken".toList, " b = two=2 ".toList, " =x".toList, "a=1".toList]

/-- The text of these pieces. -/
def listedText : String := "broken, b = two=2 , =x,a=1"

theorem last_piece_decides_listed :
    (∀ entry ∈ listedMap.toList, Listable entry) ∧
    [("b", "two=2"), ("a", "1")].Perm listedMap.toList ∧
    Written [("b", "two=2"), ("a", "1")] listedPieces ∧
    Pieces ',' listedText.toList listedPieces ∧
    readKeyValueMap listedText = listedMap ∧
    keyValueMap (.ofList [("headers", listedText)]) "headers" = listedMap ∧
    (readKeyValueMap listedText).get? "b" = some "two=2" ∧
    readKeyValueMap (listedText ++ "," ++ "a=0") =
      listedMap.insertMany (readKeyValueMap "a=0").toList := by
  have hlistable : ∀ entry ∈ listedMap.toList, Listable entry := by
    have hentries : listedMap.toList = [("a", "1"), ("b", "two=2")] := by decide +kernel
    rw [hentries]
    refine List.forall_mem_cons.2 ⟨?_, List.forall_mem_singleton.2 ?_⟩
    · exact ⟨by decide, by decide, by decide, by decide, by decide⟩
    · exact ⟨by decide, by decide, by decide, by decide, by decide⟩
  have horder : [("b", "two=2"), ("a", "1")].Perm listedMap.toList := by decide +kernel
  have hpieces : listedPieces = ["broken".toList,
      [' '] ++ "b".toList ++ [' '] ++ '=' :: ([' '] ++ "two=2".toList ++ [' ']), " =x".toList,
      [] ++ "a".toList ++ [] ++ '=' :: ([] ++ "1".toList ++ [])] := by decide +kernel
  have hwritten : Written [("b", "two=2"), ("a", "1")] listedPieces := by
    have hspace : AllBlank [' '] := List.forall_mem_singleton.2 (by decide)
    rw [hpieces]
    apply Written.idle ⟨by decide, .inl (by decide)⟩
    apply Written.entry hspace hspace hspace hspace
    apply Written.idle ⟨by decide, .inr ⟨[' '], ['x'], by decide, hspace⟩⟩
    exact .entry allBlank_nil allBlank_nil allBlank_nil allBlank_nil .nothing
  have hsplit : Pieces ',' listedText.toList listedPieces :=
    ⟨by decide, by decide, by decide +kernel⟩
  obtain ⟨hdecides, happend, hinverts⟩ := last_piece_decides
  obtain ⟨-, hmap, hget⟩ := hdecides listedText
  have hread : readKeyValueMap listedText = listedMap := by
    have htext : String.ofList ([','].intercalate listedPieces) = listedText := by
      rw [hsplit.joined, String.ofList_toList]
    rw [← htext]
    exact hinverts listedMap hlistable _ _ horder hwritten
  refine ⟨hlistable, horder, hwritten, hsplit, hread, ?_, ?_, ?_⟩
  · rw [hmap _ _ (by decide +kernel), hread]
  · refine (hget _ hsplit "b" "two=2").2 ⟨by decide, ["broken".toList], _, _, rfl, ?_, ?_⟩
    · exact keyValue?_eq_some_iff.1 (by decide +kernel)
    · intro other hother stored hwrites
      have hkeys : ∀ other ∈ [" =x".toList, "a=1".toList],
          (keyValue? other).map (·.1) ≠ some "b" := by decide +kernel
      apply hkeys other hother
      rw [keyValue?_eq_some_iff.2 hwrites]
      rfl
  · rw [happend, hread]

end Properties

end TelemetryAuth
