import Mathlib.Data.List.Forall2
import Mathlib.Data.List.Induction
import Mathlib.Data.Nat.Digits.Defs
import Mathlib.Tactic.SplitIfs
import TelemetryAuth.Proofs.Text.Trim
import TelemetryAuth.Properties

/-!
# Values that are read as numbers and as truth values

A property is text, and a reader that does not know a text answers nothing; what asks for the value
then goes on with a default and nobody notices.  So it is said here exactly which texts are read.

A number is written as a numeral (`Text.Numeral`): digits of ASCII, at least one, behind a plus sign
or not.  `Text.readCount?` reads every numeral up to its limit and nothing else
(`readCount?_eq_some_iff`), and `Text.Unreadable` lists why a text is refused
(`readCount?_eq_none_iff`).  A truth value is a word in any mixture of capitals and small letters
(`Text.Spells`).  The main result is `typed_readers_follow_grammar`.
-/

namespace TelemetryAuth

namespace Text

variable {cs digits sign : List Char} {limit n : Nat}

/-! ### Digits -/

/-- Digits stand for a number: each counts ten times as much as the one behind it. -/
structure Digits (digits : List Char) (n : Nat) : Prop where
  ne_nil : digits ≠ []
  ascii : ∀ c ∈ digits, c.isDigit = true
  value : Nat.ofDigits 10 (digits.reverse.map digitValue) = n

theorem digitsValue_concat (digits : List Char) (last : Char) :
    digitsValue (digits ++ [last]) = 10 * digitsValue digits + digitValue last := by
  rw [digitsValue, digitsValue, List.foldl_append]
  rfl

/-- Reading from the front gives the value by places. -/
theorem digitsValue_eq_ofDigits (digits : List Char) :
    digitsValue digits = Nat.ofDigits 10 (digits.reverse.map digitValue) := by
  induction digits using List.reverseRecOn with
  | nil => rfl
  | append_singleton front last ih =>
    rw [digitsValue_concat, ih, List.reverse_append, List.reverse_singleton,
      List.singleton_append, List.map_cons, Nat.ofDigits_cons]
    exact Nat.add_comm _ _

/-- A number in decimal, with any zeros in front, has digits that stand for it. -/
theorem digits_toDigits (zeros n : Nat) :
    Digits (List.replicate zeros '0' ++ Nat.toDigits 10 n) n where
  ne_nil := by
    intro h
    exact Nat.toDigits_ne_nil (List.append_eq_nil_iff.1 h).2
  ascii := by
    intro c hmem
    rcases List.mem_append.1 hmem with hzero | hdigit
    · rw [List.eq_of_mem_replicate hzero]
      rfl
    · exact Nat.isDigit_of_mem_toDigits (by decide) (by decide) hdigit
  value := by
    rw [← digitsValue_eq_ofDigits]
    show Nat.ofDigitChars 10 (List.replicate zeros '0' ++ Nat.toDigits 10 n) 0 = n
    have hzeros : Nat.ofDigitChars 10 (List.replicate zeros '0') 0 = 0 := by
      simp [Nat.ofDigitChars_replicate_zero]
    rw [Nat.ofDigitChars_append, hzeros]
    exact Nat.ofDigitChars_toDigits (by decide) (by decide)

/-! ### Numerals -/

/-- What may stand in front of the digits of a numeral. -/
def Sign (sign : List Char) : Prop := sign = [] ∨ sign = ['+']

/-- A text is a numeral for a number. -/
def Numeral (cs : List Char) (n : Nat) : Prop :=
  ∃ sign digits, cs = sign ++ digits ∧ Sign sign ∧ Digits digits n

/-- Why a text is not read as a number up to a limit. -/
inductive Unreadable (limit : Nat) (cs : List Char) : Prop
  /-- There is nothing to read. -/
  | empty (text : cs = [])
  /-- There is a sign only. -/
  | loneSign (text : cs = ['+'])
  /-- The first character is neither a plus sign nor a digit. -/
  | first {c : Char} (text : cs.head? = some c) (not_plus : c ≠ '+') (not_digit : c.isDigit = false)
  /-- A later character is not a digit. -/
  | later {c : Char} (mem : c ∈ cs.tail) (not_digit : c.isDigit = false)
  /-- It is a numeral for a number above the limit. -/
  | tooLarge {n : Nat} (numeral : Numeral cs n) (above : limit < n)

/-- A sign is dropped in front of digits, and nothing else. -/
theorem dropPlus_append (hsign : Sign sign) (hdigits : ∀ c ∈ digits, c.isDigit = true) :
    dropPlus (sign ++ digits) = digits := by
  rcases hsign with rfl | rfl
  · cases digits with
    | nil => rfl
    | cons c rest =>
      have hfirst : c ≠ '+' := by
        rintro rfl
        have hdigit := hdigits '+' List.mem_cons_self
        cases hdigit
      rw [List.nil_append, dropPlus]
      rintro later ⟨⟩
      exact hfirst rfl
  · rfl

theorem exists_sign (cs : List Char) : ∃ sign, Sign sign ∧ cs = sign ++ dropPlus cs := by
  unfold dropPlus
  split
  · exact ⟨['+'], .inr rfl, rfl⟩
  · exact ⟨[], .inl rfl, rfl⟩

/-- **A number is read if and only if the text is a numeral for it**, and it is within the limit. -/
theorem readCount?_eq_some_iff :
    readCount? limit cs = some n ↔ Numeral cs n ∧ n ≤ limit := by
  unfold readCount?
  dsimp only
  constructor
  · intro h
    split at h
    · rename_i hdigits
      obtain ⟨hne, hascii, hle⟩ := hdigits
      obtain rfl := Option.some.inj h
      obtain ⟨sign, hsign, htext⟩ := exists_sign cs
      have hdigits : Digits (dropPlus cs) (digitsValue (dropPlus cs)) :=
        ⟨hne, List.all_eq_true.1 hascii, (digitsValue_eq_ofDigits _).symm⟩
      exact ⟨⟨sign, dropPlus cs, htext, hsign, hdigits⟩, hle⟩
    · cases h
  · rintro ⟨⟨sign, digits, rfl, hsign, hdigits⟩, hle⟩
    have hvalue : digitsValue digits = n := (digitsValue_eq_ofDigits digits).trans hdigits.value
    rw [dropPlus_append hsign hdigits.ascii, hvalue]
    exact if_pos ⟨hdigits.ne_nil, List.all_eq_true.2 hdigits.ascii, hle⟩

/-- A numeral begins with a plus sign or a digit, and all behind it are digits. -/
theorem Numeral.characters (h : Numeral cs n) :
    cs ≠ [] ∧ cs ≠ ['+'] ∧ (∀ c, cs.head? = some c → c ≠ '+' → c.isDigit = true) ∧
      ∀ c ∈ cs.tail, c.isDigit = true := by
  obtain ⟨sign, digits, rfl, hsign, hdigits⟩ := h
  rcases hsign with rfl | rfl
  · have hascii := hdigits.ascii
    rw [List.nil_append]
    refine ⟨hdigits.ne_nil, ?_, ?_, ?_⟩
    · rintro rfl
      have hplus := hascii '+' List.mem_cons_self
      cases hplus
    · intro c hhead _
      exact hascii c (List.mem_of_head? hhead)
    · intro c hmem
      exact hascii c (List.mem_of_mem_tail hmem)
  · refine ⟨by simp, ?_, ?_, ?_⟩
    · simpa using hdigits.ne_nil
    · rintro c ⟨⟩ hplus
      exact absurd rfl hplus
    · exact hdigits.ascii

/-- A text is a numeral for one number at most. -/
theorem Numeral.unique {other : Nat} (h : Numeral cs n) (h' : Numeral cs other) : n = other := by
  have hread := readCount?_eq_some_iff.2 ⟨h, le_max_left n other⟩
  have hread' := readCount?_eq_some_iff.2 ⟨h', le_max_right n other⟩
  exact Option.some.inj (hread.symm.trans hread')

/-- What is no numeral has a character that does not fit, or nothing behind its sign. -/
theorem exists_numeral_or_unreadable (limit : Nat) (cs : List Char) :
    (∃ n, Numeral cs n) ∨ Unreadable limit cs := by
  obtain ⟨sign, hsign, htext⟩ := exists_sign cs
  by_cases hascii : ∀ c ∈ dropPlus cs, c.isDigit = true
  · by_cases hempty : dropPlus cs = []
    · rw [hempty, List.append_nil] at htext
      rcases hsign with rfl | rfl
      · exact .inr (.empty htext)
      · exact .inr (.loneSign htext)
    · exact .inl ⟨_, sign, dropPlus cs, htext, hsign, hempty, hascii, rfl⟩
  · simp only [not_forall, Bool.not_eq_true] at hascii
    obtain ⟨c, hmem, hdigit⟩ := hascii
    rcases hsign with rfl | rfl
    · -- There is no sign, so the character may be the first one.
      rw [List.nil_append] at htext
      rw [← htext] at hmem
      cases cs with
      | nil => cases hmem
      | cons first rest =>
        rcases List.mem_cons.1 hmem with rfl | hmem
        · refine .inr (.first rfl ?_ hdigit)
          rintro rfl
          exact List.cons_ne_self _ _ htext
        · exact .inr (.later hmem hdigit)
    · refine .inr (.later ?_ hdigit)
      rw [htext]
      exact hmem

/-- **No number is read if and only if one of the reasons holds.** -/
theorem readCount?_eq_none_iff : readCount? limit cs = none ↔ Unreadable limit cs := by
  constructor
  · intro h
    rcases exists_numeral_or_unreadable limit cs with ⟨n, hnumeral⟩ | hunreadable
    · refine .tooLarge hnumeral (not_le.1 fun hle => ?_)
      cases h.symm.trans (readCount?_eq_some_iff.2 ⟨hnumeral, hle⟩)
    · exact hunreadable
  · intro h
    rw [Option.eq_none_iff_forall_ne_some]
    intro n hsome
    obtain ⟨hnumeral, hle⟩ := readCount?_eq_some_iff.1 hsome
    obtain ⟨hempty, hsign, hfirst, hlater⟩ := hnumeral.characters
    cases h with
    | empty text => exact hempty text
    | loneSign text => exact hsign text
    | first text not_plus not_digit => simp [hfirst _ text not_plus] at not_digit
    | later mem not_digit => simp [hlater _ mem] at not_digit
    | tooLarge other above =>
      rw [other.unique hnumeral] at above
      exact absurd hle (not_le.2 above)

/-! ### Words -/

/-- A text spells a word of small letters: each of its characters is the letter or its capital. -/
def Spells (cs : List Char) (word : String) : Prop :=
  List.Forall₂ (fun c letter => c = letter ∨ c = letter.toUpper) cs word.toList

theorem toNat_toLower (c : Char) :
    c.toLower.toNat = if 65 ≤ c.toNat ∧ c.toNat ≤ 90 then c.toNat + 32 else c.toNat := by
  have hcapital : c.val ≥ 'A'.val ∧ c.val ≤ 'Z'.val ↔ 65 ≤ c.toNat ∧ c.toNat ≤ 90 := Iff.rfl
  unfold Char.toLower
  simp only [hcapital]
  split_ifs with h
  · show (c.val + 32).toNat = c.toNat + 32
    rw [UInt32.toNat_add]
    show (c.toNat + 32) % 2 ^ 32 = c.toNat + 32
    omega
  · rfl

theorem toNat_toUpper (c : Char) :
    c.toUpper.toNat = if 97 ≤ c.toNat ∧ c.toNat ≤ 122 then c.toNat - 32 else c.toNat := by
  have hsmall : 'a'.val ≤ c.val ∧ c.val ≤ 'z'.val ↔ 97 ≤ c.toNat ∧ c.toNat ≤ 122 := Iff.rfl
  unfold Char.toUpper
  simp only [hsmall]
  split_ifs with h
  · -- The distance is negative, so the sum of the words passes the last word once.
    have hdistance : ('A'.val - 'a'.val).toNat = 2 ^ 32 - 32 := by decide
    show (c.val + ('A'.val - 'a'.val)).toNat = c.toNat - 32
    rw [UInt32.toNat_add, hdistance]
    show (c.toNat + (2 ^ 32 - 32)) % 2 ^ 32 = c.toNat - 32
    omega
  · rfl

/-- The characters that become a small letter are the letter and its capital. -/
theorem toLower_eq_iff {c letter : Char} (h : letter.isLower = true) :
    c.toLower = letter ↔ c = letter ∨ c = letter.toUpper := by
  have hletter : 97 ≤ letter.toNat ∧ letter.toNat ≤ 122 := by
    unfold Char.isLower at h
    rw [Bool.and_eq_true, decide_eq_true_eq, decide_eq_true_eq] at h
    exact h
  rw [← Char.toNat_inj, ← Char.toNat_inj, ← Char.toNat_inj, toNat_toLower, toNat_toUpper,
    if_pos hletter]
  split_ifs <;> omega

theorem lowerAscii_eq_iff {word : String} (h : word.toList.all Char.isLower = true) :
    lowerAscii cs = word.toList ↔ Spells cs word := by
  rw [List.all_eq_true] at h
  unfold lowerAscii Spells
  constructor
  · intro heq
    rw [← heq] at h ⊢
    refine List.forall₂_map_right_iff.2 (List.forall₂_same.2 fun c hmem => ?_)
    exact (toLower_eq_iff (h c.toLower (List.mem_map_of_mem hmem))).1 rfl
  · generalize word.toList = letters at h ⊢
    intro hspells
    induction hspells with
    | nil => rfl
    | cons hfirst hrest ih =>
      obtain ⟨hletter, hletters⟩ := List.forall_mem_cons.1 h
      rw [List.map_cons, (toLower_eq_iff hletter).2 hfirst, ih hletters]

/-! ### Blanks around a value -/

/-- What holds of the part between the outer blanks holds of what is left by trimming. -/
theorem exists_trims_iff (holds : List Char → Prop) :
    (∃ inner, Trims cs inner ∧ holds inner) ↔ holds (trim cs) := by
  constructor
  · rintro ⟨inner, htrims, hinner⟩
    rw [htrims.trim_eq]
    exact hinner
  · intro h
    exact ⟨trim cs, trims_trim cs, h⟩

/-- A numeral has no blank at its ends. -/
theorem Numeral.tight (h : Numeral cs n) : Tight cs := by
  have hplus : isBlank '+' = false := by decide
  have hdigit : ∀ c : Char, c.isDigit = true → isBlank c = false := by
    intro c hc
    have hrange : 48 ≤ c.toNat ∧ c.toNat ≤ 57 := by
      rw [Char.isDigit, Bool.and_eq_true, decide_eq_true_eq, decide_eq_true_eq] at hc
      exact hc
    unfold isBlank
    grind
  obtain ⟨sign, digits, rfl, hsign, hdigits⟩ := h
  have hall : ∀ c ∈ sign ++ digits, isBlank c = false := by
    intro c hmem
    rcases List.mem_append.1 hmem with hmem | hmem
    · rcases hsign with rfl | rfl
      · cases hmem
      · rw [List.mem_singleton.1 hmem]
        exact hplus
    · exact hdigit c (hdigits.ascii c hmem)
  exact ⟨fun c hc => hall c (List.mem_of_head? hc), fun c hc => hall c (List.mem_of_getLast? hc)⟩

end Text

/-! ### Properties -/

namespace Properties

open Text

variable {raw : String}

theorem readMilliseconds?_eq_some_iff {time : Milliseconds} :
    readMilliseconds? raw = some time ↔ Numeral (trim raw.toList) time ∧ time < 2 ^ 64 := by
  have hlimit : time ≤ maxWord64 ↔ time < 2 ^ 64 :=
    Nat.lt_succ_iff.symm
  rw [readMilliseconds?, readCount?_eq_some_iff, hlimit]

theorem readMilliseconds?_eq_none_iff :
    readMilliseconds? raw = none ↔ Unreadable (2 ^ 64 - 1) (trim raw.toList) :=
  readCount?_eq_none_iff

/-- A number that is written with zeros and a sign in front and blanks around it is read back unless
it is too large. -/
theorem readMilliseconds?_of_written {front sign back : List Char} (zeros number : Nat)
    (hfront : AllBlank front) (hsign : Sign sign) (hback : AllBlank back) :
    readMilliseconds? (String.ofList (front ++
        (sign ++ (List.replicate zeros '0' ++ Nat.toDigits 10 number)) ++ back)) =
      if number < 2 ^ 64 then some number else none := by
  have hnumeral : Numeral (sign ++ (List.replicate zeros '0' ++ Nat.toDigits 10 number)) number :=
    ⟨sign, _, rfl, hsign, digits_toDigits zeros number⟩
  have htrim := Trims.trim_eq ⟨front, back, rfl, hfront, hback, hnumeral.tight⟩
  split_ifs with hsmall
  · rw [readMilliseconds?_eq_some_iff, String.toList_ofList, htrim]
    exact ⟨hnumeral, hsmall⟩
  · rw [readMilliseconds?_eq_none_iff, String.toList_ofList, htrim]
    exact .tooLarge hnumeral (by omega)

theorem readBool?_eq_some_iff {truth : Bool} :
    readBool? raw = some truth ↔ Spells (trim raw.toList) (toString truth) := by
  have htrue : lowerAscii (trim raw.toList) = "true".toList ↔ Spells (trim raw.toList) "true" :=
    lowerAscii_eq_iff (by decide)
  have hfalse : lowerAscii (trim raw.toList) = "false".toList ↔ Spells (trim raw.toList) "false" :=
    lowerAscii_eq_iff (by decide)
  unfold readBool?
  dsimp only
  cases truth with
  | true =>
    rw [show toString true = "true" from rfl, ← htrue]
    split_ifs with hword hother
    · exact iff_of_true rfl hword
    · exact iff_of_false (by decide) hword
    · exact iff_of_false nofun hword
  | false =>
    rw [show toString false = "false" from rfl, ← hfalse]
    split_ifs with hword hother
    · -- No text is both words.
      rw [hword]
      decide
    · exact iff_of_true rfl hother
    · exact iff_of_false nofun hother

/-- **Typed properties are read by their grammar, and nothing else is.**  A property is looked at
without the blanks around it.

- It is a length of time if and only if it is a numeral for a number of at most 64 bits, and then it
  is that many milliseconds, neither wrapped nor cut off.
- It is none if and only if it is missing, empty or a lone sign, or has a character that does not
  fit, or is a numeral for a number that is too large.
- A number that is written with any zeros and a plus sign or none in front of it, and any blanks
  around it, is read back unless it is too large.
- It is a truth value if and only if it spells the word, in any capitals and small letters. -/
theorem typed_readers_follow_grammar (properties : Properties) (key : String) :
    (∀ time, milliseconds? properties key = some time ↔
      ∃ raw, Dictionary.get? properties key = some raw ∧
        ∃ inner, Trims raw.toList inner ∧ Numeral inner time ∧ time < 2 ^ 64) ∧
    (milliseconds? properties key = none ↔
      Dictionary.get? properties key = none ∨
      ∃ raw, Dictionary.get? properties key = some raw ∧
        ∃ inner, Trims raw.toList inner ∧ Unreadable (2 ^ 64 - 1) inner) ∧
    (∀ front sign zeros number back, AllBlank front → Sign sign → AllBlank back →
      Dictionary.get? properties key = some (String.ofList (front ++
        (sign ++ (List.replicate zeros '0' ++ Nat.toDigits 10 number)) ++ back)) →
      milliseconds? properties key = if number < 2 ^ 64 then some number else none) ∧
    ∀ truth : Bool, bool? properties key = some truth ↔
      ∃ raw, Dictionary.get? properties key = some raw ∧
        ∃ inner, Trims raw.toList inner ∧ Spells inner (toString truth) := by
  refine ⟨fun time => ?_, ?_, ?_, fun truth => ?_⟩
  · simp only [milliseconds?, Option.bind_eq_some_iff, readMilliseconds?_eq_some_iff,
      exists_trims_iff fun inner => Numeral inner time ∧ time < 2 ^ 64]
  · simp only [milliseconds?, exists_trims_iff]
    cases Dictionary.get? properties key with
    | none => simp
    | some raw => simpa using readMilliseconds?_eq_none_iff
  · intro front sign zeros number back hfront hsign hback hraw
    rw [milliseconds?, hraw, Option.bind_some]
    exact readMilliseconds?_of_written zeros number hfront hsign hback
  · simp only [bool?, Option.bind_eq_some_iff, readBool?_eq_some_iff, exists_trims_iff]

/-! ### Values at the limit

The greatest number that is read, with all that may surround it, the next one, and a truth value. -/

/-- The properties that hold these values. -/
def limitProperties : Properties := .ofList [
  ("greatest", "\u00A0+0018446744073709551615\t"),
  ("next", "18446744073709551616"),
  ("truth", "TrUE\n")]

theorem typed_readers_follow_grammar_limit :
    AllBlank ['\u00A0'] ∧ Sign ['+'] ∧ AllBlank ['\t'] ∧
    Dictionary.get? limitProperties "greatest" = some (String.ofList (['\u00A0'] ++
      (['+'] ++ (List.replicate 2 '0' ++ Nat.toDigits 10 18446744073709551615)) ++ ['\t'])) ∧
    milliseconds? limitProperties "greatest" = some 18446744073709551615 ∧
    milliseconds? limitProperties "next" = none ∧
    bool? limitProperties "truth" = some true := by
  have hfront : AllBlank ['\u00A0'] := List.forall_mem_singleton.2 (by decide)
  have hback : AllBlank ['\t'] := List.forall_mem_singleton.2 (by decide)
  have hsign : Sign ['+'] := .inr rfl
  have hgreatest : Dictionary.get? limitProperties "greatest" = some (String.ofList (['\u00A0'] ++
      (['+'] ++ (List.replicate 2 '0' ++ Nat.toDigits 10 18446744073709551615)) ++ ['\t'])) := by
    decide +kernel
  obtain ⟨-, -, hwritten, -⟩ := typed_readers_follow_grammar limitProperties "greatest"
  obtain ⟨-, hnone, -, -⟩ := typed_readers_follow_grammar limitProperties "next"
  obtain ⟨-, -, -, htruth⟩ := typed_readers_follow_grammar limitProperties "truth"
  refine ⟨hfront, hsign, hback, hgreatest, ?_, ?_, ?_⟩
  · rw [hwritten _ _ 2 18446744073709551615 _ hfront hsign hback hgreatest]
    exact if_pos (by decide)
  · have hnext : Numeral "18446744073709551616".toList 18446744073709551616 :=
      ⟨[], _, by decide +kernel, .inl rfl, digits_toDigits 0 18446744073709551616⟩
    exact hnone.2 <| .inr ⟨"18446744073709551616", by decide +kernel, _,
      ⟨[], [], by simp, allBlank_nil, allBlank_nil, hnext.tight⟩, .tooLarge hnext (by decide)⟩
  · refine (htruth true).2 ⟨"TrUE\n", by decide +kernel, "TrUE".toList, ?_, ?_⟩
    · exact trim_eq_iff.1 (by decide)
    · have hletters : "true".toList.all Char.isLower = true := by decide
      exact (lowerAscii_eq_iff hletters).1 (by decide)

end Properties

end TelemetryAuth
