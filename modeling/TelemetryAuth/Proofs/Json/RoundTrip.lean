import TelemetryAuth.Json.Compact
import TelemetryAuth.Json.Read
import TelemetryAuth.Proofs.TypedValue

/-!
# Reading what has been written

`Json.compact` writes a record so that `Json.parse` reads the same record.  A record is an object
whose members are scalars: texts, truth values, `null` and integers that fit into 64 bits, with a
sign or without (`Scalar`).

Each stage of the reader gets a lemma that says what it makes of written text with more text behind:
characters of a string (`readString_stringChar`), digits (`readNumber_toDigits`), a scalar
(`readValue_compact`) and members (`readMembers_compact`).  The main result is
`parse_compact_record`.
-/

namespace TelemetryAuth.Json

open Text

/-! ### Strings -/

section Strings

variable {care : Care} {within next : Within} {c d : Char} {chars left rest : List Char}

/-- A character in front of what is left of a string. -/
def consChar (c : Char) (read : List Char × List Char) : List Char × List Char :=
  (c :: read.1, read.2)

/-- A character on the way to another one. -/
theorem readString_of_none (hstep : stringStep care within c = .ok (next, none))
    (hc : within = .plain → c ≠ '"') :
    readString care within (c :: rest) = readString care next rest := by
  conv_lhs => unfold readString
  split
  next => exact absurd rfl (hc rfl)
  next =>
    rw [hstep]
    dsimp only
    cases readString care next rest <;> rfl

/-- A character that completes one of the string. -/
theorem readString_of_some (hstep : stringStep care within c = .ok (next, some d))
    (hc : within = .plain → c ≠ '"') :
    readString care within (c :: rest) = (readString care next rest).map (consChar d) := by
  conv_lhs => unfold readString
  split
  next => exact absurd rfl (hc rfl)
  next =>
    rw [hstep]
    dsimp only
    cases readString care next rest <;> rfl

/-- The hexadecimal digit of a number below 16 is read as that number. -/
theorem hexValue?_digitChar :
    ∀ x < 16, hexValue? (Nat.digitChar x) = some x ∧ (Nat.digitChar x).utf8Size = 1 := by
  decide

/-- A control character is written with four hexadecimal digits. -/
theorem padded_hexDigits :
    ∀ n < 0x20, List.replicate (4 - (hexDigits n).length) '0' ++ hexDigits n
      = ['0', '0', Nat.digitChar (n / 16), Nat.digitChar (n % 16)] := by
  decide

theorem stringStep_hex {bytes value x : Nat} (hx : x < 16) (hbytes : bytes + 1 < 4) :
    stringStep .keep (.hex bytes (some value) none) (Nat.digitChar x)
      = .ok (.hex (bytes + 1) (some (value * 16 + x)) none, none) := by
  obtain ⟨hvalue, hsize⟩ := hexValue?_digitChar x hx
  simp only [stringStep, hsize, if_pos hbytes, hvalue]
  rfl

theorem stringStep_lastHex {value x : Nat} (hx : x < 16) (hvalue : value * 16 + x < 0x20) :
    stringStep .keep (.hex 3 (some value) none) (Nat.digitChar x)
      = .ok (.plain, some (Char.ofNat (value * 16 + x))) := by
  obtain ⟨hdigit, hsize⟩ := hexValue?_digitChar x hx
  have hclose : closeHex .keep (value * 16 + x) none
      = .ok (.plain, some (Char.ofNat (value * 16 + x))) := by
    unfold closeHex
    rw [if_neg (by decide)]
    simp only
    rw [if_neg (by omega), if_neg (by omega)]
  simp only [stringStep, hsize, hdigit]
  show (closeHex .keep (value * 16 + x) none).mapError _ = _
  rw [hclose]
  rfl

/-- An escape with four hexadecimal digits is read as the character. -/
theorem readString_control (hc : c.toNat < 0x20) :
    readString .keep .plain (['\\', 'u'] ++ (List.replicate (4 - (hexDigits c.toNat).length) '0' ++
      hexDigits c.toNat) ++ rest) = (readString .keep .plain rest).map (consChar c) := by
  have hzero : ∀ bytes, bytes + 1 < 4 →
      stringStep .keep (.hex bytes (some 0) none) '0'
        = .ok (.hex (bytes + 1) (some 0) none, none) :=
    fun bytes hbytes => @stringStep_hex bytes 0 0 (by decide) hbytes
  have hthird : stringStep .keep (.hex 2 (some 0) none) (Nat.digitChar (c.toNat / 16))
      = .ok (.hex 3 (some (0 * 16 + c.toNat / 16)) none, none) :=
    stringStep_hex (by omega) (by decide)
  have hlast : stringStep .keep (.hex 3 (some (c.toNat / 16)) none)
      (Nat.digitChar (c.toNat % 16)) = .ok (.plain, some c) := by
    rw [stringStep_lastHex (by omega) (by omega), Nat.div_add_mod', Char.ofNat_toNat]
  rw [Nat.zero_mul, Nat.zero_add] at hthird
  rw [padded_hexDigits _ hc]
  show readString .keep .plain ('\\' :: 'u' :: '0' :: '0' :: _ :: _ :: rest) = _
  have hslash : stringStep .keep .plain '\\' = .ok (.escape, none) := rfl
  have hletter : stringStep .keep .escape 'u' = .ok (.hex 0 (some 0) none, none) := rfl
  rw [readString_of_none hslash fun _ => by decide, readString_of_none hletter nofun,
    readString_of_none (hzero 0 (by decide)) nofun, readString_of_none (hzero 1 (by decide)) nofun,
    readString_of_none hthird nofun, readString_of_some hlast nofun]

/-- **A character that has been written is read again.** -/
theorem readString_stringChar (c : Char) (rest : List Char) :
    readString .keep .plain (stringChar c ++ rest)
      = (readString .keep .plain rest).map (consChar c) := by
  have hescape : ∀ {letter : Char}, letter ≠ 'u' → escapeLetter? letter = some c →
      readString .keep .plain ('\\' :: letter :: rest)
        = (readString .keep .plain rest).map (consChar c) := by
    intro letter hu hletter
    have hstep : stringStep .keep .escape letter = .ok (.plain, some c) := by
      simp only [stringStep, if_neg hu, hletter]
    have hslash : stringStep .keep .plain '\\' = .ok (.escape, none) := rfl
    rw [readString_of_none hslash fun _ => by decide, readString_of_some hstep nofun]
  unfold stringChar
  split
  iterate 7
    next => exact hescape (by decide) rfl
  next hquote hslash _ _ _ _ _ =>
    split
    next hcontrol => exact readString_control hcontrol
    next hcontrol =>
      have hstep : stringStep .keep .plain c = .ok (.plain, some c) := by
        simp only [stringStep, if_neg hslash, if_neg hcontrol]
      exact readString_of_some hstep fun _ => hquote

theorem readString_flatMap (cs rest : List Char) :
    readString .keep .plain (cs.flatMap stringChar ++ '"' :: rest) = .ok (cs, rest) := by
  induction cs with
  | nil => rw [List.flatMap_nil, List.nil_append]; rfl
  | cons c cs ih =>
    rw [List.flatMap_cons, List.append_assoc, readString_stringChar, ih]
    rfl

end Strings

/-! ### Numbers -/

section Numbers

variable {n : Nat} {rest : List Char}

theorem le_foldl_digits (digits : List Char) (value : Nat) :
    value ≤ digits.foldl (fun value digit => 10 * value + digitValue digit) value := by
  induction digits generalizing value with
  | nil => exact Nat.le_refl value
  | cons digit digits ih =>
    have hnext := ih (10 * value + digitValue digit)
    rw [List.foldl_cons]
    omega

/-- Digits in front of the point are all taken if their value fits. -/
theorem ofWhole_of_fits (digits : List Char) (value : Nat)
    (h : digits.foldl (fun value digit => 10 * value + digitValue digit) value ≤ maxWord64) :
    Significand.ofWhole value digits
      = ⟨digits.foldl (fun value digit => 10 * value + digitValue digit) value, 0⟩ := by
  induction digits generalizing value with
  | nil => rfl
  | cons digit digits ih =>
    rw [List.foldl_cons] at h
    have hnext : 10 * value + digitValue digit ≤ maxWord64 := (le_foldl_digits digits _).trans h
    rw [Significand.ofWhole, if_pos hnext, ih _ h, List.foldl_cons]

theorem digitsValue_toDigits (n : Nat) : digitsValue (Nat.toDigits 10 n) = n := by
  rw [digitsValue_eq_ofDigits]
  exact (digits_toDigits 0 n).value

/-- What is written for a number of 64 bits stands for that number; a negative one is not below the
least number with a sign. -/
theorem ofDigits_toDigits {negative : Bool} (hn : n ≤ maxWord64)
    (hnegative : negative = true → 0 < n ∧ n ≤ 0x8000000000000000) :
    Number.ofDigits negative (Nat.toDigits 10 n)
      = .integer (if negative then -(n : Int) else n) := by
  have htaken : Significand.ofWhole 0 (Nat.toDigits 10 n) = ⟨n, 0⟩ := by
    have hvalue := digitsValue_toDigits n
    unfold digitsValue at hvalue
    rw [ofWhole_of_fits _ _ (by rw [hvalue]; exact hn), hvalue]
  have hkept : ¬ (((0 : Int) ≠ 0) ∨ (negative = true ∧ (n = 0 ∨ n > 0x8000000000000000))) := by
    rintro (hzero | ⟨hsign, hrange⟩)
    · exact hzero rfl
    · have := hnegative hsign
      omega
  unfold Number.ofDigits
  simp only [htaken]
  rw [if_neg hkept]

/-- No digits in front of a number that are zero, but for zero itself. -/
theorem head?_toDigits (hn : 0 < n) : (Nat.toDigits 10 n).head? ≠ some '0' := by
  induction n using Nat.strong_induction_on with
  | _ n ih =>
  by_cases hsmall : n < 10
  · rw [Nat.toDigits_of_lt_base hsmall]
    have hdigit : ∀ n < 10, 0 < n → Nat.digitChar n ≠ '0' := by decide
    simpa using hdigit n hsmall hn
  · have hfront := ih (n / 10) (by omega) (by omega)
    rw [Nat.toDigits_of_base_le (by decide) (by omega)]
    rwa [List.head?_append_of_ne_nil _ Nat.toDigits_ne_nil]

/-- What is written for a number begins with a digit. -/
theorem exists_toDigits (n : Nat) :
    ∃ first others, Nat.toDigits 10 n = first :: others ∧ first.isDigit = true := by
  have hsome : Nat.toDigits 10 n ≠ [] := Nat.toDigits_ne_nil
  obtain ⟨first, others, hdigits⟩ := List.exists_cons_of_ne_nil hsome
  have hmem : first ∈ Nat.toDigits 10 n := by
    rw [hdigits]
    exact List.mem_cons_self
  exact ⟨first, others, hdigits, Nat.isDigit_of_mem_toDigits (by decide) (by decide) hmem⟩

/-- What follows a member of an object: a comma or the closing brace. -/
inductive Delimited : List Char → Prop
  | comma (rest : List Char) : Delimited (',' :: rest)
  | brace (rest : List Char) : Delimited ('\x7d' :: rest)

theorem Delimited.exists_cons (h : Delimited rest) :
    ∃ c behind, rest = c :: behind ∧ c.isDigit = false ∧ c ≠ '.' ∧ ¬ (c = 'e' ∨ c = 'E') := by
  cases h with
  | comma behind => exact ⟨',', behind, rfl, by decide, by decide, by decide⟩
  | brace behind => exact ⟨'\x7d', behind, rfl, by decide, by decide, by decide⟩

theorem spanDigits_toDigits (n : Nat) (h : Delimited rest) :
    spanDigits (Nat.toDigits 10 n ++ rest) = (Nat.toDigits 10 n, rest) := by
  have hdigits : ∀ c ∈ Nat.toDigits 10 n, c.isDigit = true :=
    fun c hc => Nat.isDigit_of_mem_toDigits (by decide) (by decide) hc
  obtain ⟨c, behind, rfl, hc, -⟩ := h.exists_cons
  have hnone : ¬ c.isDigit = true := by simp [hc]
  rw [spanDigits, List.takeWhile_append_of_pos hdigits, List.dropWhile_append_of_pos hdigits,
    List.takeWhile_cons_of_neg hnone, List.dropWhile_cons_of_neg hnone, List.append_nil]

/-- **A number of 64 bits that has been written is read again.** -/
theorem readNumber_toDigits {negative : Bool} (hn : n ≤ maxWord64)
    (hnegative : negative = true → 0 < n ∧ n ≤ 0x8000000000000000) (hrest : Delimited rest) :
    readNumber .keep negative (Nat.toDigits 10 n ++ rest)
      = .ok (.integer (if negative then -(n : Int) else n), rest) := by
  have hspan := spanDigits_toDigits n hrest
  have hvalue := ofDigits_toDigits hn hnegative
  obtain ⟨first, others, hdigits, hfirst⟩ := exists_toDigits n
  have hlead : ¬ (first = '0' ∧ (first :: others).length > 1) := by
    rintro ⟨rfl, hlength⟩
    rcases Nat.eq_zero_or_pos n with rfl | hpos
    · rw [← hdigits, Nat.toDigits_zero] at hlength
      exact absurd hlength (by decide)
    · exact head?_toDigits hpos (by rw [hdigits]; rfl)
  obtain ⟨c, behind, rfl, -, hpoint, hexponent⟩ := hrest.exists_cons
  rw [hdigits] at hspan hvalue ⊢
  rw [List.cons_append] at hspan ⊢
  unfold readNumber
  simp only [hfirst, hspan]
  -- The reader stops at the delimiter, which begins neither a fraction nor an exponent.
  rw [if_neg (by decide), if_neg hlead, if_neg hexponent, hvalue]
  rfl

end Numbers

/-! ### Scalars -/

/-- A value that is written and read without members: an integer has at most 64 bits, with a sign or
without. -/
inductive Scalar : Json → Prop
  | null : Scalar .null
  | bool (value : Bool) : Scalar (.bool value)
  | string (value : String) : Scalar (.string value)
  | int (value : Int) (least : -0x8000000000000000 ≤ value)
      (greatest : value ≤ 0xFFFFFFFFFFFFFFFF) : Scalar (.int value)

theorem toList_toString_natCast (n : Nat) : (toString (n : Int)).toList = Nat.toDigits 10 n :=
  Nat.toList_repr

theorem toList_toString_negSucc (n : Nat) :
    (toString (Int.negSucc n)).toList = '-' :: Nat.toDigits 10 (n + 1) := by
  show ("-" ++ Nat.repr (n + 1)).toList = _
  rw [String.toList_append, Nat.toList_repr]
  rfl

theorem toList_stringText (s : String) :
    (stringText s).toList = '"' :: (s.toList.flatMap stringChar ++ ['"']) :=
  String.toList_ofList

theorem skipBlanks_cons {c : Char} {rest : List Char} (hc : c ∉ [' ', '\n', '\t', '\r']) :
    skipBlanks (c :: rest) = c :: rest := by
  refine List.dropWhile_cons_of_neg ?_
  simpa [not_or, and_assoc] using hc

/-- A digit begins a number. -/
theorem readValue_of_isDigit {care : Care} {depth : Nat} {c : Char} {rest : List Char}
    (hc : c.isDigit = true) :
    readValue care (depth + 1) (c :: rest)
      = (readNumber care false (c :: rest)).map fun (value, rest) => (.number value, rest) := by
  have hne : ∀ {other : Char}, other.isDigit = false → c ≠ other := by
    rintro other hother rfl
    cases hc.symm.trans hother
  have hblank : skipBlanks (c :: rest) = c :: rest := by
    refine skipBlanks_cons fun hmem => ?_
    simp only [List.mem_cons, List.not_mem_nil, or_false] at hmem
    rcases hmem with rfl | rfl | rfl | rfl
    all_goals exact hne rfl rfl
  unfold readValue
  rw [hblank]
  split
  next heq => cases heq
  -- Any other value begins with a letter, a quote, a bracket or the sign.
  iterate 7
    next heq =>
      cases heq
      exact absurd rfl (hne rfl)
  next heq =>
    cases heq
    rw [if_pos hc]

/-- **A scalar that has been written is read again.** -/
theorem readValue_compact {value : Json} (h : Scalar value) (depth : Nat) {rest : List Char}
    (hrest : Delimited rest) :
    readValue .keep (depth + 1) ((compact value).toList ++ rest) = .ok (value, rest) := by
  cases h with
  | null =>
    unfold readValue
    rfl
  | bool value =>
    unfold readValue
    cases value with
    | true => rfl
    | false => rfl
  | string value =>
    have htext : (compact (.string value)).toList ++ rest
        = '"' :: (value.toList.flatMap stringChar ++ '"' :: rest) := by
      rw [compact, toList_stringText]
      simp
    unfold readValue
    rw [htext]
    show (readString .keep .plain _).map _ = _
    rw [readString_flatMap]
    show Except.ok (Json.string (String.ofList value.toList), rest) = _
    rw [String.ofList_toList]
  | int value least greatest =>
    cases value with
    | ofNat n =>
      have hfits : n ≤ maxWord64 := Int.ofNat_le.1 greatest
      have hread : readNumber .keep false (Nat.toDigits 10 n ++ rest) = .ok (.integer n, rest) :=
        readNumber_toDigits hfits nofun hrest
      show readValue .keep (depth + 1) ((toString (n : Int)).toList ++ rest) = _
      rw [toList_toString_natCast]
      obtain ⟨first, others, hdigits, hfirst⟩ := exists_toDigits n
      rw [hdigits, List.cons_append] at hread ⊢
      rw [readValue_of_isDigit hfirst, hread]
      rfl
    | negSucc n =>
      have hleast : n + 1 ≤ 0x8000000000000000 := by omega
      have hfits : n + 1 ≤ maxWord64 := hleast.trans (by decide)
      have hread : readNumber .keep true (Nat.toDigits 10 (n + 1) ++ rest)
          = .ok (.integer (Int.negSucc n), rest) :=
        readNumber_toDigits hfits (fun _ => ⟨Nat.succ_pos n, hleast⟩) hrest
      show readValue .keep (depth + 1) ((toString (Int.negSucc n)).toList ++ rest) = _
      rw [toList_toString_negSucc]
      unfold readValue
      show (readNumber .keep true (Nat.toDigits 10 (n + 1) ++ rest)).map _ = _
      rw [hread]
      rfl

/-! ### Records -/

/-- A member on one line. -/
def memberChars (member : String × Json) : List Char :=
  (stringText member.1).toList ++ ':' :: (compact member.2).toList

theorem toList_compact_object (members : List (String × Json)) :
    (compact (.object members)).toList
      = '\x7b' :: ([','].intercalate (members.map memberChars) ++ ['\x7d']) := by
  have hmembers : (compactMembers members).map String.toList = members.map memberChars := by
    induction members with
    | nil => rw [compactMembers]; rfl
    | cons member members ih =>
      obtain ⟨name, value⟩ := member
      have hmember : (stringText name ++ ":" ++ compact value).toList
          = memberChars (name, value) := by
        rw [memberChars, String.toList_append, String.toList_append, List.append_assoc]
        rfl
      rw [compactMembers, List.map_cons, List.map_cons, ih, hmember]
  rw [compact, String.toList_append, String.toList_append, String.toList_intercalate, hmembers]
  rfl

section Members

variable {member : String × Json} {members : List (String × Json)} {rest : List Char}

theorem memberChars_append (name : String) (value : Json) (rest : List Char) :
    memberChars (name, value) ++ rest = '"' :: (name.toList.flatMap stringChar ++
      '"' :: ':' :: ((compact value).toList ++ rest)) := by
  rw [memberChars, toList_stringText]
  simp

theorem readMembers_comma (h : Scalar member.2) (depth size : Nat) (rest : List Char) :
    readMembers .keep (depth + 1) (size + 1) (memberChars member ++ ',' :: rest)
      = (readMembers .keep (depth + 1) size rest).map fun read => (member :: read.1, read.2) := by
  obtain ⟨name, value⟩ := member
  have hvalue := readValue_compact h depth (.comma rest)
  rw [memberChars_append]
  conv_lhs => unfold readMembers
  simp (disch := decide) only [skipBlanks_cons, readString_flatMap, hvalue, String.ofList_toList]

theorem readMembers_brace (h : Scalar member.2) (depth size : Nat) (rest : List Char) :
    readMembers .keep (depth + 1) (size + 1) (memberChars member ++ '\x7d' :: rest)
      = .ok ([member], rest) := by
  obtain ⟨name, value⟩ := member
  have hvalue := readValue_compact h depth (.brace rest)
  rw [memberChars_append]
  conv_lhs => unfold readMembers
  simp (disch := decide) only [skipBlanks_cons, readString_flatMap, hvalue, String.ofList_toList]

/-- **Members that have been written are read again**, up to the brace behind them. -/
theorem readMembers_compact (h : ∀ member ∈ members, Scalar member.2) (hsome : members ≠ [])
    (depth : Nat) {size : Nat} (hsize : members.length ≤ size) (rest : List Char) :
    readMembers .keep (depth + 1) size
        ([','].intercalate (members.map memberChars) ++ '\x7d' :: rest)
      = .ok (members, rest) := by
  induction members generalizing size with
  | nil => exact absurd rfl hsome
  | cons member members ih =>
    obtain ⟨left, rfl⟩ : ∃ left, size = left + 1 :=
      Nat.exists_eq_succ_of_ne_zero (Nat.ne_zero_of_lt hsize)
    have hmember := h member List.mem_cons_self
    -- Behind the last member stands the brace, behind any other a comma and the next one.
    cases members with
    | nil =>
      rw [List.map_singleton, List.intercalate_singleton]
      exact readMembers_brace hmember depth left rest
    | cons next members =>
      have hothers := ih (fun member hmem => h member (List.mem_cons_of_mem _ hmem))
        (List.cons_ne_nil next members) (Nat.le_of_succ_le_succ hsize)
      rw [List.map_cons, List.map_cons, List.intercalate_cons_cons, List.append_assoc,
        List.append_assoc, List.singleton_append, ← List.map_cons]
      refine (readMembers_comma hmember depth left _).trans ?_
      rw [hothers]
      rfl

theorem length_le_membersChars (members : List (String × Json)) :
    members.length ≤ ([','].intercalate (members.map memberChars)).length := by
  induction members with
  | nil => exact Nat.zero_le _
  | cons member members ih =>
    have hone : 1 ≤ (memberChars member).length := by
      rw [memberChars, List.length_append, List.length_cons]
      omega
    cases members with
    | nil =>
      rw [List.map_singleton, List.intercalate_singleton]
      exact hone
    | cons next members =>
      rw [List.map_cons] at ih
      rw [List.map_cons, List.map_cons, List.intercalate_cons_cons, List.length_append,
        List.length_append, List.length_cons]
      omega

/-- The text of members begins with the quote of the first name. -/
theorem exists_membersChars (hsome : members ≠ []) :
    ∃ behind, [','].intercalate (members.map memberChars) = '"' :: behind := by
  cases members with
  | nil => exact absurd rfl hsome
  | cons member members =>
    have hmember : ∃ behind, memberChars member = '"' :: behind :=
      ⟨_, by rw [memberChars, toList_stringText]; rfl⟩
    obtain ⟨behind, hbehind⟩ := hmember
    cases members with
    | nil => exact ⟨behind, by rw [List.map_singleton, List.intercalate_singleton, hbehind]⟩
    | cons next members =>
      rw [List.map_cons, List.map_cons, List.intercalate_cons_cons, hbehind]
      exact ⟨_, rfl⟩

/-- An object nests one level deeper than its members. -/
theorem readValue_object (h : ∀ member ∈ members, Scalar member.2) (depth : Nat) :
    readValue .keep (depth + 2) (compact (.object members)).toList
      = .ok (.object members, []) := by
  rw [toList_compact_object]
  unfold readValue
  by_cases hsome : members = []
  · subst hsome
    rfl
  · have hread : readMembers .keep (depth + 1)
          ([','].intercalate (members.map memberChars) ++ ['\x7d']).length
          ([','].intercalate (members.map memberChars) ++ ['\x7d']) = .ok (members, []) := by
      -- The reader takes as many members as there are characters, which is enough.
      refine readMembers_compact h hsome depth ?_ []
      have hlength := length_le_membersChars members
      rw [List.length_append]
      omega
    obtain ⟨behind, hbehind⟩ := exists_membersChars hsome
    rw [hbehind] at hread ⊢
    show (readMembers .keep (depth + 1) ('"' :: behind ++ ['\x7d']).length
      ('"' :: behind ++ ['\x7d'])).map _ = _
    rw [hread]
    rfl

/-- **A record that has been written is read again.** -/
theorem parse_compact_record (h : ∀ member ∈ members, Scalar member.2) :
    parse (compact (.object members)) = .ok (.object members) := by
  have hread : readValue .keep ((compact (.object members)).toList.length + 1)
      (compact (.object members)).toList = .ok (.object members, []) := by
    obtain ⟨depth, hdepth⟩ : ∃ depth, (compact (.object members)).toList.length = depth + 1 := by
      rw [toList_compact_object]
      exact ⟨_, List.length_cons⟩
    rw [hdepth]
    exact readValue_object h depth
  unfold parse
  simp only [hread]
  rfl

end Members

end TelemetryAuth.Json
