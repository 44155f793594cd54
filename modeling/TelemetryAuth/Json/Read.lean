import TelemetryAuth.Json.Basic
import TelemetryAuth.Text.Count

/-!
# Reading JSON text

Each reader takes the text that is left and answers a value with the text behind it, or a `Failure`
with the cause and the place.  The text is seen byte by byte: `Failure.seen` says how many bytes
beyond the text that was taken have been seen, and `Failure.position` counts lines and bytes up to
there.

The readers are shared: `Json.parse` reads any value, and a reader for a fixed record reads the
members it knows by these functions and passes over the others by `readValue`.  A value that is
passed over must be well formed, but no use is made of it (`Care`): no number is out of range there,
and escapes need not be characters.
-/

namespace TelemetryAuth.Json

/-- The cause of a failure to read JSON text. -/
inductive Fault
  | endInList | endInObject | endInString | endInValue
  | noColon | noCommaInList | noCommaInObject
  | noIdent | noValue | badEscape | badNumber | numberOutOfRange
  | controlCharacter | keyNotString | loneSurrogate | unfinishedSurrogate
  | trailingComma | trailingCharacters
  | other (message : String)
  deriving DecidableEq

/-- The wording of a cause. -/
def Fault.message : Fault → String
  | .endInList => "EOF while parsing a list"
  | .endInObject => "EOF while parsing an object"
  | .endInString => "EOF while parsing a string"
  | .endInValue => "EOF while parsing a value"
  | .noColon => "expected \x60:\x60"
  | .noCommaInList => "expected \x60,\x60 or \x60]\x60"
  | .noCommaInObject => "expected \x60,\x60 or \x60\x7d\x60"
  | .noIdent => "expected ident"
  | .noValue => "expected value"
  | .badEscape => "invalid escape"
  | .badNumber => "invalid number"
  | .numberOutOfRange => "number out of range"
  | .controlCharacter =>
    "control character (\\u0000-\\u001F) found while parsing a string"
  | .keyNotString => "key must be a string"
  | .loneSurrogate => "lone leading surrogate in hex escape"
  | .unfinishedSurrogate => "unexpected end of hex escape"
  | .trailingComma => "trailing comma"
  | .trailingCharacters => "trailing characters"
  | .other message => message

/-- A failure: its cause, the text that was left, and how many bytes of it have been seen. -/
structure Failure where
  fault : Fault
  rest : List Char
  seen : Nat

/-- A failure behind the text that was taken. -/
def failHere {α : Type} (fault : Fault) (rest : List Char) : Except Failure α :=
  .error ⟨fault, rest, 0⟩

/-- A failure at the first byte that is left. -/
def failAhead {α : Type} (fault : Fault) (rest : List Char) : Except Failure α :=
  .error ⟨fault, rest, 1⟩

/-- How a value is read: to be kept, or to be passed over. -/
inductive Care
  | keep
  | pass
  deriving DecidableEq

/-! ### Places -/

/-- The line and the byte in the line behind some bytes of a text, from a line and a byte on. -/
def advance (bytes line column : Nat) : List Char → Nat × Nat
  | [] => (line, column)
  | c :: rest =>
    if bytes = 0 then (line, column)
    else if c = '\n' then advance (bytes - 1) (line + 1) 0 rest
    else advance (bytes - c.utf8Size) line (column + min bytes c.utf8Size) rest

/-- The number of bytes of a text. -/
def byteCount (cs : List Char) : Nat := cs.foldl (fun count c => count + c.utf8Size) 0

/-- The line and the byte in the line at which a failure is reported. -/
def Failure.position (failure : Failure) (text : List Char) : Nat × Nat :=
  advance (byteCount text - byteCount failure.rest + failure.seen) 1 0 text

/-- The wording of a failure with its place. -/
def Failure.message (failure : Failure) (text : List Char) : String :=
  let (line, column) := failure.position text
  failure.fault.message ++ " at line " ++ toString line ++ " column " ++ toString column

/-! ### Blanks and words -/

/-- The text behind blanks. -/
def skipBlanks (cs : List Char) : List Char :=
  cs.dropWhile fun c => c == ' ' || c == '\n' || c == '\t' || c == '\r'

/-- The text behind the remaining letters of a word. -/
def readWord : List Char → List Char → Except Failure (List Char)
  | [], rest => .ok rest
  | _ :: _, [] => failHere .endInValue []
  | letter :: letters, c :: rest =>
    if c = letter then readWord letters rest else failAhead .noIdent (c :: rest)

/-! ### Strings -/

/-- How far a string has been read: in plain text, behind a backslash, some bytes into the four
hexadecimal digits of an escape, or between the two halves of a character that takes two escapes. -/
inductive Within
  | plain
  | escape
  | hex (bytes : Nat) (value : Option Nat) (high : Option Nat)
  | secondSlash (high : Nat)
  | secondLetter (high : Nat)

/-- The value of a hexadecimal digit. -/
def hexValue? (c : Char) : Option Nat :=
  if '0' ≤ c ∧ c ≤ '9' then some (c.toNat - '0'.toNat)
  else if 'a' ≤ c ∧ c ≤ 'f' then some (c.toNat - 'a'.toNat + 10)
  else if 'A' ≤ c ∧ c ≤ 'F' then some (c.toNat - 'A'.toNat + 10)
  else none

/-- The character of an escape with one letter. -/
def escapeLetter? : Char → Option Char
  | '"' => some '"'
  | '\\' => some '\\'
  | '/' => some '/'
  | 'b' => some '\x08'
  | 'f' => some '\x0c'
  | 'n' => some '\n'
  | 'r' => some '\r'
  | 't' => some '\t'
  | _ => none

/-- What follows a complete escape: the next place in the string and the character it stands for.
In a string that is passed over, half of a character stands for none. -/
def closeHex (care : Care) (value : Nat) (high : Option Nat) :
    Except Fault (Within × Option Char) :=
  if care = .pass then .ok (.plain, none)
  else match high with
    | some first =>
      if 0xDC00 ≤ value ∧ value ≤ 0xDFFF then
        .ok (.plain, some (Char.ofNat ((first - 0xD800) * 0x400 + (value - 0xDC00) + 0x10000)))
      else .error .loneSurrogate
    | none =>
      if 0xDC00 ≤ value ∧ value ≤ 0xDFFF then .error .loneSurrogate
      else if 0xD800 ≤ value ∧ value ≤ 0xDBFF then .ok (.secondSlash value, none)
      else .ok (.plain, some (Char.ofNat value))

/-- One character of a string that does not close it; a fault comes with the number of bytes of the
character that have been seen.  An escape has four bytes, whatever characters they belong to. -/
def stringStep (care : Care) (within : Within) (c : Char) :
    Except (Fault × Nat) (Within × Option Char) :=
  match within with
  | .plain =>
    if c = '\\' then .ok (.escape, none)
    else if c.toNat < 0x20 then .error (.controlCharacter, 1)
    else .ok (.plain, some c)
  | .escape =>
    if c = 'u' then .ok (.hex 0 (some 0) none, none)
    else match escapeLetter? c with
      | some letter => .ok (.plain, some letter)
      | none => .error (.badEscape, 1)
  | .hex bytes value high =>
    let value := do return (← value) * 16 + (← hexValue? c)
    if bytes + c.utf8Size < 4 then .ok (.hex (bytes + c.utf8Size) value high, none)
    else match value with
      | some value => (closeHex care value high).mapError fun fault => (fault, 1)
      | none => .error (.badEscape, 4 - bytes)
  | .secondSlash high =>
    if c = '\\' then .ok (.secondLetter high, none) else .error (.unfinishedSurrogate, 1)
  | .secondLetter high =>
    if c = 'u' then .ok (.hex 0 (some 0) (some high), none) else .error (.unfinishedSurrogate, 1)

/-- The characters of a string up to its closing quote, and the text behind it. -/
def readString (care : Care) (within : Within) :
    List Char → Except Failure (List Char × List Char)
  | [] => failHere .endInString []
  | c :: rest =>
    match within, c with
    | .plain, '"' => .ok ([], rest)
    | within, c =>
      match stringStep care within c with
      | .error (fault, seen) => .error ⟨fault, c :: rest, seen⟩
      | .ok (within, produced) =>
        match readString care within rest with
        | .error failure => .error failure
        | .ok (chars, rest) => .ok (produced.toList ++ chars, rest)

/-! ### Numbers -/

/-- The digits in front of a text and the text behind them. -/
def spanDigits (cs : List Char) : List Char × List Char :=
  (cs.takeWhile Char.isDigit, cs.dropWhile Char.isDigit)

/-- The fault of a text that ends where a digit must stand. -/
def Care.endFault : Care → Fault
  | .keep => .endInValue
  | .pass => .badNumber

/-- A number that has been read.  One that is kept must not be out of range. -/
def checkRange (care : Care) (number : Number) (rest : List Char) :
    Except Failure (Number × List Char) :=
  if care = .keep ∧ number.toFloat?.isNone then failAhead .numberOutOfRange rest
  else .ok (number, rest)

/-- The exponent behind its letter: whether it is negative, its digits, and the text behind it. -/
def readExponent (care : Care) (cs : List Char) : Except Failure (Bool × List Char × List Char) :=
  let (negative, cs) := match cs with
    | '+' :: rest => (false, rest)
    | '-' :: rest => (true, rest)
    | _ => (false, cs)
  match cs with
  | [] => failHere care.endFault []
  | c :: _ =>
    if c.isDigit then .ok (negative, spanDigits cs) else failAhead .badNumber cs

/-- The greatest exponent that can be written, without its sign. -/
def maxExponent : Nat := 0x7FFFFFFF

/-- The value of the digits of an exponent, or the digits behind the one with which it becomes too
great. -/
def exponentValue (value : Nat) : List Char → Except (List Char) Nat
  | [] => .ok value
  | digit :: digits =>
    let value := 10 * value + Text.digitValue digit
    if value ≤ maxExponent then exponentValue value digits else .error digits

/-- A decimal behind its significand.  With an exponent that is too great, a number that is not zero
is out of range, or zero if the exponent is negative. -/
def readScaled (care : Care) (negative : Bool) (taken : Significand) (cs : List Char) :
    Except Failure (Number × List Char) :=
  match cs with
  | [] => checkRange care (.decimal negative taken.value taken.exponent) []
  | c :: rest =>
    if c = 'e' ∨ c = 'E' then do
      let (down, digits, rest) ← readExponent care rest
      match exponentValue 0 digits with
      | .ok value =>
        let exponent := if down then taken.exponent - value else taken.exponent + value
        checkRange care (.decimal negative taken.value exponent) rest
      | .error left =>
        if care = .pass ∨ taken.value = 0 ∨ down then .ok (.decimal negative 0 0, rest)
        else failHere .numberOutOfRange (left ++ rest)
    else checkRange care (.decimal negative taken.value taken.exponent) cs

/-- A number behind its sign. -/
def readNumber (care : Care) (negative : Bool) (cs : List Char) :
    Except Failure (Number × List Char) :=
  match cs with
  | [] => failHere care.endFault []
  | first :: behind =>
    if !first.isDigit then failAhead .badNumber cs
    else
      let (whole, rest) := spanDigits cs
      if first = '0' ∧ whole.length > 1 then failAhead .badNumber behind
      else match rest with
        | '.' :: rest =>
          match spanDigits rest with
          | ([], []) => failHere care.endFault []
          | ([], rest) => failAhead .badNumber rest
          | (fraction, rest) =>
            readScaled care negative ((Significand.ofWhole 0 whole).addFraction fraction) rest
        | c :: _ =>
          if c = 'e' ∨ c = 'E' then readScaled care negative (.ofWhole 0 whole) rest
          else checkRange care (.ofDigits negative whole) rest
        | [] => checkRange care (.ofDigits negative whole) []

/-! ### Values -/

mutual

/-- A value and the text behind it.  The number bounds the depth of nesting. -/
def readValue (care : Care) : Nat → List Char → Except Failure (Json × List Char)
  | 0, cs => failHere .noValue cs
  | depth + 1, cs =>
    match skipBlanks cs with
    | [] => failAhead .endInValue []
    | 'n' :: rest => (readWord "ull".toList rest).map fun rest => (.null, rest)
    | 't' :: rest => (readWord "rue".toList rest).map fun rest => (.bool true, rest)
    | 'f' :: rest => (readWord "alse".toList rest).map fun rest => (.bool false, rest)
    | '"' :: rest =>
      (readString care .plain rest).map fun (chars, rest) => (.string (String.ofList chars), rest)
    | '-' :: rest => (readNumber care true rest).map fun (value, rest) => (.number value, rest)
    | '[' :: rest =>
      match skipBlanks rest with
      | ']' :: rest => .ok (.array [], rest)
      | [] => failAhead .endInList []
      | rest =>
        (readItems care depth rest.length rest).map fun (items, rest) => (.array items, rest)
    | '\x7b' :: rest =>
      match skipBlanks rest with
      | '\x7d' :: rest => .ok (.object [], rest)
      | [] => failAhead .endInObject []
      | rest =>
        (readMembers care depth rest.length rest).map fun (members, rest) => (.object members, rest)
    | c :: rest =>
      if c.isDigit then
        (readNumber care false (c :: rest)).map fun (value, rest) => (.number value, rest)
      else failAhead .noValue (c :: rest)

/-- The items of an array from the first one on, and the text behind the closing bracket. -/
def readItems (care : Care) : Nat → Nat → List Char → Except Failure (List Json × List Char)
  | _, 0, cs => failHere .noValue cs
  | depth, size + 1, cs =>
    match readValue care depth cs with
    | .error failure => .error failure
    | .ok (item, rest) =>
      match skipBlanks rest with
      | [] => failAhead .endInList []
      | ']' :: rest => .ok ([item], rest)
      | ',' :: rest =>
        (readItems care depth size rest).map fun (items, rest) => (item :: items, rest)
      | rest => failAhead .noCommaInList rest

/-- The members of an object from the first one on, and the text behind the closing brace. -/
def readMembers (care : Care) :
    Nat → Nat → List Char → Except Failure (List (String × Json) × List Char)
  | _, 0, cs => failHere .noValue cs
  | depth, size + 1, cs =>
    match skipBlanks cs with
    | [] => failAhead .endInObject []
    | '"' :: rest =>
      match readString care .plain rest with
      | .error failure => .error failure
      | .ok (name, rest) =>
        match skipBlanks rest with
        | [] => failAhead .endInObject []
        | ':' :: rest =>
          match readValue care depth rest with
          | .error failure => .error failure
          | .ok (value, rest) =>
            match skipBlanks rest with
            | [] => failAhead .endInObject []
            | '\x7d' :: rest => .ok ([(String.ofList name, value)], rest)
            | ',' :: rest =>
              (readMembers care depth size rest).map fun (members, rest) =>
                ((String.ofList name, value) :: members, rest)
            | rest => failAhead .noCommaInObject rest
        | rest => failAhead .noColon rest
    | rest => failAhead .keyNotString rest

end

/-- Nothing but blanks may follow a document. -/
def readEnd (cs : List Char) : Except Failure Unit :=
  match skipBlanks cs with
  | [] => .ok ()
  | rest => failAhead .trailingCharacters rest

/-- Reads a whole text as one value.  A text of `n` characters nests less than `n + 1` deep. -/
def parse (text : String) : Except Failure Json := do
  let cs := text.toList
  let (value, rest) ← readValue .keep (cs.length + 1) cs
  readEnd rest
  return value

end TelemetryAuth.Json
