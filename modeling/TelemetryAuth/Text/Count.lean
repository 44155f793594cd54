/-!
# Natural numbers in decimal

`readCount?` accepts one optional plus sign and then ASCII digits only, at least one of them, and
refuses a value above a limit instead of cutting it off.
-/

namespace TelemetryAuth.Text

/-- The largest number of 64 bits. -/
def maxWord64 : Nat := 0xFFFFFFFFFFFFFFFF

/-- The value of a decimal digit. -/
def digitValue (digit : Char) : Nat := digit.toNat - '0'.toNat

/-- The value of a list of decimal digits, the most significant first. -/
def digitsValue (digits : List Char) : Nat :=
  digits.foldl (fun value digit => 10 * value + digitValue digit) 0

/-- The text after one leading plus sign, or the whole text if there is none. -/
def dropPlus : List Char → List Char
  | '+' :: rest => rest
  | cs => cs

/-- Reads a number that is at most `limit`. -/
def readCount? (limit : Nat) (cs : List Char) : Option Nat :=
  let digits := dropPlus cs
  if digits ≠ [] ∧ digits.all Char.isDigit ∧ digitsValue digits ≤ limit then
    some (digitsValue digits)
  else none

/-- A number in decimal with zeros in front up to a width. -/
def padded (width n : Nat) : List Char :=
  let digits := Nat.toDigits 10 n
  List.replicate (width - digits.length) '0' ++ digits

/-! ### Samples: the limits of the grammar -/

example : readCount? maxWord64 "+007".toList = some 7 := by decide
example : readCount? maxWord64 "18446744073709551615".toList = some maxWord64 := by decide
example : readCount? maxWord64 "18446744073709551616".toList = none := by decide
example : readCount? maxWord64 "+".toList = none := by decide
example : readCount? maxWord64 "-1".toList = none := by decide

end TelemetryAuth.Text
