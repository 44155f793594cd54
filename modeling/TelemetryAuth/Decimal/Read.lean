import TelemetryAuth.Text.Blank
import TelemetryAuth.Text.Count

/-!
# Reading a floating-point number

A text is read as the floating-point number nearest to the decimal that it stands for.  Digits stand
before the point, behind it, or on both sides; a sign and an exponent are optional.  Words for
infinity and for what is no number are read in any mixture of capitals.  Nothing may stand around
the number.
-/

namespace TelemetryAuth.Decimal

/-- A sign in front of a text: whether it is a minus sign, and the text behind it. -/
def splitSign : List Char → Bool × List Char
  | '+' :: rest => (false, rest)
  | '-' :: rest => (true, rest)
  | cs => (false, cs)

/-- The exponent that a text ends with; an empty text stands for zero. -/
def readExponent? : List Char → Option Int
  | [] => some 0
  | letter :: rest =>
    let (negative, digits) := splitSign rest
    if (letter = 'e' ∨ letter = 'E') ∧ digits ≠ [] ∧ digits.all Char.isDigit then
      let value : Int := Text.digitsValue digits
      some (if negative then -value else value)
    else none

/-- The floating-point number nearest to `coefficient * 10 ^ exponent`.  Beyond these magnitudes
nothing but infinity and zero is left. -/
def nearestFloat (coefficient : Nat) (exponent : Int) : Float :=
  let magnitude := exponent + (Nat.toDigits 10 coefficient).length
  if coefficient = 0 ∨ magnitude < -400 then 0.0
  else if magnitude > 400 then 1.0 / 0.0
  else Float.ofScientific coefficient (exponent < 0) exponent.natAbs

/-- Reads a number without sign. -/
def readMagnitude? (cs : List Char) : Option Float :=
  let word := Text.lowerAscii cs
  if word = "inf".toList ∨ word = "infinity".toList then some (1.0 / 0.0)
  else if word = "nan".toList then some (0.0 / 0.0)
  else
    let whole := cs.takeWhile Char.isDigit
    let (fraction, rest) := match cs.dropWhile Char.isDigit with
      | '.' :: rest => (rest.takeWhile Char.isDigit, rest.dropWhile Char.isDigit)
      | rest => ([], rest)
    if whole ++ fraction = [] then none
    else (readExponent? rest).map fun exponent =>
      nearestFloat (Text.digitsValue (whole ++ fraction)) (exponent - fraction.length)

/-- Reads a number. -/
def readFloat? (text : String) : Option Float :=
  let (negative, cs) := splitSign text.toList
  (readMagnitude? cs).map fun x => if negative then -x else x

end TelemetryAuth.Decimal
