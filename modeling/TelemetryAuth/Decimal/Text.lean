import TelemetryAuth.Decimal.Shortest
import TelemetryAuth.Text.Count

/-!
# The text of a floating-point number

A number is written with its shortest digits.  A `Layout` says which digits are taken in a tie, and
between which magnitudes the digits are written around a decimal point; outside of them the text has
an exponent, with or without a plus sign.
-/

namespace TelemetryAuth.Decimal

/-- The magnitudes (digits in front of the decimal point) of numbers that are written without an
exponent, whether a positive exponent has its sign, and which digits are taken in a tie. -/
structure Layout where
  smallest : Int
  largest : Int
  plusSign : Bool
  tie : Tie

/-- The layout of a number in a log: 0.0001 and all below 10^16 are written out. -/
def Layout.log : Layout := ⟨-3, 16, false, .upward⟩

/-- The layout of a number in JSON text and in messages about it: one place further down. -/
def Layout.wide : Layout := ⟨-4, 16, true, .toEven⟩

/-- The digits of a positive decimal, in a layout. -/
def positiveText (layout : Layout) (d : Scaled) : List Char :=
  let digits := Nat.toDigits 10 d.coefficient
  let point : Int := digits.length + d.exponent
  if layout.smallest ≤ point ∧ point ≤ layout.largest then
    if point ≤ 0 then ['0', '.'] ++ List.replicate (-point).toNat '0' ++ digits
    else if digits.length ≤ point.toNat then
      digits ++ List.replicate (point.toNat - digits.length) '0' ++ ['.', '0']
    else digits.take point.toNat ++ ['.'] ++ digits.drop point.toNat
  else
    let fraction := digits.drop 1
    digits.take 1 ++ (if fraction = [] then [] else '.' :: fraction) ++ ['e'] ++
      (if layout.plusSign ∧ point > 0 then ['+'] else []) ++ (toString (point - 1)).toList

/-- The text of the number with the given 64 bits: sign, eleven bits of exponent, 52 of fraction. -/
def textOfBits (layout : Layout) (bits : Nat) : String :=
  let negative := bits / twoTo 63 % 2 = 1
  let exponent : Nat := bits / twoTo 52 % twoTo 11
  let fraction : Nat := bits % twoTo 52
  let written (m : Nat) (q : Int) : List Char := positiveText layout (shortest layout.tie m q)
  let magnitude :=
    if exponent = 2047 then if fraction = 0 then "inf".toList else "NaN".toList
    else if exponent = 0 then if fraction = 0 then "0.0".toList else written fraction (-1074)
    else written (twoTo 52 + fraction) (Int.ofNat exponent - 1075)
  if exponent = 2047 ∧ fraction ≠ 0 then "NaN"
  else String.ofList (if negative then '-' :: magnitude else magnitude)

/-- The text of a number in a layout. -/
def textOfFloat (layout : Layout) (x : Float) : String := textOfBits layout x.toBits.toNat

/-! ### Samples: one and a half, minus a quarter, ten to the sixteenth and to minus five -/

example : textOfBits .log 0x3FF8000000000000 = "1.5" := by decide +kernel
example : textOfBits .log 0xBFD0000000000000 = "-0.25" := by decide +kernel
example : textOfBits .log 0x4341C37937E08000 = "1e16" := by decide +kernel
example : textOfBits .wide 0x4341C37937E08000 = "1e+16" := by decide +kernel
example : textOfBits .log 0x3EE4F8B588E368F1 = "1e-5" := by decide +kernel
example : textOfBits .wide 0x3EE4F8B588E368F1 = "0.00001" := by decide +kernel

end TelemetryAuth.Decimal
