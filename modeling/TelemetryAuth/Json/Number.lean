import TelemetryAuth.Decimal.Text

/-!
# Numbers of JSON text

A number keeps the distinction that its text makes: an integer is written with digits only and has
at most 64 bits, and any other number is a decimal `± significand · 10 ^ exponent`.

A significand has at most 64 bits as well.  `Significand` takes digits as long as they fit; from the
first one that does not fit, digits in front of the point count as zeros, and digits behind it are
dropped.

`Number.toFloat?` is the floating-point number that a number stands for.  Of a decimal, first the
significand is rounded and then each multiplication by a power of ten, so the result may be a
neighbour of the nearest one.
-/

namespace TelemetryAuth.Json

/-- A number as it is written. -/
inductive Number
  | integer (value : Int)
  | decimal (negative : Bool) (significand : Nat) (exponent : Int)
  deriving DecidableEq, Inhabited

/-! ### Digits that are taken -/

/-- The number `value * 10 ^ exponent`, where the value has at most 64 bits. -/
structure Significand where
  value : Nat
  exponent : Int
  deriving DecidableEq

namespace Significand

/-- Takes digits in front of the point, behind those that make up `value`. -/
def ofWhole (value : Nat) : List Char → Significand
  | [] => ⟨value, 0⟩
  | digit :: digits =>
    let next := 10 * value + Text.digitValue digit
    if next ≤ Text.maxWord64 then ofWhole next digits else ⟨value, (digit :: digits).length⟩

/-- Takes digits behind the point. -/
def addFraction (taken : Significand) : List Char → Significand
  | [] => taken
  | digit :: digits =>
    let next := 10 * taken.value + Text.digitValue digit
    if next ≤ Text.maxWord64 then addFraction ⟨next, taken.exponent - 1⟩ digits else taken

end Significand

/-- The number that a sign and digits without a point stand for.  A negative zero keeps its sign as
a decimal. -/
def Number.ofDigits (negative : Bool) (digits : List Char) : Number :=
  let taken := Significand.ofWhole 0 digits
  if taken.exponent ≠ 0 ∨ (negative ∧ (taken.value = 0 ∨ taken.value > 0x8000000000000000)) then
    .decimal negative taken.value taken.exponent
  else .integer (if negative then -taken.value else taken.value)

/-! ### Values -/

/-- The greatest power of ten that is a floating-point number. -/
def maxPower : Nat := 308

/-- The floating-point number next to a power of ten. -/
def powerOfTen (exponent : Nat) : Float := Float.ofScientific 1 false exponent

/-- A floating-point number times a power of ten, each step rounded; `none` where the result is
beyond all floating-point numbers.  A power below the smallest takes several steps. -/
def scale? (x : Float) (exponent : Int) : Option Float :=
  if exponent > maxPower then
    if x == 0 then some x else none
  else if 0 ≤ exponent then
    let scaled := x * powerOfTen exponent.toNat
    if scaled.isInf then none else some scaled
  else if exponent ≥ -maxPower then some (x / powerOfTen exponent.natAbs)
  else if x == 0 then some x
  else scale? (x / powerOfTen maxPower) (exponent + maxPower)
termination_by (-exponent).toNat
decreasing_by simp only [maxPower] at *; omega

/-- The floating-point number that a number stands for, unless it is out of range. -/
def Number.toFloat? : Number → Option Float
  | .integer value => some (Float.ofInt value)
  | .decimal negative significand exponent =>
    (scale? (Float.ofNat significand) exponent).map fun x => if negative then -x else x

/-- The written form of a number; nothing stands for one that is out of range. -/
def Number.text (number : Number) : String :=
  match number with
  | .integer value => toString value
  | .decimal _ _ _ => (number.toFloat?.map (Decimal.textOfFloat .wide)).getD "null"

/-! ### Samples: the last digits that fit -/

example : Number.ofDigits false "18446744073709551615".toList = .integer Text.maxWord64 := by
  decide +kernel
example : Number.ofDigits false "18446744073709551616".toList
    = .decimal false 1844674407370955161 1 := by
  decide +kernel
example : (Significand.ofWhole 0 ['1']).addFraction ['2', '5'] = ⟨125, -2⟩ := by decide

end TelemetryAuth.Json
