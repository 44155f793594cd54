/-!
# The shortest decimal of a floating-point number

A positive number of 64 bits is `m * 2 ^ q`, and every real of an interval around it is rounded to
it; the ends of the interval belong to it when `m` is even.  `shortest` tries one digit, two digits
and so on, each time with the two neighbours of the number on that decimal grid, and takes the first
grid on which a neighbour lies in the interval, the nearer one if both do.  Where both are equally
near, a `Tie` says which one is taken.  Seventeen digits always suffice.  All arithmetic is on
natural numbers.
-/

namespace TelemetryAuth.Decimal

/-- The decimal `coefficient * 10 ^ exponent`. -/
structure Scaled where
  coefficient : Nat
  exponent : Int
  deriving DecidableEq

/-- Which of two equally near decimals is taken: the greater one, or the one whose last digit is
even. -/
inductive Tie
  | upward
  | toEven
  deriving DecidableEq

/-- A power of two; a negative exponent counts as zero. -/
def twoTo (exponent : Int) : Nat := Nat.pow 2 exponent.toNat

/-- A power of ten; a negative exponent counts as zero. -/
def tenTo (exponent : Int) : Nat := Nat.pow 10 exponent.toNat

/-- A positive rational and the ends of the interval around it, over one denominator. -/
structure Neighbourhood where
  low : Nat
  value : Nat
  high : Nat
  denominator : Nat
  closed : Bool

/-- The neighbourhood of `m * 2 ^ q`.  Below a power of two the next number is half as far away,
except at the bottom of the range. -/
def neighbourhood (m : Nat) (q : Int) : Neighbourhood :=
  let below := if m = twoTo 52 ∧ q > -1074 then 1 else 2
  let scale := twoTo (q - 2)
  { low := (4 * m - below) * scale
    value := 4 * m * scale
    high := (4 * m + 2) * scale
    denominator := twoTo (2 - q)
    closed := m % 2 = 0 }

/-- Whether `coefficient * 10 ^ exponent` lies in a neighbourhood. -/
def Neighbourhood.contains (n : Neighbourhood) (d : Scaled) : Bool :=
  let up := d.coefficient * tenTo d.exponent * n.denominator
  let down := tenTo (-d.exponent)
  if n.closed then n.low * down ≤ up && up ≤ n.high * down
  else n.low * down < up && up < n.high * down

/-- The distance from the value, in units that are the same for all decimals of one exponent. -/
def Neighbourhood.distance (n : Neighbourhood) (d : Scaled) : Nat :=
  let up := d.coefficient * tenTo d.exponent * n.denominator
  let value := n.value * tenTo (-d.exponent)
  (up - value) + (value - up)

/-- The number of digits in front of the decimal point; negative or zero for a small number. -/
def Neighbourhood.magnitude (n : Neighbourhood) : Int :=
  let guess : Int := (Nat.toDigits 10 n.value).length - (Nat.toDigits 10 n.denominator).length
  if n.value * tenTo (-guess) < n.denominator * tenTo guess then guess else guess + 1

/-- Which of the decimals below and above a value is nearer to it. -/
def Neighbourhood.nearer (n : Neighbourhood) (tie : Tie) (below above : Scaled) : Scaled :=
  if n.distance below < n.distance above then below
  else if n.distance above < n.distance below then above
  else if tie = .toEven ∧ below.coefficient % 2 = 0 then below
  else above

/-- The best decimal of a neighbourhood on one grid. -/
def Neighbourhood.onGrid? (n : Neighbourhood) (tie : Tie) (exponent : Int) : Option Scaled :=
  let floor := n.value * tenTo (-exponent) / (n.denominator * tenTo exponent)
  let below : Scaled := ⟨floor, exponent⟩
  let above : Scaled := ⟨floor + 1, exponent⟩
  match n.contains below, n.contains above with
  | true, true => some (n.nearer tie below above)
  | true, false => some below
  | false, true => some above
  | false, false => none

/-- The decimal without zeros at the end of its coefficient. -/
def Scaled.strip (d : Scaled) : Nat → Scaled
  | 0 => d
  | fuel + 1 =>
    if d.coefficient ≠ 0 ∧ d.coefficient % 10 = 0 then
      Scaled.strip ⟨d.coefficient / 10, d.exponent + 1⟩ fuel
    else d

/-- The shortest decimal that is rounded to `m * 2 ^ q`. -/
def shortest (tie : Tie) (m : Nat) (q : Int) : Scaled :=
  let n := neighbourhood m q
  let grids := (List.range 17).map fun digits : Nat => n.magnitude - (digits + 1)
  match grids.findSome? (n.onGrid? tie) with
  | some d => d.strip 20
  | none => ⟨m * twoTo q, 0⟩

/-! ### Samples: a half, a third, the smallest number, and a quarter behind fifteen digits -/

example : shortest .toEven (twoTo 52) (-53) = ⟨5, -1⟩ := by decide +kernel
example : shortest .toEven 6004799503160661 (-54) = ⟨3333333333333333, -16⟩ := by decide +kernel
example : shortest .toEven 1 (-1074) = ⟨5, -324⟩ := by decide +kernel
example : shortest .toEven (twoTo 52 + 1) (-2) = ⟨11258999068426242, -1⟩ := by decide +kernel
example : shortest .upward (twoTo 52 + 1) (-2) = ⟨11258999068426243, -1⟩ := by decide +kernel

end TelemetryAuth.Decimal
