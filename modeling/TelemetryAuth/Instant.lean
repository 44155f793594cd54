import TelemetryAuth.Text.Count

/-!
# Instants

An instant is a number of whole seconds since the start of 1970 in universal time and a number of
nanoseconds.  The instants from the first of January of the year -262143 to the end of the year
262142 can be held.  In the last second of a minute the nanoseconds may reach a second and more:
these are the instants of a leap second, which lie between the last second of the minute and the
first of the next.  A step of whole seconds leaves a leap second: a step forward as if it were the
last second of the minute, and a step back as if it were the next second.  A step out of the range
has no result (`plusSeconds?`, `minusSeconds?`).

The written form is the calendar date and the time of day with as many groups of three decimal
places as are needed; a leap second is second 60.  A year outside 0 to 9999 carries its sign.
-/

namespace TelemetryAuth

/-- The nanoseconds in a second. -/
def nanosPerSecond : Nat := 1000000000

/-- The seconds that an instant can hold, counted from the start of 1970. -/
def InSecondRange (seconds : Int) : Prop :=
  -8334601228800 ≤ seconds ∧ seconds ≤ 8210266876799

instance (seconds : Int) : Decidable (InSecondRange seconds) :=
  inferInstanceAs (Decidable (_ ∧ _))

/-- The nanoseconds that may stand beside some seconds: less than a second, or less than two in the
last second of a minute. -/
def FitsSecond (seconds : Int) (subsecond : Nat) : Prop :=
  subsecond < nanosPerSecond ∨ (subsecond < 2 * nanosPerSecond ∧ seconds % 60 = 59)

instance (seconds : Int) (subsecond : Nat) : Decidable (FitsSecond seconds subsecond) :=
  inferInstanceAs (Decidable (_ ∨ _))

/-- An instant: seconds since the start of 1970 and nanoseconds. -/
structure Instant where
  seconds : Int
  subsecond : Nat
  seconds_inRange : InSecondRange seconds
  subsecond_fits : FitsSecond seconds subsecond
  deriving DecidableEq

namespace Instant

/-! ### Order -/

/-- Whether an instant comes before another: by seconds, then by nanoseconds. -/
def isBefore (a b : Instant) : Prop :=
  a.seconds < b.seconds ∨ (a.seconds = b.seconds ∧ a.subsecond < b.subsecond)

/-- Whether an instant comes before another or is the same. -/
def isUpTo (a b : Instant) : Prop :=
  a.seconds < b.seconds ∨ (a.seconds = b.seconds ∧ a.subsecond ≤ b.subsecond)

instance : LT Instant := ⟨isBefore⟩
instance : LE Instant := ⟨isUpTo⟩
instance (a b : Instant) : Decidable (a < b) := inferInstanceAs (Decidable (_ ∨ _))
instance (a b : Instant) : Decidable (a ≤ b) := inferInstanceAs (Decidable (_ ∨ _))

theorem le_iff (a b : Instant) : a ≤ b ↔
    a.seconds < b.seconds ∨ (a.seconds = b.seconds ∧ a.subsecond ≤ b.subsecond) := Iff.rfl

theorem lt_iff (a b : Instant) : a < b ↔
    a.seconds < b.seconds ∨ (a.seconds = b.seconds ∧ a.subsecond < b.subsecond) := Iff.rfl

/-! ### Construction -/

/-- The earliest instant. -/
def earliest : Instant := ⟨-8334601228800, 0, by decide, by decide⟩

/-- The latest instant outside of a leap second. -/
def latest : Instant := ⟨8210266876799, 999999999, by decide, by decide⟩

/-- The instant of some seconds and nanoseconds since the start of 1970, if it can be held. -/
def ofUnix? (seconds : Int) (subsecond : Nat) : Option Instant :=
  if h : InSecondRange seconds ∧ FitsSecond seconds subsecond then
    some ⟨seconds, subsecond, h.1, h.2⟩
  else none

/-- The nanoseconds since the start of 1970, where a leap second counts as the next second. -/
def nanos (t : Instant) : Int := t.seconds * nanosPerSecond + t.subsecond

/-- The instant of a number of nanoseconds outside of a leap second, if it can be held. -/
def ofNanos? (nanos : Int) : Option Instant :=
  ofUnix? (nanos / nanosPerSecond) (nanos % nanosPerSecond).toNat

/-- The instant some seconds later, if it can be held. -/
def plusSeconds? (t : Instant) (seconds : Int) : Option Instant :=
  if 0 < seconds then ofUnix? (t.seconds + seconds) (t.subsecond % nanosPerSecond)
  else if seconds = 0 then some t
  else ofNanos? (t.nanos + seconds * nanosPerSecond)

/-- The instant some seconds earlier, if it can be held. -/
def minusSeconds? (t : Instant) (seconds : Int) : Option Instant := t.plusSeconds? (-seconds)

/-! ### The calendar -/

/-- The year, month and day that a day of the proleptic Gregorian calendar has, for the days counted
from the start of 1970.  Years begin in March here, so that a leap day ends its year; a period of
400 years has 146097 days. -/
def civilDate (day : Int) : Int × Nat × Nat :=
  let shifted := day + 719468
  let era := shifted / 146097
  let ofEra := (shifted % 146097).toNat
  let yearOfEra := (ofEra - ofEra / 1460 + ofEra / 36524 - ofEra / 146096) / 365
  let ofYear := ofEra - (365 * yearOfEra + yearOfEra / 4 - yearOfEra / 100)
  let marchMonth := (5 * ofYear + 2) / 153
  let month := if marchMonth < 10 then marchMonth + 3 else marchMonth - 9
  let year : Int := yearOfEra + era * 400
  (if month ≤ 2 then year + 1 else year, month, ofYear - (153 * marchMonth + 2) / 5 + 1)

/-- A year with four digits at least, and with its sign outside 0 to 9999. -/
def yearText (year : Int) : List Char :=
  if 0 ≤ year ∧ year ≤ 9999 then Text.padded 4 year.toNat
  else (if year < 0 then '-' else '+') :: Text.padded 4 year.natAbs

/-- The decimal places of a second in groups of three; none for a whole second. -/
def fractionText (nanos : Nat) : List Char :=
  if nanos = 0 then []
  else if nanos % 1000000 = 0 then '.' :: Text.padded 3 (nanos / 1000000)
  else if nanos % 1000 = 0 then '.' :: Text.padded 6 (nanos / 1000)
  else '.' :: Text.padded 9 nanos

/-- The date and the time of day in universal time. -/
def text (t : Instant) : String :=
  let (year, month, day) := civilDate (t.seconds / 86400)
  let ofDay := (t.seconds % 86400).toNat
  String.ofList <|
    yearText year ++ ['-'] ++ Text.padded 2 month ++ ['-'] ++ Text.padded 2 day ++ ['T'] ++
      Text.padded 2 (ofDay / 3600) ++ [':'] ++ Text.padded 2 (ofDay / 60 % 60) ++ [':'] ++
      Text.padded 2 (ofDay % 60 + t.subsecond / nanosPerSecond) ++
      fractionText (t.subsecond % nanosPerSecond) ++ ['Z']

/-! ### Samples: a leap day, the end of a year, both ends of the range, and a leap second -/

example : civilDate 11016 = (2000, 2, 29) := by decide
example : civilDate (-1) = (1969, 12, 31) := by decide
example : earliest.text = "-262143-01-01T00:00:00Z" := by decide +kernel
example : latest.text = "+262142-12-31T23:59:59.999999999Z" := by decide +kernel
example : (ofUnix? 1483228799 1500000000).map text = some "2016-12-31T23:59:60.500Z" := by
  decide +kernel
example : ofUnix? 1483228798 1500000000 = none := by decide +kernel
example : ((ofUnix? 1483228799 1500000000).bind (·.plusSeconds? 1)).map text =
    some "2017-01-01T00:00:00.500Z" := by
  decide +kernel
example : ((ofUnix? 1483228799 1500000000).bind (·.minusSeconds? 1)).map text =
    some "2016-12-31T23:59:59.500Z" := by
  decide +kernel

end Instant

end TelemetryAuth
