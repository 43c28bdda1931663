import MockCloud.Text.Cut

/-! # Instants

An instant is a number of seconds since 1970-01-01T00:00:00Z, without leap seconds, and nanoseconds. It is
written as a date and a time of day with three decimals, cut off and not rounded.

* `civil` is the date of a day number in the proleptic Gregorian calendar. -/

namespace MockCloud

/-- A moment in time. -/
structure Instant where
  seconds : Int
  nanos : Nat
  deriving DecidableEq, Repr, Inhabited

namespace Instant

/-- Whether an instant is not before another. -/
def notBefore (a b : Instant) : Bool :=
  b.seconds < a.seconds || (a.seconds = b.seconds && b.nanos ≤ a.nanos)

/-- Year, month and day of a day counted from 1970-01-01. The calendar repeats after 146097 days; within
an era, years are counted from the first of March, so that a leap day is the last day of its year. -/
def civil (day : Int) : Int × Nat × Nat :=
  let z := day + 719468
  let era := z / 146097
  let dayOfEra := (z % 146097).toNat
  let yearOfEra := (dayOfEra - dayOfEra / 1460 + dayOfEra / 36524 - dayOfEra / 146096) / 365
  let dayOfYear := dayOfEra - (365 * yearOfEra + yearOfEra / 4 - yearOfEra / 100)
  let shifted := (5 * dayOfYear + 2) / 153
  let month := if shifted < 10 then shifted + 3 else shifted - 9
  (era * 400 + yearOfEra + (if month ≤ 2 then 1 else 0), month, dayOfYear - (153 * shifted + 2) / 5 + 1)

/-- A year in four digits, with a sign and as many digits as it needs outside of 0 to 9999. -/
def yearText (year : Int) : String :=
  if 0 ≤ year ∧ year ≤ 9999 then Text.padded 4 year.toNat
  else (if year < 0 then "-" else "+") ++ Text.padded 4 year.natAbs

/-- The instant as a date and a time of day with milliseconds. Nanoseconds beyond a second belong to a
leap second, which counts as one more second of the same minute. -/
def iso8601 (t : Instant) : String :=
  let (year, month, day) := civil (t.seconds / 86400)
  let s := (t.seconds % 86400).toNat
  let second := s % 60 + t.nanos / 1000000000
  let millis := t.nanos % 1000000000 / 1000000
  yearText year ++ "-" ++ Text.padded 2 month ++ "-" ++ Text.padded 2 day ++ "T" ++
    Text.padded 2 (s / 3600) ++ ":" ++ Text.padded 2 (s / 60 % 60) ++ ":" ++ Text.padded 2 second ++
    "." ++ Text.padded 3 millis ++ "Z"

end Instant

end MockCloud
