/-
**Points in time, to the millisecond.**

A timestamp counts milliseconds from the beginning of 1970 in UTC, before it negatively. Its text
is the date and the time of day of the proleptic Gregorian calendar.

* `Civil.ofDays`: the date that lies a number of days after 1970-01-01;
* `Timestamp.text`: `2023-11-14T22:13:20Z`, with a fraction only where there is one.
-/

namespace Switchboard

/-- Milliseconds from the beginning of 1970 in UTC. -/
structure Timestamp where
  millis : Int
  deriving DecidableEq, Repr, Inhabited

/-- A date of the proleptic Gregorian calendar. -/
structure Civil where
  year : Int
  month : Nat
  day : Nat
  deriving DecidableEq, Repr

/-- The date that lies `days` days after 1970-01-01. Years are counted from March, so that the
leap day comes last, within eras of 400 years or 146097 days. -/
def Civil.ofDays (days : Int) : Civil :=
  let shifted := days + 719468
  let era := Int.fdiv shifted 146097
  let dayOfEra := (Int.fmod shifted 146097).toNat
  let yearOfEra := (dayOfEra - dayOfEra / 1460 + dayOfEra / 36524 - dayOfEra / 146096) / 365
  let dayOfYear := dayOfEra - (365 * yearOfEra + yearOfEra / 4 - yearOfEra / 100)
  let fromMarch := (5 * dayOfYear + 2) / 153
  let month := if fromMarch < 10 then fromMarch + 3 else fromMarch - 9
  { year := era * 400 + yearOfEra + (if month ≤ 2 then 1 else 0)
    month
    day := dayOfYear - (153 * fromMarch + 2) / 5 + 1 }

/-- A number with zeros before it up to `width` digits. -/
def padded (width : Nat) (n : Nat) : String :=
  let digits := Nat.toDigits 10 n
  String.ofList (List.replicate (width - digits.length) '0' ++ digits)

namespace Timestamp

/-- The beginning of 1970. -/
def epoch : Timestamp := ⟨0⟩

/-- A year: four digits, or a sign and at least four digits outside 0 to 9999. -/
def yearText (year : Int) : String :=
  if 0 ≤ year ∧ year ≤ 9999 then padded 4 year.toNat
  else if year < 0 then "-" ++ padded 4 year.natAbs
  else "+" ++ padded 4 year.toNat

/-- Date and time of day, with milliseconds unless they are zero. -/
def text (time : Timestamp) : String :=
  let civil := Civil.ofDays (Int.fdiv time.millis 86400000)
  let ofDay := (Int.fmod time.millis 86400000).toNat
  let seconds := ofDay / 1000
  let fraction := ofDay % 1000
  yearText civil.year ++ "-" ++ padded 2 civil.month ++ "-" ++ padded 2 civil.day ++ "T"
    ++ padded 2 (seconds / 3600) ++ ":" ++ padded 2 (seconds / 60 % 60) ++ ":"
    ++ padded 2 (seconds % 60) ++ (if fraction = 0 then "" else "." ++ padded 3 fraction) ++ "Z"

end Timestamp

end Switchboard
