import QueryClient.Text.Basic

/-!
# Times of day

A moment is counted in milliseconds since the beginning of 1970 and written
as a date and a time of day in universal time. The date is found by counting
years from March, so that the day a leap year has more is the last of its
year.
-/

namespace QueryClient.Timestamp

/-- A **date**. -/
structure Date where
  /-- The year. -/
  year : Nat
  /-- The month, from 1. -/
  month : Nat
  /-- The day of the month, from 1. -/
  day : Nat
deriving DecidableEq, Repr

/-- The date so many days after the first of January 1970. -/
def dateOf (days : Nat) : Date :=
  let n := days + 719468
  let era := n / 146097
  let inEra := n % 146097
  let year :=
    (inEra - inEra / 1460 + inEra / 36524 - inEra / 146096) / 365
  let inYear := inEra - (365 * year + year / 4 - year / 100)
  let month := (5 * inYear + 2) / 153
  { year := year + 400 * era + if month < 10 then 0 else 1
    month := if month < 10 then month + 3 else month - 9
    day := inYear - (153 * month + 2) / 5 + 1 }

/-- The moment as it is **written**: date, time of day, and milliseconds
after a comma. -/
def shown (milliseconds : Nat) : Text :=
  let seconds := milliseconds / 1000
  let date := dateOf (seconds / 86400)
  Text.padded 10 4 date.year ++ '-' :: Text.padded 10 2 date.month
    ++ '-' :: Text.padded 10 2 date.day
    ++ ' ' :: Text.padded 10 2 (seconds / 3600 % 24)
    ++ ':' :: Text.padded 10 2 (seconds / 60 % 60)
    ++ ':' :: Text.padded 10 2 (seconds % 60)
    ++ ',' :: Text.padded 10 3 (milliseconds % 1000)

end QueryClient.Timestamp
