import HeaderTypes.Text.Digit

namespace HeaderTypes.CommandLine
open Text (padded)

/-- A moment of universal time, in microseconds since the beginning of 1970. -/
structure Moment where
  microseconds : Nat
  deriving DecidableEq, Repr

namespace Moment

/-- Days since the beginning of 1970. -/
def days (moment : Moment) : Nat := moment.microseconds / 86400000000

/-- Year, month and day. Years are counted from March, so that a leap day is
the last one of its year; they repeat after 400 years, which have 146097 days. -/
def date (moment : Moment) : Nat × Nat × Nat :=
  let shifted := moment.days + 719468
  let day := shifted % 146097
  let year := (day - day / 1460 + day / 36524 - day / 146096) / 365
  let dayOfYear := day - (365 * year + year / 4 - year / 100)
  let month := (5 * dayOfYear + 2) / 153
  let dayOfMonth := dayOfYear - (153 * month + 2) / 5 + 1
  let year := year + 400 * (shifted / 146097)
  if month < 10 then (year, month + 3, dayOfMonth) else (year + 1, month - 9, dayOfMonth)

/-- The date with dashes. -/
def dateText (moment : Moment) : String :=
  let (year, month, day) := moment.date
  padded 4 year ++ "-" ++ padded 2 month ++ "-" ++ padded 2 day

/-- The time of day with colons, down to seconds. -/
def timeText (moment : Moment) : String :=
  let second := moment.microseconds / 1000000 % 86400
  padded 2 (second / 3600) ++ ":" ++ padded 2 (second / 60 % 60) ++ ":" ++ padded 2 (second % 60)

/-- The time of a log line, down to milliseconds. -/
def logText (moment : Moment) : String :=
  moment.dateText ++ " " ++ moment.timeText ++ "," ++
    padded 3 (moment.microseconds / 1000 % 1000)

/-- The time of a report, with its distance from universal time. -/
def reportText (moment : Moment) : String :=
  moment.dateText ++ "T" ++ moment.timeText ++ "." ++ padded 6 (moment.microseconds % 1000000) ++
    "+00:00"

end Moment

/-- Milliseconds as seconds with two places. -/
def seconds (milliseconds : Nat) : String :=
  let hundredths := (milliseconds + 5) / 10
  toString (hundredths / 100) ++ "." ++ padded 2 (hundredths % 100)

end HeaderTypes.CommandLine
