import HeaderTypes.Decimal.Numeral

namespace HeaderTypes.Document
open Text (padded)
open Decimal (spelled)

structure Date where
  year : Nat
  month : Nat
  day : Nat
  deriving DecidableEq, Repr

/-- A time of day, down to microseconds. -/
structure DayTime where
  hour : Nat
  minute : Nat
  second : Nat
  microsecond : Nat
  deriving DecidableEq, Repr

/-- A day, or a moment of one, which may tell how many minutes its clock is ahead
of universal time. -/
inductive Timestamp
  | day (date : Date)
  | moment (date : Date) (time : DayTime) (ahead : Option Int)
  deriving DecidableEq, Repr

/-- What keeps a timestamp from being a day or a moment. -/
inductive TimestampFault
  | year (year : Nat)
  | month
  | day
  | hour
  | minute
  | second
  | zone (ahead : Int)
  deriving DecidableEq, Repr

/-- A span of minutes as days, which may be negative, and seconds, which are not. -/
def spanShown (minutes : Int) : String :=
  let days := Int.fdiv minutes 1440
  let seconds := 60 * Int.fmod minutes 1440
  let parts := (if days = 0 then [] else [s!"days={days}"]) ++
    (if seconds = 0 then [] else [s!"seconds={seconds}"])
  "datetime.timedelta(" ++ (if parts = [] then "0" else ", ".intercalate parts) ++ ")"

def TimestampFault.message : TimestampFault → String
  | .year n => s!"year {n} is out of range"
  | .month => "month must be in 1..12"
  | .day => "day is out of range for month"
  | .hour => "hour must be in 0..23"
  | .minute => "minute must be in 0..59"
  | .second => "second must be in 0..59"
  | .zone ahead =>
    "offset must be a timedelta strictly between -timedelta(hours=24) and " ++
      s!"timedelta(hours=24), not {spanShown ahead}."

namespace Date

def isLeapYear (year : Nat) : Bool := year % 4 = 0 && (year % 100 ≠ 0 || year % 400 = 0)

def daysInMonth (year month : Nat) : Nat :=
  if month = 2 then if isLeapYear year then 29 else 28
  else if month = 4 || month = 6 || month = 9 || month = 11 then 30
  else 31

/-- A date of the years from 1 to 9999. -/
def check (date : Date) : Except TimestampFault Unit :=
  if date.year = 0 || 9999 < date.year then .error (.year date.year)
  else if date.month = 0 || 12 < date.month then .error .month
  else if date.day = 0 || daysInMonth date.year date.month < date.day then .error .day
  else .ok ()

/-- The number of days before a date. -/
def dayNumber (date : Date) : Nat :=
  let before := date.year - 1
  let months := (List.range (date.month - 1)).map fun index => daysInMonth date.year (index + 1)
  365 * before + before / 4 - before / 100 + before / 400 + months.foldl (· + ·) (date.day - 1)

def text (date : Date) : String :=
  padded 4 date.year ++ "-" ++ padded 2 date.month ++ "-" ++ padded 2 date.day

/-- The parts of a date. -/
def parts (date : Date) : List Nat := [date.year, date.month, date.day]

end Date

namespace DayTime

def check (time : DayTime) : Except TimestampFault Unit :=
  if 23 < time.hour then .error .hour
  else if 59 < time.minute then .error .minute
  else if 59 < time.second then .error .second
  else .ok ()

/-- Microseconds since midnight. -/
def microseconds (time : DayTime) : Nat :=
  ((time.hour * 60 + time.minute) * 60 + time.second) * 1000000 + time.microsecond

/-- Microseconds are shown if there are any. -/
def text (time : DayTime) : String :=
  padded 2 time.hour ++ ":" ++ padded 2 time.minute ++ ":" ++ padded 2 time.second ++
    if time.microsecond = 0 then "" else "." ++ padded 6 time.microsecond

/-- The parts of a time, zeros below the minute left out. -/
def parts (time : DayTime) : List Nat :=
  [time.hour, time.minute] ++
    if time.microsecond ≠ 0 then [time.second, time.microsecond]
    else if time.second ≠ 0 then [time.second]
    else []

end DayTime

namespace Timestamp

/-- Hours and minutes ahead of universal time, with a sign. -/
def zoneText (ahead : Int) : String :=
  (if ahead < 0 then "-" else "+") ++ padded 2 (ahead.natAbs / 60) ++ ":" ++
    padded 2 (ahead.natAbs % 60)

def text : Timestamp → String
  | day date => date.text
  | moment date time ahead => date.text ++ " " ++ time.text ++ (ahead.map zoneText).getD ""

def zoneShown (ahead : Int) : String :=
  if ahead = 0 then "datetime.timezone.utc" else s!"datetime.timezone({spanShown ahead})"

/-- A timestamp inside a container: its parts under its name. -/
def shown : Timestamp → String
  | day date => "datetime.date(" ++ ", ".intercalate (date.parts.map toString) ++ ")"
  | moment date time ahead =>
    let parts := (date.parts ++ time.parts).map toString ++
      (ahead.map fun ahead => "tzinfo=" ++ zoneShown ahead).toList
    "datetime.datetime(" ++ ", ".intercalate parts ++ ")"

/-- Microseconds of a moment since the first day, on the clock of universal time. -/
def instant (date : Date) (time : DayTime) (ahead : Int) : Int :=
  (date.dayNumber * 86400000000 + time.microseconds : Nat) - 60000000 * ahead

/-- Moments of clocks that are related to universal time are the same at the same instant. -/
def same : Timestamp → Timestamp → Bool
  | moment date time (some ahead), moment date' time' (some ahead') =>
    instant date time ahead = instant date' time' ahead'
  | a, b => a = b

end Timestamp

/-- A timestamp as it is written: whether its month and day have two digits,
and the minutes ahead of universal time. -/
structure WrittenTimestamp where
  date : Date
  padded : Bool
  time : Option (DayTime × Option Int)

namespace WrittenTimestamp

/-- A number of as few digits as given or more, up to a greatest count, with how many there are. -/
def readNumber (least greatest : Nat) (s : List Char) : Option (Nat × Nat × List Char) :=
  let found := (s.take greatest).takeWhile Char.isDigit
  if found.length < least then none
  else some (spelled 10 found, found.length, s.drop found.length)

def readMark (mark : Char) : List Char → Option (List Char)
  | c :: s => if c = mark then some s else none
  | [] => none

/-- The minutes ahead of universal time, written as a `Z` or as a sign, hours and minutes. -/
def readZone : List Char → Option (Int × List Char)
  | 'Z' :: s => some (0, s)
  | sign :: s =>
    if sign = '+' || sign = '-' then do
      let (hours, _, s) ← readNumber 1 2 s
      let (minutes, s) ← match readMark ':' s with
        | some s => (readNumber 2 2 s).map fun (minutes, _, s) => (minutes, s)
        | none => some (0, s)
      let ahead : Int := hours * 60 + minutes
      return (if sign = '-' then -ahead else ahead, s)
    else none
  | [] => none

/-- The first six digits behind a point as microseconds, and what follows all of its digits. -/
def readFraction : List Char → Nat × List Char
  | '.' :: s =>
    let found := (s.takeWhile Char.isDigit).take 6
    let shown := found ++ List.replicate (6 - found.length) '0'
    (spelled 10 shown, s.dropWhile Char.isDigit)
  | s => (0, s)

def isBlank (c : Char) : Bool := c = ' ' || c = '\t'

/-- A time of day up to the end of the text, the zone after it if there is one. -/
def readTime (s : List Char) : Option (DayTime × Option Int) := do
  let (hour, _, s) ← readNumber 1 2 s
  let (minute, _, s) ← readNumber 2 2 (← readMark ':' s)
  let (second, _, s) ← readNumber 2 2 (← readMark ':' s)
  let (microsecond, s) := readFraction s
  let time : DayTime := ⟨hour, minute, second, microsecond⟩
  if s = [] then return (time, none)
  else
    match ← readZone (s.dropWhile isBlank) with
    | (ahead, []) => return (time, some ahead)
    | _ => none

/-- Reads a date and a time of day behind a `T` or blanks, if there is one. -/
def read? (s : List Char) : Option WrittenTimestamp := do
  let (year, _, s) ← readNumber 4 4 s
  let (month, monthDigits, s) ← readNumber 1 2 (← readMark '-' s)
  let (day, dayDigits, s) ← readNumber 1 2 (← readMark '-' s)
  let date : Date := ⟨year, month, day⟩
  let padded := monthDigits = 2 && dayDigits = 2
  match s with
  | [] => return ⟨date, padded, none⟩
  | c :: r =>
    if c = 'T' || c = 't' then return ⟨date, padded, some (← readTime r)⟩
    else if isBlank c then return ⟨date, padded, some (← readTime (r.dropWhile isBlank))⟩
    else none

/-- The day or moment that is written. Clocks are less than a day away from universal time. -/
def timestamp (written : WrittenTimestamp) : Except TimestampFault Timestamp := do
  match written.time with
  | none =>
    written.date.check
    return .day written.date
  | some (time, ahead) =>
    if let some minutes := ahead then
      if 1440 ≤ minutes.natAbs then throw (.zone minutes)
    written.date.check
    time.check
    return .moment written.date time ahead

end WrittenTimestamp

end HeaderTypes.Document
