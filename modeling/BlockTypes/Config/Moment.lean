/-!
# Dates and times

A date is a day of the calendar in use today, reckoned back to the first year. A moment is a date with
a time of day; it may say how far the clock that shows it is from universal time. Moments that say so
are compared as points of time, others as what the clock shows, and the two kinds are not compared.
-/

namespace BlockTypes.Config

/-- A day of the calendar. -/
structure Date where
  year : Nat
  month : Nat
  day : Nat
deriving DecidableEq

/-- A date with a time of day. The offset is how many seconds the clock is ahead of universal time. -/
structure Moment where
  date : Date
  hour : Nat
  minute : Nat
  second : Nat
  micro : Nat
  offset : Option Int
deriving DecidableEq

/-- What of a date or time is out of its range. -/
inductive CalendarError where
  | year (year : Nat)
  | month
  | day
  | hour
  | minute
  | second
  | offset (seconds : Int)
deriving DecidableEq

/-- The number in decimal with at least `width` digits. -/
def padded (width n : Nat) : String :=
  let digits := toString n
  String.ofList (List.replicate (width - digits.length) '0') ++ digits

namespace Date

/-- Whether the year has a day more than usual. -/
def isLeap (year : Nat) : Bool := year % 4 = 0 ∧ (year % 100 ≠ 0 ∨ year % 400 = 0)

/-- The number of days of a month. -/
def monthLength (year month : Nat) : Nat :=
  if month = 2 then (if isLeap year then 29 else 28)
  else if month ∈ [4, 6, 9, 11] then 30 else 31

/-- The number of the day, counted from the first day of the first year. -/
def number (d : Date) : Nat :=
  let y := d.year - 1
  let before := (List.range (d.month - 1)).foldl (fun n m => n + monthLength d.year (m + 1)) 0
  365 * y + y / 4 - y / 100 + y / 400 + before + d.day

/-- Checks that there is such a day. -/
def check (d : Date) : Except CalendarError Date :=
  if d.year < 1 ∨ 9999 < d.year then .error (.year d.year)
  else if d.month < 1 ∨ 12 < d.month then .error .month
  else if d.day < 1 ∨ monthLength d.year d.month < d.day then .error .day
  else .ok d

/-- The date in figures, the year first. -/
def text (d : Date) : String :=
  padded 4 d.year ++ "-" ++ padded 2 d.month ++ "-" ++ padded 2 d.day

/-- The parts of the date as they are listed in a message. -/
def parts (d : Date) : List String := [toString d.year, toString d.month, toString d.day]

/-- The date as it is shown in a message. -/
def spelled (d : Date) : String := "datetime.date(" ++ ", ".intercalate d.parts ++ ")"

end Date

/-- A span of time in whole seconds as it is shown in a message: whole days, rounded down, and the
seconds left. -/
def spanSpelled (seconds : Int) : String :=
  let part (name : String) (n : Int) : List String := if n = 0 then [] else [name ++ "=" ++ toString n]
  let parts := part "days" (seconds / 86400) ++ part "seconds" (seconds % 86400)
  "datetime.timedelta(" ++ (if parts.isEmpty then "0" else ", ".intercalate parts) ++ ")"

/-- The error in words. -/
def CalendarError.message : CalendarError → String
  | year y => "year " ++ toString y ++ " is out of range"
  | month => "month must be in 1..12"
  | day => "day is out of range for month"
  | hour => "hour must be in 0..23"
  | minute => "minute must be in 0..59"
  | second => "second must be in 0..59"
  | offset seconds =>
    "offset must be a timedelta strictly between -timedelta(hours=24) and timedelta(hours=24), not "
      ++ spanSpelled seconds ++ "."

namespace Moment

/-- Checks that the offset is less than a day, and then that there is such a day and such a time. -/
def check (m : Moment) : Except CalendarError Moment := do
  if let some seconds := m.offset then
    if 86400 ≤ seconds.natAbs then throw (.offset seconds)
  let _ ← m.date.check
  if 24 ≤ m.hour then throw .hour
  if 60 ≤ m.minute then throw .minute
  if 60 ≤ m.second then throw .second
  return m

/-- What the clock shows, in millionths of a second. -/
def clock (m : Moment) : Int :=
  ((m.date.number * 24 + m.hour) * 60 + m.minute) * 60000000 + m.second * 1000000 + m.micro

/-- The point of time, if the clock's offset is known. -/
def instant? (m : Moment) : Option Int := m.offset.map fun seconds => m.clock - 1000000 * seconds

/-- The moment in figures. -/
def text (m : Moment) : String :=
  let offset := match m.offset with
    | none => ""
    | some seconds =>
      let minutes := seconds.natAbs / 60
      (if seconds < 0 then "-" else "+") ++ padded 2 (minutes / 60) ++ ":" ++ padded 2 (minutes % 60)
  m.date.text ++ " " ++ padded 2 m.hour ++ ":" ++ padded 2 m.minute ++ ":" ++ padded 2 m.second
    ++ (if m.micro = 0 then "" else "." ++ padded 6 m.micro) ++ offset

/-- The moment as it is shown in a message. Seconds and what is below them are left out if they are
zero. -/
def spelled (m : Moment) : String :=
  let fine :=
    if m.micro ≠ 0 then [toString m.second, toString m.micro]
    else if m.second ≠ 0 then [toString m.second]
    else []
  let zone := match m.offset with
    | none => []
    | some 0 => ["tzinfo=datetime.timezone.utc"]
    | some seconds => ["tzinfo=datetime.timezone(" ++ spanSpelled seconds ++ ")"]
  "datetime.datetime("
    ++ ", ".intercalate (m.date.parts ++ [toString m.hour, toString m.minute] ++ fine ++ zone) ++ ")"

end Moment

end BlockTypes.Config
