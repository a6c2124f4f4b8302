import BlockTypes.Config.Yaml.Fault

/-!
# Dates and times in a document

A date is written as year, month and day, and a time of day may follow, with a fraction of a second
and an offset from universal time.
-/

namespace BlockTypes.Config.Yaml

/-- The offset of a clock as it is written: with a sign, in hours and minutes, or none for a letter Z. -/
structure Zone where
  negative : Bool
  hour : Nat
  minute : Nat

/-- A time of day as it is written. -/
structure DayTime where
  hour : Nat
  minute : Nat
  second : Nat
  fraction : List Char
  zone : Option Zone

/-- A date as it is written, and the time of day after it. It is short if its month or day is a single
digit. -/
structure Timestamp where
  date : Date
  short : Bool
  time : Option DayTime

/-- Digits at the start of the text, at least `least` and at most `most` of them, and what follows. -/
def takeDigits? (least most : Nat) (cs : List Char) : Option (List Char × List Char) :=
  let ds := (cs.take most).takeWhile Char.isDigit
  if ds.length < least then none else some (ds, cs.drop ds.length)

/-- A number after the given character, of at least `least` digits and at most two. -/
def numberAfter? (mark : Char) (least : Nat) : List Char → Option (List Char × List Char)
  | [] => none
  | c :: rest => if c == mark then takeDigits? least 2 rest else none

/-- A space or a tab. -/
def isBlank (c : Char) : Bool := c == ' ' || c == '\t'

/-- The offset that ends a time. -/
def zone? : List Char → Option Zone
  | ['Z'] => some ⟨false, 0, 0⟩
  | sign :: rest =>
    if sign == '+' || sign == '-' then
      (takeDigits? 1 2 rest).bind fun (hour, rest) =>
        let hour := Decimal.natOfDigits hour
        if rest.isEmpty then some ⟨sign == '-', hour, 0⟩
        else
          (numberAfter? ':' 2 rest).bind fun (minute, rest) =>
            if rest.isEmpty then some ⟨sign == '-', hour, Decimal.natOfDigits minute⟩ else none
    else none
  | [] => none

/-- The time of day that ends a timestamp. -/
def dayTime? (cs : List Char) : Option DayTime :=
  (takeDigits? 1 2 cs).bind fun (hour, rest) =>
  (numberAfter? ':' 2 rest).bind fun (minute, rest) =>
  (numberAfter? ':' 2 rest).bind fun (second, rest) =>
    let (fraction, rest) := Decimal.Number.splitPart rest
    let time := DayTime.mk (Decimal.natOfDigits hour) (Decimal.natOfDigits minute)
      (Decimal.natOfDigits second) fraction
    if rest.isEmpty then some (time none)
    else (zone? (rest.dropWhile isBlank)).map fun z => time (some z)

/-- The text without a line end after it. -/
def withoutLineEnd (cs : List Char) : List Char :=
  if cs.getLast? = some '\n' then cs.dropLast else cs

/-- The timestamp that a text is. -/
def Timestamp.ofText? (cs : List Char) : Option Timestamp :=
  (takeDigits? 4 4 cs).bind fun (year, rest) =>
  (numberAfter? '-' 1 rest).bind fun (month, rest) =>
  (numberAfter? '-' 1 rest).bind fun (day, rest) =>
    let date := Date.mk (Decimal.natOfDigits year) (Decimal.natOfDigits month) (Decimal.natOfDigits day)
    let stamp := Timestamp.mk date (month.length < 2 || day.length < 2)
    match rest with
    | [] => some (stamp none)
    | c :: after =>
      if c == 'T' || c == 't' then (dayTime? after).map fun t => stamp (some t)
      else if isBlank c then (dayTime? (rest.dropWhile isBlank)).map fun t => stamp (some t)
      else none

namespace Timestamp

/-- Whether the timestamp is known as one by its look: a date on its own must not be short. -/
def isEvident (t : Timestamp) : Bool := t.time.isSome || !t.short

/-- The millionths of a second that a fraction is; what is finer does not count. -/
def micros (fraction : List Char) : Nat :=
  Decimal.natOfDigits ((fraction ++ List.replicate 6 '0').take 6)

/-- The date or moment that a timestamp stands for. -/
def value (t : Timestamp) : Except CalendarError Scalar :=
  match t.time with
  | none => t.date.check.map .date
  | some time =>
    let offset (z : Zone) : Int := Decimal.Number.withSign z.negative ((z.hour * 60 + z.minute) * 60)
    let m : Moment := ⟨t.date, time.hour, time.minute, time.second, micros time.fraction,
      time.zone.map offset⟩
    m.check.map .moment

end Timestamp

end BlockTypes.Config.Yaml
