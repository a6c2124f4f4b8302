import BlockTypes.Config.Data

/-!
# Faults of a document

A document may break the rules of its notation, or be well written and say something that is no value:
a number without digits, a day that is not in the calendar.
-/

namespace BlockTypes.Config.Yaml

/-- Why a document has no value. -/
inductive Fault where
  /-- It breaks the rules of the notation. -/
  | malformed
  /-- A whole number has too many digits. -/
  | tooManyDigits (count : Nat)
  /-- A text is no whole number of the given base. -/
  | notWhole (base : Nat) (text : WideText)
  /-- A text is no number. -/
  | notNumber (text : WideText)
  /-- A number has no text at all. -/
  | emptyNumber
  /-- A number in groups of sixty has too many groups. -/
  | tooManyGroups
  /-- A date or time is out of its range. -/
  | calendar (error : CalendarError)
  /-- A text is no date or time. -/
  | notTime
  /-- What stands for a date or time is a mapping. -/
  | timeInMapping
  /-- A word is no truth value. -/
  | notTruth (word : WideText)
  /-- There is no character of that code. -/
  | noCharacter
  /-- A code is too large to be one. -/
  | codeTooLarge
deriving DecidableEq

/-- The most characters that are shown of a text that is no whole number, with its quote marks. -/
def shownLimit : Nat := 200

/-- The fault in words. Some are told by their kind alone and have none. -/
def Fault.message : Fault → String
  | malformed => "failed to parse configuration:"
  | tooManyDigits count =>
    "Exceeds the limit (" ++ toString digitLimit ++ " digits) for integer string conversion: value has "
      ++ toString count ++ " digits; use sys.set_int_max_str_digits() to increase the limit"
  | notWhole base text =>
    "invalid literal for int() with base " ++ toString base ++ ": "
      ++ String.ofList (text.quoted.toList.take shownLimit)
  | notNumber text => "could not convert string to float: " ++ text.quoted
  | calendar e => e.message
  | notTruth word => word.shown
  | noCharacter => "chr() arg not in range(0x110000)"
  | emptyNumber => ""
  | tooManyGroups => ""
  | notTime => ""
  | timeInMapping => ""
  | codeTooLarge => ""

/-- The result of a reader that only fails on what is malformed. -/
def orMalformed {α : Type} : Option α → Except Fault α
  | some a => .ok a
  | none => .error .malformed

end BlockTypes.Config.Yaml
