import BlockTypes.Text.Characters
import BlockTypes.Text.Wide

/-!
# Quoted text

Messages quote the names and texts they speak of. The quote mark is single, unless the text has a
single quote and no double one; what would not show, halves of pairs among it, and the mark itself is
escaped.
-/

namespace BlockTypes

namespace Text

/-- The last `width` hexadecimal digits of `n`, in lower case. -/
def hexDigits : (width : Nat) → (n : Nat) → List Char
  | 0, _ => []
  | width + 1, n => hexDigits width (n / 16) ++ [Nat.digitChar (n % 16)]

/-- The escape for a character that does not print: two, four or eight digits, whichever fits. -/
def codeEscape (c : Char) : List Char :=
  if c.toNat < 0x100 then '\\' :: 'x' :: hexDigits 2 c.toNat
  else if c.toNat < 0x10000 then '\\' :: 'u' :: hexDigits 4 c.toNat
  else '\\' :: 'U' :: hexDigits 8 c.toNat

/-- How `c` is written between marks `mark`. -/
def escapeChar (mark c : Char) : List Char :=
  if c = '\\' || c = mark then ['\\', c]
  else if c = '\n' then ['\\', 'n']
  else if c = '\r' then ['\\', 'r']
  else if c = '\t' then ['\\', 't']
  else if isPrintable c then [c]
  else codeEscape c

/-- How a code point is written between marks `mark`. -/
def escapePoint (mark : Char) : CodePoint → List Char
  | .char c => escapeChar mark c
  | .half h => '\\' :: 'u' :: hexDigits 4 (CodePoint.half h).number

/-- The mark that quotes a text which has the characters that pass the test. -/
def quoteMark (has : Char → Bool) : Char := if has '\'' && !has '"' then '"' else '\''

end Text

/-- The text between quote marks. -/
def WideText.quoted (text : WideText) : String :=
  let mark := Text.quoteMark fun c => text.points.contains (.char c)
  String.ofList (mark :: text.points.flatMap (Text.escapePoint mark) ++ [mark])

namespace Text

/-- The string between quote marks. -/
def quote (text : String) : String := (WideText.ofString text).quoted

/-- Bytes between quote marks after the letter b; what is no plain letter or mark is escaped. -/
def quoteBytes (bytes : List UInt8) : String :=
  let text := bytes.map fun b => Char.ofNat b.toNat
  let mark := quoteMark text.contains
  let escape (c : Char) : List Char := if 0x7f ≤ c.toNat then codeEscape c else escapeChar mark c
  String.ofList ('b' :: mark :: text.flatMap escape ++ [mark])

/-- The texts, each quoted, between brackets. -/
def quoteList (texts : List WideText) : String := "[" ++ ", ".intercalate (texts.map (·.quoted)) ++ "]"

end Text

end BlockTypes
