/-!
# Walking through a document

A cursor is a place in the text of a document: what is left of the text, how many characters came
before, and the line and column. Lines end with any of the usual line breaks.
-/

namespace BlockTypes.Config.Yaml

/-- A place in a text. -/
structure Cursor where
  rest : List Char
  index : Nat
  line : Nat
  column : Nat

/-- The characters that end a line. -/
def isBreak (c : Char) : Bool :=
  c == '\n' || c == '\r' || c == '\x85' || c == '\u2028' || c == '\u2029'

/-- A space, a tab or a line break. -/
def isGap (c : Char) : Bool := c == ' ' || c == '\t' || isBreak c

/-- Whether a word ends before the given character; it does at the end of the text. -/
def endsWord (next : Option Char) : Bool := next.all isGap

namespace Cursor

/-- The start of a text. -/
def start (text : String) : Cursor := ⟨text.toList, 0, 0, 0⟩

/-- The next character. -/
def peek (c : Cursor) : Option Char := c.rest.head?

/-- The place after the next character. A byte-order mark takes no column. -/
def step (c : Cursor) : Cursor :=
  match c.rest with
  | [] => c
  | ch :: rest =>
    if isBreak ch && !(ch == '\r' && rest.head? == some '\n') then ⟨rest, c.index + 1, c.line + 1, 0⟩
    else ⟨rest, c.index + 1, c.line, if ch == '\ufeff' then c.column else c.column + 1⟩

/-- The place after the next `n` characters. -/
def skip (c : Cursor) : Nat → Cursor
  | 0 => c
  | n + 1 => c.step.skip n

/-- The characters up to the first that fails the test, and the place of that one. -/
def spanWhile (c : Cursor) (p : Char → Bool) : List Char × Cursor :=
  let taken := c.rest.takeWhile p
  (taken, c.skip taken.length)

/-- The place after characters that pass the test. -/
def skipWhile (c : Cursor) (p : Char → Bool) : Cursor := (c.spanWhile p).2

/-- The line break at the cursor, as it counts in a scalar, and the place after it. -/
def lineBreak? (c : Cursor) : Option (Char × Cursor) :=
  match c.rest with
  | '\r' :: '\n' :: _ => some ('\n', c.skip 2)
  | ch :: _ =>
    if ch == '\u2028' || ch == '\u2029' then some (ch, c.step)
    else if isBreak ch then some ('\n', c.step)
    else none
  | [] => none

/-- Whether a line starts here that is a document marker: three times the same character, and a
gap. -/
def atMarker (c : Cursor) (mark : Char) : Bool :=
  c.rest.take 3 == [mark, mark, mark] && endsWord (c.rest.drop 3).head?

/-- The place of the next token after spaces, comments and line breaks, and whether a line ended on
the way. -/
def toToken (c : Cursor) : (fuel : Nat) → (newline : Bool) → Cursor × Bool
  | 0, newline => (c, newline)
  | fuel + 1, newline =>
    let c := c.skipWhile (· == ' ')
    let c := if c.peek == some '#' then c.skipWhile fun ch => !isBreak ch else c
    match c.lineBreak? with
    | some (_, c) => c.toToken fuel true
    | none => (c, newline)

/-- The line breaks at the cursor with the blanks around them; `blank` tells which characters may
stand before a break. There is no result if a document marker comes on the way. -/
def breaks? (c : Cursor) (blank : Char → Bool) : (fuel : Nat) → Option (List Char × Cursor)
  | 0 => some ([], c)
  | fuel + 1 =>
    if c.atMarker '-' || c.atMarker '.' then none
    else
      let c := c.skipWhile blank
      match c.lineBreak? with
      | some (br, c) => (c.breaks? blank fuel).map fun (brs, c) => (br :: brs, c)
      | none => some ([], c)

end Cursor

/-- What a line break and those that follow it count for in a scalar: a single line end is a
space. -/
def folded (first : Char) (more : List Char) : List Char :=
  if first != '\n' then first :: more
  else if more.isEmpty then [' ']
  else more

end BlockTypes.Config.Yaml
