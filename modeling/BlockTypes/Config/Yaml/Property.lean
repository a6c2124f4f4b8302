import BlockTypes.Config.Yaml.Cursor
import BlockTypes.Config.Yaml.Fault

/-!
# Names, tags and directives

Before a value may stand a name, by which it can be used again, and a tag. A tag is written in full
between angle brackets, or as a handle and a suffix. Directives before a document say which version of
the notation it uses, and what handles stand for.
-/

namespace BlockTypes.Config.Yaml

/-- A tag as it is written. -/
structure TagMark where
  handle : Option String
  suffix : String
deriving DecidableEq

/-- What a directive says. -/
inductive Directive where
  | version (major : Nat)
  | handle (name start : String)
  | reserved
deriving DecidableEq

/-- The characters of names. -/
def isNameChar (c : Char) : Bool := c.isAlphanum || c == '-' || c == '_'

/-- Whether the text ends here, or a space or line break follows. -/
def endsMark (c : Cursor) : Bool := c.peek.all fun ch => ch == ' ' || isBreak ch

/-- The name at the cursor, after a mark, and the place after it. -/
def name? (c : Cursor) : Option (String × Cursor) :=
  let (name, c) := c.spanWhile isNameChar
  let ends := c.peek.all fun ch =>
    isGap ch || ['?', ':', ',', ']', Char.ofNat 0x7d, '%', '@', Char.ofNat 0x60].contains ch
  if !name.isEmpty && ends then some (String.ofList name, c) else none

/-! ## Tags -/

/-- The characters of a tag that stand for themselves. -/
def isUriChar (c : Char) : Bool :=
  c.isAlphanum || ['-', ';', '/', '?', ':', '@', '&', '=', '+', '$', ',', '_', '.', '!', '~', '*', '\'',
    '(', ')', '[', ']'].contains c

/-- The value of a hexadecimal digit of a tag. -/
def uriDigit? (c : Char) : Option Nat :=
  if c.isDigit then some (c.toNat - '0'.toNat)
  else if 'a' ≤ c.toLower && c.toLower ≤ 'f' then some (c.toLower.toNat - 'a'.toNat + 10)
  else none

/-- The bytes that follow percent signs at the cursor, and the place after them. -/
def uriBytes? (c : Cursor) : (fuel : Nat) → Option (List UInt8 × Cursor)
  | 0 => some ([], c)
  | fuel + 1 =>
    match c.rest with
    | '%' :: rest =>
      match rest with
      | a :: b :: _ =>
        (uriDigit? a).bind fun a => (uriDigit? b).bind fun b =>
          (uriBytes? (c.skip 3) fuel).map fun (bytes, c) => ((16 * a + b).toUInt8 :: bytes, c)
      | _ => none
    | _ => some ([], c)

/-- The text of a tag at the cursor, with what is written as bytes decoded, and the place after it. -/
def uriText? (c : Cursor) : (fuel : Nat) → Option (String × Cursor)
  | 0 => some ("", c)
  | fuel + 1 =>
    let (chars, c) := c.spanWhile isUriChar
    let start := String.ofList chars
    if c.peek == some '%' then
      (uriBytes? c (c.rest.length + 1)).bind fun (bytes, c) =>
      (String.fromUTF8? ⟨bytes.toArray⟩).bind fun decoded =>
        (uriText? c fuel).map fun (more, c) => (start ++ decoded ++ more, c)
    else some (start, c)

/-- The text of a tag at the cursor, which must not be empty, and the place after it. -/
def uri? (c : Cursor) : Option (String × Cursor) :=
  (uriText? c (c.rest.length + 1)).bind fun (text, after) =>
    if after.index = c.index then none else some (text, after)

/-- The handle at the cursor: an exclamation mark, or a name between two of them. -/
def handle? (c : Cursor) : Option (String × Cursor) :=
  match c.rest with
  | '!' :: ' ' :: _ => some ("!", c.step)
  | '!' :: rest =>
    let name := rest.takeWhile isNameChar
    if (rest.drop name.length).head? == some '!' then
      some ("!" ++ String.ofList name ++ "!", c.skip (name.length + 2))
    else none
  | _ => none

/-- The tag at the cursor, and the place after it. -/
def tagMark? (c : Cursor) : Option (TagMark × Cursor) :=
  let mark := match c.rest.drop 1 with
    | '<' :: _ =>
      (uri? (c.skip 2)).bind fun (text, c) =>
        if c.peek == some '>' then some (TagMark.mk none text, c.step) else none
    | rest =>
      if endsWord rest.head? then some (TagMark.mk none "!", c.step)
      else
        let word := rest.takeWhile fun ch => !(ch == ' ' || isBreak ch)
        (if word.contains '!' then handle? c else some ("!", c.step)).bind fun (handle, c) =>
          (uri? c).map fun (text, c) => (TagMark.mk (some handle) text, c)
  mark.bind fun (t, c) => if endsMark c then some (t, c) else none

/-! ## Directives -/

/-- The decimal number at the cursor, and the place after it. -/
def versionNumber (c : Cursor) : Except Fault (Nat × Cursor) :=
  let (ds, c) := c.spanWhile Char.isDigit
  if ds.isEmpty then .error .malformed
  else if digitLimit < ds.length then .error (.tooManyDigits ds.length)
  else .ok (Decimal.natOfDigits ds, c)

/-- What follows the name of the directive that says the version. -/
def version (c : Cursor) : Except Fault (Directive × Cursor) := do
  let (major, c) ← versionNumber (c.skipWhile (· == ' '))
  if c.peek == some '.' then
    let (_, c) ← versionNumber c.step
    if endsMark c then return (.version major, c) else throw .malformed
  else throw .malformed

/-- What follows the name of the directive for a handle. -/
def handleMeaning? (c : Cursor) : Option (Directive × Cursor) :=
  (handle? (c.skipWhile (· == ' '))).bind fun (name, c) =>
    if c.peek == some ' ' then
      (uri? (c.skipWhile (· == ' '))).bind fun (start, c) =>
        if endsMark c then some (.handle name start, c) else none
    else none

/-- The directive at the cursor, and the place after its line. -/
def directive (c : Cursor) : Except Fault (Directive × Cursor) := do
  let (name, c) := c.step.spanWhile isNameChar
  let (d, c) ←
    if name.isEmpty || !endsMark c then throw .malformed
    else if name == "YAML".toList then version c
    else if name == "TAG".toList then orMalformed (handleMeaning? c)
    else pure (.reserved, c.skipWhile fun ch => !isBreak ch)
  let c := c.skipWhile (· == ' ')
  let c := if c.peek == some '#' then c.skipWhile fun ch => !isBreak ch else c
  if c.rest.isEmpty then return (d, c)
  else
    let (_, c) ← orMalformed c.lineBreak?
    return (d, c)

end BlockTypes.Config.Yaml
