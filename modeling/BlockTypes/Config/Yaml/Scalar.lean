import BlockTypes.Config.Yaml.Cursor
import BlockTypes.Config.Yaml.Value

/-!
# Scalars of a document

A plain scalar is a run of words that may go on over several lines. A quoted scalar goes to its
closing mark, and between double marks a backslash starts an escape. A block scalar starts on the line
after its mark and goes on while lines are indented; its mark says whether line ends are folded, and
what happens to those at its end.
-/

namespace BlockTypes.Config.Yaml

/-! ## Plain scalars -/

/-- The characters that end a plain scalar inside a flow collection. -/
def isFlowMark (c : Char) : Bool :=
  c == ',' || c == '[' || c == ']' || c == Char.ofNat 0x7b || c == Char.ofNat 0x7d

/-- The number of characters before the first that ends a word of a plain scalar: a gap, a colon
before a gap, or, in a flow collection, a mark. -/
def plainLength (flow : Bool) : List Char → Nat
  | [] => 0
  | c :: rest =>
    if isGap c then 0
    else if c == ':' && (endsWord rest.head? || (flow && rest.head?.any isFlowMark)) then 0
    else if flow && (c == '?' || isFlowMark c) then 0
    else plainLength flow rest + 1

/-- What stands between two words of a plain scalar, the place after it, and whether a line ended.
Nothing stands there if a document marker comes. -/
def plainGap (c : Cursor) : List Char × Cursor × Bool :=
  let (spaces, c) := c.spanWhile (· == ' ')
  match c.lineBreak? with
  | none => (spaces, c, false)
  | some (first, c) =>
    match c.breaks? (· == ' ') (c.rest.length + 1) with
    | none => ([], c, true)
    | some (more, c) => (folded first more, c, true)

/-- A plain scalar as far as it goes: its text, the place after it and the gap that follows, and
whether that gap ends a line. -/
structure Plain where
  text : List Char
  cursor : Cursor
  newline : Bool

/-- The plain scalar at the cursor, whose lines are indented by at least `indent` outside flow
collections. -/
def plainScalar (flow : Bool) (indent : Int) : (fuel : Nat) → Plain → (gap : List Char) → Plain
  | 0, p, _ => p
  | fuel + 1, p, gap =>
    if p.cursor.peek == some '#' then p
    else
      let n := plainLength flow p.cursor.rest
      if n = 0 then p
      else
        let text := p.text ++ gap ++ p.cursor.rest.take n
        let (gap, c, newline) := plainGap (p.cursor.skip n)
        let p : Plain := ⟨text, c, newline⟩
        if gap.isEmpty || c.peek == some '#' || (!flow && (c.column : Int) < indent) then p
        else plainScalar flow indent fuel p gap

/-! ## Quoted scalars -/

/-- The character that a letter stands for after a backslash. -/
def escaped? : Char → Option Char
  | '0' => some (Char.ofNat 0)
  | 'a' => some (Char.ofNat 7)
  | 'b' => some (Char.ofNat 8)
  | 't' => some '\t'
  | '\t' => some '\t'
  | 'n' => some '\n'
  | 'v' => some (Char.ofNat 11)
  | 'f' => some (Char.ofNat 12)
  | 'r' => some '\r'
  | 'e' => some (Char.ofNat 27)
  | ' ' => some ' '
  | '"' => some '"'
  | '\\' => some '\\'
  | '/' => some '/'
  | 'N' => some '\x85'
  | '_' => some '\xa0'
  | 'L' => some '\u2028'
  | 'P' => some '\u2029'
  | _ => none

/-- The number of hexadecimal digits that follow a letter after a backslash. -/
def codeLength? : Char → Option Nat
  | 'x' => some 2
  | 'u' => some 4
  | 'U' => some 8
  | _ => none

/-- The number that `n` hexadecimal digits at the start of the text make. -/
def hexCode? : (n : Nat) → List Char → (acc : Nat) → Option Nat
  | 0, _, acc => some acc
  | _ + 1, [], _ => none
  | n + 1, c :: rest, acc => (hexValue? c).bind fun d => hexCode? n rest (16 * acc + d)

/-- The code point that an escape with `n` digits stands for. -/
def coded (n : Nat) (digits : List Char) : Except Fault CodePoint :=
  match hexCode? n digits 0 with
  | none => .error .malformed
  | some code =>
    if 0x80000000 ≤ code then .error .codeTooLarge
    else
      match CodePoint.ofNumber? code with
      | some p => .ok p
      | none => .error .noCharacter

/-- The text of a quoted scalar from the cursor to its closing mark, and the place after that. -/
def quotedScalar (double : Bool) : (fuel : Nat) → Cursor → Except Fault (List CodePoint × Cursor)
  | 0, _ => .error .malformed
  | fuel + 1, c =>
    let after (text : List CodePoint) (c : Cursor) : Except Fault (List CodePoint × Cursor) :=
      (quotedScalar double fuel c).map fun (more, c) => (text ++ more, c)
    let go (text : List Char) : Cursor → Except Fault (List CodePoint × Cursor) :=
      after (text.map .char)
    match c.rest with
    | [] => .error .malformed
    | ch :: rest =>
      if isGap ch then
        let (blanks, c) := c.spanWhile isBlank
        match c.lineBreak? with
        | none => if c.rest.isEmpty then .error .malformed else go blanks c
        | some (first, c) =>
          match c.breaks? isBlank (c.rest.length + 1) with
          | some (more, c) => go (folded first more) c
          | none => .error .malformed
      else if double then
        if ch == '"' then .ok ([], c.step)
        else if ch == '\\' then
          match rest with
          | [] => .error .malformed
          | e :: digits =>
            match escaped? e, codeLength? e with
            | some x, _ => go [x] (c.skip 2)
            | none, some n =>
              match coded n digits with
              | .ok p => after [p] (c.skip (n + 2))
              | .error fault => .error fault
            | none, none =>
              match c.step.lineBreak? with
              | some (_, c) =>
                match c.breaks? isBlank (c.rest.length + 1) with
                | some (more, c) => go more c
                | none => .error .malformed
              | none => .error .malformed
        else go [ch] c.step
      else if ch == '\'' then
        if rest.head? == some '\'' then go ['\''] (c.skip 2) else .ok ([], c.step)
      else go [ch] c.step

/-! ## Block scalars -/

/-- What the mark of a block scalar says: what happens to the line ends after it, which are kept, or
dropped, or but for one dropped, and by how much its lines are indented, if that is said. -/
structure BlockStyle where
  keep : Option Bool
  deeper : Option Nat

/-- The sign after the mark of a block scalar. -/
def keepSign? (c : Cursor) : Option Bool × Cursor :=
  match c.peek with
  | some '+' => (some true, c.step)
  | some '-' => (some false, c.step)
  | _ => (none, c)

/-- The digit after the mark of a block scalar. -/
def deeperDigit? (c : Cursor) : Option Nat × Cursor :=
  match c.peek with
  | some d => if d.isDigit then (some (d.toNat - '0'.toNat), c.step) else (none, c)
  | none => (none, c)

/-- The sign and digit after the mark of a block scalar, in either order. The digit is not zero. -/
def blockStyle? (c : Cursor) : Option (BlockStyle × Cursor) :=
  let (sign, c) := keepSign? c
  let (digit, c) := deeperDigit? c
  let (late, c) := if sign.isNone && digit.isSome then keepSign? c else (none, c)
  if digit = some 0 then none else some (⟨sign.or late, digit⟩, c)

/-- The place after the rest of a line, which may be spaces and a comment. -/
def endLine? (c : Cursor) : Option Cursor :=
  let c := c.skipWhile (· == ' ')
  let c := if c.peek == some '#' then c.skipWhile fun ch => !isBreak ch else c
  if c.rest.isEmpty then some c else c.lineBreak?.map (·.2)

/-- The place after spaces up to the column. -/
def toColumn (c : Cursor) (column : Nat) : Cursor :=
  c.skip ((c.rest.take (column - c.column)).takeWhile (· == ' ')).length

/-- The empty lines at the cursor, and the place after them and the spaces up to the column. -/
def emptyLines (column : Nat) (c : Cursor) : (fuel : Nat) → List Char × Cursor
  | 0 => ([], c)
  | fuel + 1 =>
    let c := toColumn c column
    match c.lineBreak? with
    | some (br, c) =>
      let (brs, c) := emptyLines column c fuel
      (br :: brs, c)
    | none => ([], c)

/-- The empty lines at the cursor, the place after them and all spaces, and the furthest column that
spaces led to. -/
def leadingLines (c : Cursor) : (fuel : Nat) → List Char × Cursor × Nat
  | 0 => ([], c, 0)
  | fuel + 1 =>
    let spaces := (c.rest.takeWhile (· == ' ')).length
    let c := c.skip spaces
    let reached := if spaces = 0 then 0 else c.column
    match c.lineBreak? with
    | some (br, c) =>
      let (brs, c, furthest) := leadingLines c fuel
      (br :: brs, c, if reached < furthest then furthest else reached)
    | none => ([], c, reached)

/-- The lines of a block scalar that are indented to the column, with the empty lines before them, and
what is left: the line end after the last line, and the empty lines after that. -/
def blockLines (folds : Bool) (column : Nat) : (fuel : Nat) → (empty : List Char) → Cursor →
    List Char × List Char × List Char × Cursor
  | 0, empty, c => ([], [], empty, c)
  | fuel + 1, empty, c =>
    if c.column ≠ column || c.rest.isEmpty then ([], [], empty, c)
    else
      let starts := !c.peek.any isBlank
      let (line, c) := c.spanWhile fun ch => !isBreak ch
      let (br, c) := match c.lineBreak? with
        | some (br, c) => ([br], c)
        | none => ([], c)
      let (next, c) := emptyLines column c (c.rest.length + 1)
      if c.column = column && !c.rest.isEmpty then
        let between :=
          if folds && br == ['\n'] && starts && !c.peek.any isBlank then
            (if next.isEmpty then [' '] else [])
          else br
        let (text, last, after, c) := blockLines folds column fuel next c
        (empty ++ line ++ between ++ text, last, after, c)
      else (empty ++ line, br, next, c)

/-- The text of a block scalar after its mark, in a collection indented by `indent`, and the place
after it. -/
def blockScalar? (folds : Bool) (indent : Int) (c : Cursor) : Option (List Char × Cursor) :=
  (blockStyle? c).bind fun (style, c) =>
    if !(c.rest.isEmpty || c.peek.any fun ch => ch == ' ' || isBreak ch) then none
    else
      (endLine? c).map fun c =>
        let least := (indent + 1).toNat
        let least := if least < 1 then 1 else least
        let fuel := c.rest.length + 1
        let (empty, column, c) := match style.deeper with
          | none =>
            let (empty, c, furthest) := leadingLines c fuel
            (empty, if least < furthest then furthest else least, c)
          | some n =>
            let (empty, c) := emptyLines (least + n - 1) c fuel
            (empty, least + n - 1, c)
        let (text, last, after, c) := blockLines folds column fuel empty c
        let kept := match style.keep with
          | some false => []
          | some true => last ++ after
          | none => last
        (text ++ kept, c)

end BlockTypes.Config.Yaml
