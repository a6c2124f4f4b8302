import BlockTypes.Config.Yaml.Property
import BlockTypes.Config.Yaml.Scalar

/-!
# Tokens of a document

A document is cut into scalars and marks. Block collections have no marks of their own in the text:
they start where a line is indented deeper, and end where one is indented less, and a mapping is
known only when the colon after its first key is met. Until then the place of a possible key is kept
for each level of flow collections, so that the tokens that announce it can be put before it. Where
the text cannot be cut on, the last token is the fault.
-/

namespace BlockTypes.Config.Yaml

/-- A scalar or a mark. -/
inductive Token where
  | scalar (text : WideText) (plain : Bool)
  | anchor (name : String)
  | alias (name : String)
  | tag (mark : TagMark)
  | directive (d : Directive)
  | key
  | value
  | sequenceStart
  | mappingStart
  | blockEnd
  | entry
  | openList
  | closeList
  | openMap
  | closeMap
  | comma
  | documentStart
  | documentEnd
  | fault (f : Fault)
deriving DecidableEq

/-- A place where a key may have started: the number of tokens before it, where it stands, and
whether a key has to come there. -/
structure PossibleKey where
  tokens : Nat
  required : Bool
  index : Nat
  line : Nat
  column : Nat

/-- Whether a colon at the cursor would come too late for the key. -/
def PossibleKey.isStale (k : PossibleKey) (c : Cursor) : Bool :=
  k.line != c.line || k.index + 1024 < c.index

/-- The state of cutting a document: where it is, the tokens so far, the indentation of the open
block collections, the number of open flow collections, whether a key may start here, and the
possible key of each level of flow collections. -/
structure Cutting where
  cursor : Cursor
  tokens : List Token
  indent : Int
  outer : List Int
  flow : Nat
  keyAllowed : Bool
  keys : List (Nat × PossibleKey)

namespace Cutting

/-- The state at the start of a text. -/
def start (text : String) : Cutting := ⟨.start text, [], -1, [], 0, true, []⟩

/-- One more token. -/
def emit (s : Cutting) (t : Token) : Cutting := { s with tokens := s.tokens ++ [t] }

/-- Moves on by `n` characters. -/
def skip (s : Cutting) (n : Nat) : Cutting := { s with cursor := s.cursor.skip n }

/-- Forgets possible keys that are out of reach, on another line or too far back. There is no way
on if one of them was required. -/
def dropStale? (s : Cutting) : Option Cutting :=
  if s.keys.any fun k => k.2.isStale s.cursor && k.2.required then none
  else some { s with keys := s.keys.filter fun k => !k.2.isStale s.cursor }

/-- Forgets the possible key of this level, which must not have been required. -/
def dropKey? (s : Cutting) : Option Cutting :=
  match s.keys.lookup s.flow with
  | some k => if k.required then none else some { s with keys := s.keys.filter (·.1 != s.flow) }
  | none => some s

/-- Keeps the place of a possible key, where one is allowed. -/
def saveKey? (s : Cutting) : Option Cutting :=
  if s.keyAllowed then
    s.dropKey?.map fun s =>
      let c := s.cursor
      let required := s.flow == 0 && s.indent == (c.column : Int)
      { s with keys := (s.flow, ⟨s.tokens.length, required, c.index, c.line, c.column⟩) :: s.keys }
  else some s

/-- Closes the block collections that are indented deeper than the column. -/
def unwind (s : Cutting) (column : Int) : List Int → Cutting
  | [] => s
  | i :: rest =>
    if s.flow == 0 && column < s.indent then
      { s.emit .blockEnd with indent := i, outer := rest }.unwind column rest
    else s

/-- Opens a block collection at the column, if it is indented deeper than those that are open; `t`
announces it before the token of the given number. -/
def indentTo (s : Cutting) (column : Int) (t : Token) (number : Nat) : Cutting :=
  if s.flow == 0 && s.indent < column then
    { s with
      outer := s.indent :: s.outer
      indent := column
      tokens := s.tokens.take number ++ t :: s.tokens.drop number }
  else s

/-! ## Marks -/

/-- Opens a flow collection. -/
def openFlow? (s : Cutting) (t : Token) : Option Cutting :=
  s.saveKey?.map fun s => { s.emit t with flow := s.flow + 1, keyAllowed := true }.skip 1

/-- Closes a flow collection. -/
def closeFlow? (s : Cutting) (t : Token) : Option Cutting :=
  s.dropKey?.map fun s => { s.emit t with flow := s.flow - 1, keyAllowed := false }.skip 1

/-- A comma of a flow collection. -/
def comma? (s : Cutting) : Option Cutting :=
  s.dropKey?.map fun s => { s.emit .comma with keyAllowed := true }.skip 1

/-- The dash of an entry. -/
def entry? (s : Cutting) : Option Cutting :=
  if s.flow == 0 && !s.keyAllowed then none
  else
    let s := s.indentTo s.cursor.column .sequenceStart s.tokens.length
    s.dropKey?.map fun s => { s.emit .entry with keyAllowed := true }.skip 1

/-- The question mark before a key. -/
def key? (s : Cutting) : Option Cutting :=
  if s.flow == 0 && !s.keyAllowed then none
  else
    let s := s.indentTo s.cursor.column .mappingStart s.tokens.length
    s.dropKey?.map fun s => { s.emit .key with keyAllowed := s.flow == 0 }.skip 1

/-- The colon after a key. The key is announced where it started, and so is the mapping it opens. -/
def value? (s : Cutting) : Option Cutting :=
  match s.keys.lookup s.flow with
  | some k =>
    let s := { s with
      keys := s.keys.filter (·.1 != s.flow)
      tokens := s.tokens.take k.tokens ++ Token.key :: s.tokens.drop k.tokens }
    let s := s.indentTo k.column .mappingStart k.tokens
    some ({ s.emit .value with keyAllowed := false }.skip 1)
  | none =>
    if s.flow == 0 && !s.keyAllowed then none
    else
      let s := s.indentTo s.cursor.column .mappingStart s.tokens.length
      let s := { s with keyAllowed := s.flow == 0 }
      s.dropKey?.map fun s => (s.emit .value).skip 1

/-- A line that starts or ends a document. -/
def marker? (s : Cutting) (t : Token) : Option Cutting :=
  (s.unwind (-1) s.outer).dropKey?.map fun s => { s.emit t with keyAllowed := false }.skip 3

/-- A directive. -/
def directive (s : Cutting) : Except Fault Cutting :=
  (orMalformed (s.unwind (-1) s.outer).dropKey?).bind fun s =>
    (Yaml.directive s.cursor).map fun (d, c) =>
      { s.emit (.directive d) with cursor := c, keyAllowed := false }

/-- The name of a value, or the use of one. -/
def name? (s : Cutting) (token : String → Token) : Option Cutting :=
  s.saveKey?.bind fun s =>
    (Yaml.name? s.cursor.step).map fun (name, c) =>
      { s.emit (token name) with cursor := c, keyAllowed := false }

/-- A tag. -/
def tag? (s : Cutting) : Option Cutting :=
  s.saveKey?.bind fun s =>
    (tagMark? s.cursor).map fun (t, c) => { s.emit (.tag t) with cursor := c, keyAllowed := false }

/-! ## Scalars -/

/-- A quoted scalar. -/
def quoted (s : Cutting) (double : Bool) : Except Fault Cutting :=
  (orMalformed s.saveKey?).bind fun s =>
    (quotedScalar double (s.cursor.rest.length + 1) s.cursor.step).map fun (text, c) =>
      { s.emit (.scalar ⟨text⟩ false) with cursor := c, keyAllowed := false }

/-- A block scalar. -/
def block? (s : Cutting) (folds : Bool) : Option Cutting :=
  s.dropKey?.bind fun s =>
    (blockScalar? folds s.indent s.cursor.step).map fun (text, c) =>
      { s.emit (.scalar (.ofChars text) false) with cursor := c, keyAllowed := true }

/-- A plain scalar. -/
def plain? (s : Cutting) : Option Cutting :=
  s.saveKey?.map fun s =>
    let p := plainScalar (s.flow != 0) (s.indent + 1) (s.cursor.rest.length + 1)
      ⟨[], s.cursor, false⟩ []
    { s.emit (.scalar (.ofChars p.text) true) with cursor := p.cursor, keyAllowed := p.newline }

/-- Whether a plain scalar can start with these characters. -/
def startsPlain (s : Cutting) (c : Char) (next : Option Char) : Bool :=
  if c == '-' || c == '?' || c == ':' then !endsWord next && (c == '-' || s.flow == 0)
  else !(isGap c || isFlowMark c
    || ['#', '&', '*', '!', '|', '>', '\'', '"', '%', '@', Char.ofNat 0x60].contains c)

/-- The token that starts with a character at the cursor, where `rest` follows it. -/
def token (s : Cutting) (ch : Char) (rest : List Char) : Except Fault Cutting :=
  let next := rest.head?
  let lineStart := s.cursor.column == 0
  if ch == '"' || ch == '\'' then s.quoted (ch == '"')
  else if ch == '%' && lineStart then s.directive
  else
    orMalformed <|
      if lineStart && s.cursor.atMarker '-' then s.marker? .documentStart
      else if lineStart && s.cursor.atMarker '.' then s.marker? .documentEnd
      else if ch == '[' then s.openFlow? .openList
      else if ch == ']' then s.closeFlow? .closeList
      else if ch == Char.ofNat 0x7b then s.openFlow? .openMap
      else if ch == Char.ofNat 0x7d then s.closeFlow? .closeMap
      else if ch == ',' then s.comma?
      else if ch == '-' && endsWord next then s.entry?
      else if ch == '?' && (s.flow != 0 || endsWord next) then s.key?
      else if ch == ':' && (s.flow != 0 || endsWord next) then s.value?
      else if ch == '*' then s.name? .alias
      else if ch == '&' then s.name? .anchor
      else if ch == '!' then s.tag?
      else if ch == '|' && s.flow == 0 then s.block? false
      else if ch == '>' && s.flow == 0 then s.block? true
      else if s.startsPlain ch next then s.plain?
      else none

/-- The tokens where the text cannot be cut on. The first that may still be a key, and what follows it,
are not known well enough to count. -/
def broken (s : Cutting) (f : Fault) : List Token :=
  let known := s.keys.foldl
    (fun n (_, key) => if !key.isStale s.cursor && key.tokens < n then key.tokens else n) s.tokens.length
  s.tokens.take known ++ [.fault f]

/-- One more token, or none at the end of the text. Where there is none for a fault, all tokens. -/
def next (s : Cutting) : Except (List Token) (Option Cutting) :=
  let (c, newline) := s.cursor.toToken (s.cursor.rest.length + 1) false
  let here := { s with cursor := c, keyAllowed := s.keyAllowed || (newline && s.flow == 0) }
  match here.dropStale? with
  | none => .error (s.broken .malformed)
  | some here =>
    let here := here.unwind here.cursor.column here.outer
    match here.cursor.rest with
    | [] => .ok none
    | ch :: rest =>
      match here.token ch rest with
      | .error f => .error (s.broken f)
      | .ok after => .ok (some after)

/-- All tokens to the end of the text, or to the place where it cannot be cut on. -/
def run : (fuel : Nat) → Cutting → List Token
  | 0, s => s.tokens ++ [.fault .malformed]
  | fuel + 1, s =>
    match s.next with
    | .error ts => ts
    | .ok (some s) => run fuel s
    | .ok none =>
      match (s.unwind (-1) s.outer).dropKey? with
      | some s => s.tokens
      | none => s.tokens ++ [.fault .malformed]

end Cutting

/-- The characters that a document may have. -/
def isAllowed (c : Char) : Bool :=
  let n := c.toNat
  n == 0x09 || n == 0x0a || n == 0x0d || (0x20 ≤ n && n ≤ 0x7e) || n == 0x85
    || (0xa0 ≤ n && n ≤ 0xd7ff) || (0xe000 ≤ n && n ≤ 0xfffd) || 0x10000 ≤ n

/-- The tokens of a document. A byte-order mark at its start does not count. -/
def tokens (text : String) : List Token :=
  if text.toList.all isAllowed then
    let s := Cutting.start text
    let s := if s.cursor.peek == some '\ufeff' then s.skip 1 else s
    s.run (text.length + 1)
  else [.fault .malformed]

end BlockTypes.Config.Yaml
