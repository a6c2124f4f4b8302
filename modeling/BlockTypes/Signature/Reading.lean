import BlockTypes.Signature.Token
import BlockTypes.TypeExpr.Basic

/-!
# Reading types

A type is read one token at a time. A `Reading` is what has been read so far: at the innermost level
of brackets the types before arrows and the application being read, and around it the brackets that
are still open. A token that cannot go on with the reading is refused, and what the reading needed
instead is the complaint.
-/

namespace BlockTypes.Signature

/-- What has been read between the same brackets: the types before arrows, the last one first, and
the type that is being applied to operands. -/
structure Level where
  domains : List (TypeExpr String)
  current : Option (TypeExpr String)
deriving DecidableEq

namespace Level

/-- Nothing has been read yet. -/
def start : Level := ⟨[], none⟩

/-- One more operand has been read. -/
def operand (l : Level) (t : TypeExpr String) : Level :=
  { l with current := some (match l.current with
    | none => t
    | some f => .app f t) }

/-- The type that has been read; there is none where an operand has to come. -/
def result? (l : Level) : Option (TypeExpr String) :=
  l.current.map fun t => l.domains.foldl (fun result domain => .arrow domain result) t

end Level

/-- An open bracket, with the level it stands in and, after a parenthesis, the parts that have been
read, the last one first. -/
inductive Opening where
  | bracket (outer : Level)
  | paren (outer : Level) (parts : List (TypeExpr String))
deriving DecidableEq

/-- A type as far as it has been read. -/
structure Reading where
  level : Level
  openings : List Opening
deriving DecidableEq

namespace Reading

/-- Nothing has been read yet. -/
def start : Reading := ⟨.start, []⟩

/-- An identifier as a type. -/
def named (name : String) : TypeExpr String :=
  if isVariableName name then .var name else .con name

/-- The reading after one more lexeme, if it can come next. -/
def take? (r : Reading) : Lexeme → Option Reading
  | .ident name => some { r with level := r.level.operand (named name) }
  | .arrow => r.level.current.map fun t => { r with level := ⟨t :: r.level.domains, none⟩ }
  | .leftBracket => some ⟨.start, .bracket r.level :: r.openings⟩
  | .leftParen => some ⟨.start, .paren r.level [] :: r.openings⟩
  | .rightBracket =>
    match r.openings with
    | .bracket outer :: rest =>
      if r.level = .start then some ⟨outer.operand (.con TypeExpr.listCon), rest⟩
      else r.level.result?.map fun t => ⟨outer.operand (.listOf t), rest⟩
    | _ => none
  | .rightParen =>
    match r.openings with
    | .paren outer parts :: rest =>
      if r.level = .start ∧ parts = [] then some ⟨outer.operand (.con TypeExpr.unitCon), rest⟩
      else r.level.result?.map fun t => ⟨outer.operand (.tupleOf (parts.reverse ++ [t])), rest⟩
    | _ => none
  | .comma =>
    match r.openings with
    | .paren outer parts :: rest =>
      r.level.result?.map fun t => ⟨.start, .paren outer (t :: parts) :: rest⟩
    | _ => none
  | .implies => none

/-- The complaint about a lexeme that cannot come next: after a complete type the innermost bracket
should have been closed. -/
def refusal (r : Reading) (x : Lexeme) : Complaint :=
  match r.level.current, r.openings with
  | some _, .bracket _ :: _ => .expected "]"
  | some _, .paren _ _ :: _ => .expected ")"
  | _, _ => .unexpected x.text

/-- The reading after the given tokens. -/
def takeAll (r : Reading) : List Token → Except Problem Reading
  | [] => .ok r
  | token :: rest =>
    match r.take? token.lexeme with
    | some r' => r'.takeAll rest
    | none => .error ⟨r.refusal token.lexeme, token.position⟩

/-- The type that has been read when the text ends, or what is missing. -/
def finish (r : Reading) : Except Complaint (TypeExpr String) :=
  match r.level.result?, r.openings with
  | some t, [] => .ok t
  | some _, .bracket _ :: _ => .error (.expected "]")
  | some _, .paren _ _ :: _ => .error (.expected ")")
  | none, _ => .error .endOfText

end Reading

/-- The type that the tokens of a text of the given length denote. -/
def readType (tokens : List Token) (length : Nat) : Except Problem (TypeExpr String) :=
  match Reading.start.takeAll tokens with
  | .error problem => .error problem
  | .ok r =>
    match r.finish with
    | .ok t => .ok t
    | .error complaint => .error ⟨complaint, length⟩

end BlockTypes.Signature
