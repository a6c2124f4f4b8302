import BlockTypes.Signature.Reading
import BlockTypes.Store.Basic

/-!
# Signatures

A signature is a type, and before it a context that asserts classes of its variables. `read` turns a
text into a signature, and `build` makes a type of a store of it: one new variable for each name,
with the classes that the context asserts of it.
-/

namespace BlockTypes

namespace Signature

/-- The classes that a context may name. -/
abbrev Classes := String → Option TypeClass

/-- The class is asserted of the variable of that name. -/
structure Assertion where
  typeClass : TypeClass
  subject : String
deriving DecidableEq

/-- The groups of tokens between commas. -/
def groups : List Token → List (List Token)
  | [] => [[]]
  | token :: rest =>
    match groups rest with
    | group :: more => if token.lexeme = .comma then [] :: group :: more else (token :: group) :: more
    | [] => [[token]]

/-- Reads one assertion; `position` is that of the context. -/
def readAssertion (classes : Classes) (position : Nat) : List Token → Except Problem Assertion
  | [⟨.ident name, classAt⟩, ⟨.ident v, varAt⟩] =>
    if isVariableName v then
      match classes name with
      | some c => .ok ⟨c, v⟩
      | none => .error ⟨.unknownClass name, classAt⟩
    else .error ⟨.notVariable v, varAt⟩
  | token :: _ => .error ⟨.assertion, token.position⟩
  | [] => .error ⟨.assertion, position⟩

/-- Reads the tokens before the double arrow, which stands at `stop`: an assertion, or assertions
between parentheses. -/
def readContext (classes : Classes) (stop : Nat) : List Token → Except Problem (List Assertion)
  | [] => .error ⟨.emptyContext, stop⟩
  | first :: rest =>
    if first.lexeme = .leftParen then
      let last := rest.getLastD first
      if last.lexeme = .rightParen then
        (groups rest.dropLast).mapM (readAssertion classes first.position)
      else .error ⟨.unclosedContext, last.position⟩
    else (readAssertion classes first.position (first :: rest)).map ([·])

end Signature

/-- A type over variable names, and the classes asserted of them. -/
structure Signature where
  context : List Signature.Assertion
  type : TypeExpr String
deriving DecidableEq

namespace Signature

/-- Reads the tokens of a signature whose text has the given length. -/
def ofTokens (classes : Classes) (length : Nat) (ts : List Token) : Except Problem Signature :=
  if ts.isEmpty then .error ⟨.emptySignature, 0⟩
  else
    match ts.span (·.lexeme ≠ .implies) with
    | (type, []) => (readType type length).map (⟨[], ·⟩)
    | (context, double :: type) =>
      match readContext classes double.position context with
      | .error problem => .error problem
      | .ok assertions => (readType type length).map (⟨assertions, ·⟩)

/-- Reads a signature. -/
def read (classes : Classes) (text : String) : Except Error Signature :=
  match tokens text >>= ofTokens classes text.length with
  | .ok sig => .ok sig
  | .error problem => .error { problem with text }

/-- Reads a signature from a text that may have halves of pairs. A half is no character of a signature,
so that the first one is the fault, unless there is one before it. -/
def readWide (classes : Classes) (text : WideText) : Except Error Signature :=
  match CodePoint.untilHalf text.points with
  | (start, []) => read classes (String.ofList start)
  | (start, p :: _) =>
    match scan start 0 0 with
    | .error problem => .error { problem with text }
    | .ok _ => .error ⟨⟨.character p, start.length⟩, text⟩

@[simp] theorem readWide_ofString (classes : Classes) (text : String) :
    readWide classes text = read classes text := by
  simp [readWide, WideText.ofString, WideText.ofChars, CodePoint.untilHalf_map_char]

/-- The classes asserted of the variable of that name. -/
def constraintsOn (sig : Signature) (name : String) : ConstraintSet :=
  .ofList ((sig.context.filter (·.subject = name)).map (·.typeClass))

/-! ## Variables of a signature -/

/-- The variables made for the names of a signature, and the store that has them. -/
structure Scope where
  store : Store
  vars : List (String × TypeVar)

/-- Makes a variable for the name, unless it has one. -/
def Scope.add (sig : Signature) (scope : Scope) (name : String) : Scope :=
  match scope.vars.lookup name with
  | some _ => scope
  | none =>
    let made := scope.store.newVar name (sig.constraintsOn name)
    ⟨made.2, (name, made.1) :: scope.vars⟩

/-- The variables for all names of the signature. -/
def scope (sig : Signature) (s : Store) : Scope := sig.type.vars.foldl (Scope.add sig) ⟨s, []⟩

/-- The type that a signature denotes, with new variables of the store. -/
def build (sig : Signature) (s : Store) : Ty × Store :=
  let scope := sig.scope s
  (sig.type.map fun name => (scope.vars.lookup name).getD ⟨name, 0⟩, scope.store)

end Signature

/-- The type that the text of a signature denotes, with new variables. -/
def Store.ofSignature (s : Store) (classes : Signature.Classes) (text : WideText) :
    Except Signature.Error (Ty × Store) :=
  (Signature.readWide classes text).map (·.build s)

end BlockTypes
