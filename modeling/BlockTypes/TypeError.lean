import BlockTypes.Expr
import BlockTypes.Unify

/-!
# Type errors

A type error says why two types do not fit, in the words that held when they were found not to, and
which expression was being typed.
-/

namespace BlockTypes

namespace TypeError

/-- The kinds of type error. -/
inductive Kind where
  | general
  | recursive
  | mismatch
  | constraint
  | shape
deriving DecidableEq

/-- The name of the kind. -/
def Kind.label : Kind → String
  | general => "HaskellTypeError"
  | recursive => "RecursiveTypeError"
  | mismatch => "MismatchedConstructorError"
  | constraint => "ConstraintError"
  | shape => "ShapeMismatchError"

end TypeError

/-- A type error and the expression it was found in. -/
structure TypeError where
  kind : TypeError.Kind
  message : String
  expression : Option Expr
deriving DecidableEq

namespace Cause

/-- The kind of error that the cause gives rise to. -/
def kind : Cause → TypeError.Kind
  | recursive _ _ => .recursive
  | mismatch _ _ => .mismatch
  | unsatisfied _ _ => .constraint
  | shape _ _ => .shape

/-- The cause in words, types written as the store has them. -/
def message (s : Store) : Cause → String
  | recursive v t => s.text (.var v) ++ " ∈ " ++ s.text t
  | mismatch a b => a ++ " ⊥ " ++ b
  | unsatisfied t cs => s.text t ++ " ∉ constraints of " ++ cs.text
  | shape a b => s.text a ++ " ⊥ " ++ s.text b

/-- The error that the cause gives rise to while an expression is typed. -/
def error (s : Store) (context : Option Expr) (cause : Cause) : TypeError :=
  ⟨cause.kind, cause.message s, context⟩

end Cause

namespace TypeError

/-- The error in words. -/
def text (e : TypeError) : String :=
  match e.expression with
  | none => e.message
  | some expr => e.message ++ " in " ++ expr.text

/-- The error field by field. -/
def spelled (e : TypeError) : String :=
  e.kind.label ++ "(message=" ++ Text.quote e.message ++ ", expression="
    ++ ((e.expression.map (·.spelled)).getD "None") ++ ")"

/-- The input that the error is blamed on. -/
def site? (e : TypeError) : Option Site := e.expression.map (·.site)

end TypeError

end BlockTypes
