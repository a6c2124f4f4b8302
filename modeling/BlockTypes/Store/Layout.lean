import BlockTypes.Store.Resolve
import BlockTypes.TypeExpr.Layout

/-!
# Writing types through bindings

A bound variable is written as the type it stands for, in the place where the variable stands. The
head of an application is resolved before it is written, while the spine of the application is the
one that is there without looking through bindings: a variable that stands for a partial application
is written as one operand, in parentheses.
-/

namespace BlockTypes

namespace Store

/-- A resolved head and its arguments. -/
def layoutHead (head : Ty) (args : List Layout) : Layout :=
  match head with
  | .con name => .constructor name args
  | head => .applied (head.map (·.name)).layout args

/-- The layout of a type applied to arguments; `follow` lays out what a bound variable stands
for. -/
def layoutVia (s : Store) (follow : Ty → Layout) : Ty → List Layout → Layout
  | .app t a, args => s.layoutVia follow t (s.layoutVia follow a [] :: args)
  | .con name, args => .constructor name args
  | .arrow a b, [] => .arrow (s.layoutVia follow a []) (s.layoutVia follow b [])
  | .arrow a b, args => layoutHead (s.resolve (.arrow a b)) args
  | .var v, [] =>
    match s.bound? v.cell with
    | some u => follow u
    | none => .closed v.name
  | .var v, args => layoutHead (s.resolve (.var v)) args

/-- The layout of a type through at most `n` bindings one below the other. -/
def layoutWithin (s : Store) : (n : Nat) → Ty → Layout
  | 0, t => (t.map (·.name)).layout
  | n + 1, t => s.layoutVia (s.layoutWithin n) t []

/-- The layout of a type. -/
def layout (s : Store) (t : Ty) : Layout := s.layoutWithin (s.size + 1) t

/-- The text of a type in the given place. -/
def textIn (s : Store) (place : Place) (t : Ty) : String := (s.layout t).inPlace place

/-- The text of a type on its own. -/
def text (s : Store) (t : Ty) : String := s.textIn .whole t

end Store

/-- What went wrong with a variable, in words. -/
def Store.VarError.message (s : Store) : Store.VarError → String
  | .unbound v => "Type variable " ++ v.name ++ " has no concrete instance"
  | .alreadyBound v t => "Type variable " ++ v.name ++ " is already bound to " ++ s.text t
  | .mergeBound v w => "Cannot merge bound type variables " ++ v.name ++ " and " ++ w.name

end BlockTypes
