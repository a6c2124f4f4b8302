import BlockTypes.Text.Quoted
import BlockTypes.TypeExpr.Basic

/-!
# Writing types

A type is written with infix arrows, `[t]` for lists and `(t, u)` for tuples, and with parentheses
only where the place it stands in needs them. Writing goes through a `Layout`, the text of a type
together with how loosely it is held, so that each part is written once and bracketed by its place.

Besides this notation a type can be spelled out node by node, which shows how it was put together and
names its variables whether or not they stand for something.
-/

namespace BlockTypes

/-- Where a type stands: on its own, to the left of an arrow, or as a part of an application. -/
inductive Place where
  | whole
  | domain
  | operand
deriving DecidableEq

/-- How loosely the text of a type is held together. -/
inductive Grip where
  | closed
  | applied
  | arrow
deriving DecidableEq

/-- Whether text of this grip needs parentheses in that place. -/
def Grip.needsParens : Grip → Place → Bool
  | .closed, _ => false
  | .applied, place => place == .operand
  | .arrow, place => place != .whole

/-- The text of a type and how loosely it is held together. -/
structure Layout where
  text : String
  grip : Grip
deriving DecidableEq

namespace Layout

/-- The text as it stands in the given place. -/
def inPlace (l : Layout) (place : Place) : String :=
  if l.grip.needsParens place then "(" ++ l.text ++ ")" else l.text

/-- A text that is never bracketed. -/
def closed (text : String) : Layout := ⟨text, .closed⟩

/-- An arrow from `a` to `b`. -/
def arrow (a b : Layout) : Layout := ⟨a.inPlace .domain ++ " -> " ++ b.inPlace .whole, .arrow⟩

/-- A head and the arguments that follow it. -/
def applied (head : Layout) (args : List Layout) : Layout :=
  match args with
  | [] => head
  | args => ⟨" ".intercalate (head.inPlace .operand :: args.map (·.inPlace .operand)), .applied⟩

/-- A constructor and its arguments. The list constructor encloses its one argument, and a tuple
constructor as many as it takes. -/
def constructor (name : String) (args : List Layout) : Layout :=
  match args with
  | [] => closed name
  | [a] => if name = TypeExpr.listCon then closed ("[" ++ a.inPlace .whole ++ "]")
    else applied (closed name) [a]
  | args => if name = TypeExpr.tupleCon args.length then
      closed ("(" ++ ", ".intercalate (args.map (·.inPlace .whole)) ++ ")")
    else applied (closed name) args

end Layout

namespace TypeExpr

/-- The layout of a type applied to arguments that are laid out already; variables show their
names. -/
def layoutWith : TypeExpr String → List Layout → Layout
  | var name, args => Layout.applied (.closed name) args
  | con name, args => .constructor name args
  | arrow a b, args => Layout.applied (.arrow (a.layoutWith []) (b.layoutWith [])) args
  | app t a, args => t.layoutWith (a.layoutWith [] :: args)

/-- The layout of a type whose variables are names. -/
def layout (t : TypeExpr String) : Layout := t.layoutWith []

/-- The type node by node; `name` gives the name of a variable. -/
def spelled {ν : Type} (name : ν → String) : TypeExpr ν → String
  | var v => "TypeVar(" ++ Text.quote (name v) ++ ")"
  | con c => "TypeCon(name=" ++ Text.quote c ++ ")"
  | arrow a b => "FunType(argument=" ++ a.spelled name ++ ", result=" ++ b.spelled name ++ ")"
  | app t a => "TypeApp(type_fun=" ++ t.spelled name ++ ", type_arg=" ++ a.spelled name ++ ")"

end TypeExpr

end BlockTypes
