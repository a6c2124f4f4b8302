/-!
# Type expressions

Types are built from variables, nullary constructors, function arrows and application. The kind of
variable is a parameter: a signature as it is read has names for variables, the types of a store
have handles on its cells.
-/

namespace BlockTypes

/-- A type with variables in `ν`. Constructors of several arguments are curried. -/
inductive TypeExpr (ν : Type) where
  | var (v : ν)
  | con (name : String)
  | arrow (argument result : TypeExpr ν)
  | app (function argument : TypeExpr ν)
deriving DecidableEq

namespace TypeExpr

variable {ν μ : Type}

/-- The type with every variable renamed by `f`. -/
def map (f : ν → μ) : TypeExpr ν → TypeExpr μ
  | var v => var (f v)
  | con name => con name
  | arrow a b => arrow (a.map f) (b.map f)
  | app t a => app (t.map f) (a.map f)

/-- The type with every variable replaced by the type that `f` gives it. -/
def bind (t : TypeExpr ν) (f : ν → TypeExpr μ) : TypeExpr μ :=
  match t with
  | var v => f v
  | con name => con name
  | arrow a b => arrow (a.bind f) (b.bind f)
  | app t a => app (t.bind f) (a.bind f)

/-- The variables of the type from left to right, each as often as it occurs. -/
def vars : TypeExpr ν → List ν
  | var v => [v]
  | con _ => []
  | arrow a b => a.vars ++ b.vars
  | app t a => t.vars ++ a.vars

/-- The number of nodes of the type. -/
def size : TypeExpr ν → Nat
  | var _ => 1
  | con _ => 1
  | arrow a b => a.size + b.size + 1
  | app t a => t.size + a.size + 1

/-- The type has no variable. -/
def IsClosed (t : TypeExpr ν) : Prop := t.vars = []

instance (t : TypeExpr ν) : Decidable t.IsClosed :=
  decidable_of_iff (t.vars.isEmpty = true) List.isEmpty_iff

/-! ## Lists, tuples and curried functions -/

/-- The name of the list constructor. -/
def listCon : String := "[]"

/-- The name of the type of the empty tuple. -/
def unitCon : String := "()"

/-- The name of the constructor of tuples of the given arity: one comma less than parts. -/
def tupleCon (arity : Nat) : String := "(" ++ "".pushn ',' (arity - 1) ++ ")"

/-- The type `[element]`. -/
def listOf (element : TypeExpr ν) : TypeExpr ν := app (con listCon) element

/-- The type applied to the arguments in order. -/
def applyTo (head : TypeExpr ν) (args : List (TypeExpr ν)) : TypeExpr ν := args.foldl app head

/-- The type of tuples of the given parts; of one part it is that part. -/
def tupleOf : List (TypeExpr ν) → TypeExpr ν
  | [] => con unitCon
  | [t] => t
  | ts => applyTo (con (tupleCon ts.length)) ts

/-- The curried function from the given arguments to the result. -/
def arrows (args : List (TypeExpr ν)) (result : TypeExpr ν) : TypeExpr ν :=
  args.foldr arrow result

/-- The curried function type whose last part is its result; there is none without parts. -/
def functionOf? (ts : List (TypeExpr ν)) : Option (TypeExpr ν) :=
  ts.getLast?.map (arrows ts.dropLast)

/-- What is said of a function type without parts. -/
def noPartsMessage : String := "function_of needs at least one type"

/-- The head of an application and its arguments in order. -/
def spine : TypeExpr ν → TypeExpr ν × List (TypeExpr ν)
  | app t a => (t.spine.1, t.spine.2 ++ [a])
  | t => (t, [])

end TypeExpr

end BlockTypes
