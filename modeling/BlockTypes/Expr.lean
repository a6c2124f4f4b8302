import BlockTypes.Store.Forest
import BlockTypes.TypeExpr.Layout

/-!
# Expressions

Programs are built from blocks: values of a declared type, references to named functions, and
applications. A block is known by its node, so that two blocks that look alike are told apart, and
one block can stand in several places.
-/

namespace BlockTypes

/-- The identity of a block. -/
abbrev NodeId := Nat

/-- An expression, with the identity of each of its blocks. -/
inductive Expr where
  | value (node : NodeId) (type : Ty) (text : String)
  | ident (node : NodeId) (name : String) (signature : Ty)
  | apply (node : NodeId) (function argument : Expr)
deriving DecidableEq

namespace Expr

/-- The identity of the outermost block. -/
def node : Expr → NodeId
  | value n _ _ => n
  | ident n _ _ => n
  | apply n _ _ => n

/-- The expression as it is written, every application in parentheses. -/
def text : Expr → String
  | value _ _ text => text
  | ident _ name _ => name
  | apply _ f x => "(" ++ f.text ++ " " ++ x.text ++ ")"

/-- The expression block by block. -/
def spelled : Expr → String
  | value _ t text =>
    "Value(type=" ++ t.spelled (·.name) ++ ", value=" ++ Text.quote text ++ ")"
  | ident _ name t =>
    "Ident(name=" ++ Text.quote name ++ ", signature=" ++ t.spelled (·.name) ++ ")"
  | apply _ f x => "Apply(function=" ++ f.spelled ++ ", argument=" ++ x.spelled ++ ")"

/-- The blocks directly below the outermost one. -/
def children : Expr → List Expr
  | apply _ f x => [f, x]
  | _ => []

/-- The expression and all that it is built from, each block before its parts and the function side
first. A block that stands in several places is met in each. -/
def walk : Expr → List Expr
  | apply n f x => apply n f x :: (f.walk ++ x.walk)
  | e => [e]

end Expr

/-! ## Blame -/

/-- A function block and the index of one of its inputs; the index is negative when the block itself
is meant. -/
structure Site where
  function : Expr
  index : Int
deriving DecidableEq

namespace Site

/-- The site in words. -/
def describe (site : Site) : String :=
  if site.index < 0 then site.function.text
  else "input " ++ toString site.index ++ " of " ++ site.function.text

/-- The site block by block. -/
def spelled (site : Site) : String :=
  "ErrorSite(function=" ++ site.function.spelled ++ ", index=" ++ toString site.index ++ ")"

end Site

/-- The function at the far end of an expression's applications, and which input of it the outermost
application fills. -/
def Expr.site : Expr → Site
  | .apply _ f _ => ⟨f.site.function, f.site.index + 1⟩
  | e => ⟨e, -1⟩

end BlockTypes
