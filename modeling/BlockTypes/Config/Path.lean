/-!
# Paths

A path is a sequence of names below a root, which is empty for a relative path. Repeated slashes,
single dots and a final slash do not count; two dots stay as they are. Two slashes at the start are a
root of their own, and more than two are one.
-/

namespace BlockTypes.Config

/-- A path of names below a root. -/
structure Path where
  root : String
  parts : List String
deriving DecidableEq

namespace Path

/-- The root of a path that starts with the given number of slashes. -/
def rootOf : Nat → String
  | 0 => ""
  | 2 => "//"
  | _ => "/"

/-- The path that a text denotes. -/
def ofText (text : String) : Path where
  root := rootOf (text.toList.takeWhile (· == '/')).length
  parts := (text.splitOn "/").filter fun part => part ≠ "" ∧ part ≠ "."

/-- The text of a path; the path without names is a dot. -/
def text (p : Path) : String :=
  if p.root = "" ∧ p.parts = [] then "." else p.root ++ "/".intercalate p.parts

/-- Whether the path starts at a root. -/
def isAbsolute (p : Path) : Bool := p.root ≠ ""

/-- The path without its last name. -/
def parent (p : Path) : Path := { p with parts := p.parts.dropLast }

/-- The path `p` seen from `base`; an absolute path stays as it is. -/
def join (base p : Path) : Path :=
  if p.isAbsolute then p else { base with parts := base.parts ++ p.parts }

end Path

end BlockTypes.Config
