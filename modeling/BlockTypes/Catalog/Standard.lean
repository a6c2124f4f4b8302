import BlockTypes.Catalog.Basic

/-!
# The standard catalogue

The classes and functions that are there when no other catalogue is asked for.
-/

namespace BlockTypes.Catalog.Standard

open Config (Scalar Data)

/-- The standard classes and their instances. -/
def classes : List (String × List String) := [
  ("Eq", ["Int", "Integer", "Float", "Double", "Char", "Bool", "String"]),
  ("Ord", ["Int", "Integer", "Float", "Double", "Char", "String"]),
  ("Num", ["Int", "Integer", "Float", "Double"]),
  ("Integral", ["Int", "Integer"]),
  ("Fractional", ["Float", "Double"]),
  ("Floating", ["Float", "Double"]),
  ("Show", ["Int", "Integer", "Float", "Double", "Char", "Bool", "String"]),
  ("Enum", ["Int", "Integer", "Char", "Bool"])]

/-- The standard functions and their signatures, by category. -/
def functions : List (String × List (String × String)) := [
  ("Arithmetic", [
    ("(+)", "Num a => a -> a -> a"),
    ("(-)", "Num a => a -> a -> a"),
    ("(*)", "Num a => a -> a -> a"),
    ("(/)", "Fractional a => a -> a -> a"),
    ("negate", "Num a => a -> a"),
    ("abs", "Num a => a -> a"),
    ("div", "Integral a => a -> a -> a"),
    ("mod", "Integral a => a -> a -> a"),
    ("sqrt", "Floating a => a -> a"),
    ("fromIntegral", "(Integral a, Num b) => a -> b")]),
  ("Comparison", [
    ("(==)", "Eq a => a -> a -> Bool"),
    ("(/=)", "Eq a => a -> a -> Bool"),
    ("(<)", "Ord a => a -> a -> Bool"),
    ("(>)", "Ord a => a -> a -> Bool"),
    ("max", "Ord a => a -> a -> a"),
    ("min", "Ord a => a -> a -> a")]),
  ("Logic", [
    ("(&&)", "Bool -> Bool -> Bool"),
    ("(||)", "Bool -> Bool -> Bool"),
    ("not", "Bool -> Bool")]),
  ("Lists", [
    ("map", "(a -> b) -> [a] -> [b]"),
    ("filter", "(a -> Bool) -> [a] -> [a]"),
    ("foldr", "(a -> b -> b) -> b -> [a] -> b"),
    ("length", "[a] -> Int"),
    ("head", "[a] -> a"),
    ("tail", "[a] -> [a]"),
    ("(:)", "a -> [a] -> [a]"),
    ("(++)", "[a] -> [a] -> [a]"),
    ("sum", "Num a => [a] -> a"),
    ("zip", "[a] -> [b] -> [(a, b)]")]),
  ("Tuples", [
    ("fst", "(a, b) -> a"),
    ("snd", "(a, b) -> b")]),
  ("Functions", [
    ("id", "a -> a"),
    ("const", "a -> b -> a"),
    ("flip", "(a -> b -> c) -> b -> a -> c"),
    ("(.)", "(b -> c) -> (a -> b) -> a -> c")]),
  ("Maybe", [
    ("Just", "a -> Maybe a"),
    ("fromMaybe", "a -> Maybe a -> a")]),
  ("Text", [
    ("show", "Show a => a -> String"),
    ("succ", "Enum a => a -> a")])]

/-- A mapping from names. -/
def named {α : Type} (f : α → Data) (entries : List (String × α)) : Data :=
  .map (entries.map fun e => (.text e.1, f e.2))

/-- A text as configuration data. -/
def textData (text : String) : Data := .scalar (.text text)

/-- The standard catalogue as a configuration document. -/
def document : List (Scalar × Data) :=
  [(.text "classes", named (fun names => .list (names.map textData)) classes),
    (.text "functions", named (named textData) functions)]

end BlockTypes.Catalog.Standard
