import BlockTypes.Config.Yaml.Timestamp

/-!
# Tags

The tag of a value says what kind of value it is. It may be written before the value; a plain scalar
without a written tag gets one by the way it looks.
-/

namespace BlockTypes.Config.Yaml

/-- A kind of value. -/
inductive Tag where
  | null
  | bool
  | int
  | float
  | binary
  | timestamp
  | text
  | merge
  | value
  | list
  | map
  | set
  | orderedMap
  | pairs
  | other (uri : String)
deriving DecidableEq

namespace Tag

/-- What the names of the usual tags start with. -/
def usual : String := "tag:yaml.org,2002:"

/-- The usual tags and their names. -/
def names : List (String × Tag) := [
  ("null", null), ("bool", bool), ("int", int), ("float", float), ("binary", binary),
  ("timestamp", timestamp), ("str", text), ("merge", merge), ("value", value), ("seq", list),
  ("map", map), ("set", set), ("omap", orderedMap), ("pairs", pairs)]

/-- The tag of the given full name. -/
def ofUri (uri : String) : Tag :=
  ((names.find? fun (name, _) => usual ++ name = uri).map (·.2)).getD (other uri)

/-- Whether values of the tag have parts. -/
def isCollection : Tag → Bool
  | list | map | set | orderedMap | pairs => true
  | _ => false

end Tag

/-! ## What a plain scalar looks like -/

/-- The words for the truth values. -/
def truthWords : List String := [
  "yes", "Yes", "YES", "no", "No", "NO", "true", "True", "TRUE", "false", "False", "FALSE",
  "on", "On", "ON", "off", "Off", "OFF"]

/-- The words for nothing. -/
def nullWords : List String := ["", "~", "null", "Null", "NULL"]

/-- Whether all characters pass the test or are underscores, and there is one. -/
def isDigitRun (p : Char → Bool) (cs : List Char) : Bool :=
  !cs.isEmpty && cs.all fun c => p c || c == '_'

/-- Whether the text is a run of digits that starts with a digit. -/
def isDecimalRun (cs : List Char) : Bool := cs.head?.any Char.isDigit && isDigitRun Char.isDigit cs

/-- Whether the text is a number below sixty. -/
def isSixtieth (cs : List Char) : Bool :=
  match cs with
  | [d] => d.isDigit
  | [c, d] => '0' ≤ c && c ≤ '5' && d.isDigit
  | _ => false

/-- Whether the text is a run of digits and then numbers below sixty, one or more, after colons. -/
def isSixties (cs : List Char) : Bool :=
  match ((String.ofList cs).splitOn ":").map String.toList with
  | first :: rest@(_ :: _) => isDecimalRun first && rest.all isSixtieth
  | _ => false

/-- Whether the text without its sign looks like a whole number: binary, octal, hexadecimal, decimal,
or in groups of sixty. -/
def looksWhole : List Char → Bool
  | ['0'] => true
  | '0' :: 'b' :: ds => isDigitRun (fun c => c == '0' || c == '1') ds
  | '0' :: 'x' :: ds => isDigitRun (fun c => c.isDigit || ('a' ≤ c.toLower && c.toLower ≤ 'f')) ds
  | '0' :: ds => isDigitRun (fun c => '0' ≤ c && c ≤ '7') ds
  | cs => isDecimalRun cs || isSixties cs

/-- Whether the text is an exponent, which has a sign, or empty. -/
def isExponent : List Char → Bool
  | [] => true
  | e :: sign :: ds =>
    (e == 'e' || e == 'E') && (sign == '+' || sign == '-') && !ds.isEmpty && ds.all Char.isDigit
  | _ => false

/-- Whether the text without its sign looks like a number with a fraction. There is a point, with a
digit before it, or else after it and then without a sign. -/
def looksFractional (hasSign : Bool) (cs : List Char) : Bool :=
  let isMark (c : Char) : Bool := c.isDigit || c == '_'
  let whole := cs.takeWhile (· != '.')
  match cs.dropWhile (· != '.') with
  | [] => false
  | _ :: rest =>
    let part := rest.takeWhile isMark
    let after := rest.dropWhile isMark
    (isDecimalRun whole && isExponent after)
      || (whole.isEmpty && !hasSign && part.head?.any Char.isDigit && isExponent after)
      || (isSixties whole && after.isEmpty)

/-- Whether the text without its sign is a word for a number that is not finite. -/
def isBoundless (hasSign : Bool) (word : String) : Bool :=
  word ∈ [".inf", ".Inf", ".INF"] || (!hasSign && word ∈ [".nan", ".NaN", ".NAN"])

/-- The tag that a plain scalar gets by its look. -/
def Tag.ofPlain (word : String) : Tag :=
  let cs := (Decimal.splitSign word.toList).2
  let hasSign := cs.length < word.length
  if word ∈ truthWords then .bool
  else if looksFractional hasSign cs || isBoundless hasSign (String.ofList cs) then .float
  else if looksWhole cs then .int
  else if word = "<<" then .merge
  else if word ∈ nullWords then .null
  else if (Timestamp.ofText? word.toList).any (·.isEvident) then .timestamp
  else if word = "=" then .value
  else .text

/-- The tag that a scalar gets by its look, where a line end after the rest does not count. Halves of
pairs make it a text. -/
def Tag.ofWord (text : WideText) : Tag :=
  match CodePoint.chars? text.points with
  | none => .text
  | some cs =>
    let look := withoutLineEnd cs
    .ofPlain (String.ofList (if look.isEmpty then cs else look))

end BlockTypes.Config.Yaml
