import BlockTypes.Config.Yaml.Tag
import BlockTypes.Text.Characters
import BlockTypes.Text.Lower

/-!
# Values of scalars

The text of a scalar stands for a value by its tag. A tag that was written before the scalar need not
fit the text. Bytes are written in letters: base 64 writes three bytes as four of sixty-four characters. A
reader skips all other characters, and equal signs at the end stand for what the last group lacks.
-/

namespace BlockTypes

/-! ## Bytes in letters -/

namespace Text

/-- The six bits that a character stands for. -/
def sixBits? (c : Char) : Option Nat :=
  if c.isUpper then some (c.toNat - 'A'.toNat)
  else if c.isLower then some (c.toNat - 'a'.toNat + 26)
  else if c.isDigit then some (c.toNat - '0'.toNat + 52)
  else if c == '+' then some 62
  else if c == '/' then some 63
  else none

/-- The bytes that the text stands for. `held` are the bits read and not yet written, `place` is the
number of characters of the group so far, and `pads` that of equal signs after them. The text ends
where a group is filled up with equal signs, and must not end inside a group. -/
def ofBase64? : List Char → (held place pads : Nat) → Option (List UInt8)
  | [], _, place, _ => if place = 0 then some [] else none
  | c :: rest, held, place, pads =>
    if c == '=' then
      if 2 ≤ place ∧ 4 ≤ place + pads + 1 then some [] else ofBase64? rest held place (pads + 1)
    else
      match sixBits? c with
      | none => ofBase64? rest held place pads
      | some bits =>
        let all := held * 64 + bits
        match place with
        | 0 => ofBase64? rest all 1 0
        | 1 => (ofBase64? rest (all % 16) 2 0).map ((all / 16).toUInt8 :: ·)
        | 2 => (ofBase64? rest (all % 4) 3 0).map ((all / 4).toUInt8 :: ·)
        | _ => (ofBase64? rest 0 0 0).map (all.toUInt8 :: ·)

end Text

namespace Config.Yaml

/-! ## Numbers and the other values -/

/-- The value of a hexadecimal digit. -/
def hexValue? (c : Char) : Option Nat :=
  if c.isDigit then some (c.toNat - '0'.toNat)
  else if 'a' ≤ c && c ≤ 'f' then some (c.toNat - 'a'.toNat + 10)
  else if 'A' ≤ c && c ≤ 'F' then some (c.toNat - 'A'.toNat + 10)
  else none

/-- The number that digits of the given base make. -/
def digits? (base : Nat) (cs : List Char) : Option Nat :=
  if cs.isEmpty then none
  else cs.foldl
    (fun acc c => acc.bind fun n =>
      (hexValue? c).bind fun d => if d < base then some (base * n + d) else none) (some 0)

/-- The characters of a number without blanks around it, and with its digits, of whatever script, in
their usual form. A half of a pair is none of a number. -/
def numeral? (ps : List CodePoint) : Option (List Char) :=
  (CodePoint.chars? ps).map fun cs =>
    (((cs.dropWhile Text.isBlank).reverse.dropWhile Text.isBlank).reverse).map Text.plainDigit

/-- Whether the text starts with a minus, and what follows its sign. -/
def signed : List CodePoint → Bool × List CodePoint
  | .char '-' :: rest => (true, rest)
  | .char '+' :: rest => (false, rest)
  | ps => (false, ps)

/-- The digits of a number of the given base, without the mark that may say the base. -/
def unmarked (base : Nat) : List Char → List Char
  | '0' :: mark :: ds =>
    if (base, mark.toLower) ∈ [(2, 'b'), (8, 'o'), (16, 'x')] then ds else '0' :: mark :: ds
  | ds => ds

/-- The whole number of the given base that a text is. In decimal its digits are limited. -/
def whole (base : Nat) (ps : List CodePoint) : Except Fault Int :=
  match numeral? ps with
  | none => .error (.notWhole base ⟨ps⟩)
  | some cs =>
    let (negative, ds) := Decimal.splitSign cs
    if base = 10 ∧ digitLimit < ds.length ∧ ds.all Char.isDigit then .error (.tooManyDigits ds.length)
    else
      match digits? base (unmarked base ds) with
      | some n => .ok (Decimal.Number.withSign negative n)
      | none => .error (.notWhole base ⟨ps⟩)

/-- Numbers in groups of sixty, the last of which come first here, put together. -/
def sixties : List Int → Int
  | [] => 0
  | n :: rest => n + 60 * sixties rest

/-- The parts of a text between colons. -/
def colonParts : List CodePoint → List (List CodePoint)
  | [] => [[]]
  | p :: rest =>
    match colonParts rest with
    | part :: more => if p = .char ':' then [] :: part :: more else (p :: part) :: more
    | [] => [[p]]

/-- The whole number that a text without underscores and sign is. -/
def wholeValue (ps : List CodePoint) : Except Fault Int :=
  match ps with
  | [] => .error .emptyNumber
  | .char '0' :: .char 'b' :: ds => whole 2 ds
  | .char '0' :: .char 'x' :: ds => whole 16 ds
  | .char '0' :: _ => whole 8 ps
  | _ =>
    if ps.contains (.char ':') then
      (colonParts ps).mapM (whole 10) |>.map fun ns => sixties ns.reverse
    else whole 10 ps

/-- The number that a text is. -/
def number (ps : List CodePoint) : Except Fault Decimal.Number :=
  match (numeral? ps).bind fun cs => Decimal.Number.ofText? (String.ofList cs) with
  | some x => .ok x
  | none => .error (.notNumber ⟨ps⟩)

/-- Numbers in groups of sixty, the last of which come first, added to `sum`; `unit` is what one of
the first group counts. Each step is rounded. -/
def sumSixties (sum : Decimal.Number) (unit : Nat) : List Decimal.Number → Except Fault Decimal.Number
  | [] => .ok sum
  | x :: rest =>
    match Decimal.Number.ofNat unit with
    | .finite sign size => sumSixties (sum.addSizes (x.mulSizes (.finite sign size))) (60 * unit) rest
    | _ => .error .tooManyGroups

/-- The number with a fraction that a text without underscores and sign is. -/
def fractionValue (text : WideText) : Except Fault Decimal.Number :=
  if text = ".inf" then .ok (.infinite false)
  else if text = ".nan" then .ok .undefined
  else if text.points.contains (.char ':') then do
    let xs ← (colonParts text.points).mapM number
    sumSixties (.ofNat 0) 1 xs.reverse
  else number text.points

/-- Whether the text is one of the words. -/
def isWord (text : WideText) (words : List String) : Bool := words.any fun word => text = word

/-- The value of a scalar of the given tag. Tags of values with parts, and unknown ones, do not fit a
scalar. -/
def Tag.scalarValue (tag : Tag) (word : WideText) : Except Fault Scalar :=
  let bare := word.points.filter (· ≠ .char '_')
  let (negative, ps) := signed bare
  match tag with
  | .null => .ok .null
  | .text => .ok (.text word)
  | .bool =>
    if isWord word.lower ["yes", "true", "on"] then .ok (.bool true)
    else if isWord word.lower ["no", "false", "off"] then .ok (.bool false)
    else .error (.notTruth word.lower)
  | .int => (wholeValue ps).map fun n => .int (if negative then -n else n)
  | .float =>
    if bare.isEmpty then .error .emptyNumber
    else (fractionValue (WideText.mk ps).lower).map fun x => .float (if negative then x.negate else x)
  | .timestamp =>
    match (CodePoint.chars? word.points).bind (Timestamp.ofText? ∘ withoutLineEnd) with
    | some t => t.value.mapError .calendar
    | none => .error .notTime
  | .binary =>
    match CodePoint.chars? word.points with
    | some cs =>
      if cs.all fun c => c.toNat < 0x80 then
        match Text.ofBase64? cs 0 0 0 with
        | some bytes => .ok (.bytes bytes)
        | none => .error .malformed
      else .error .malformed
    | none => .error .malformed
  | _ => .error .malformed

end Config.Yaml

end BlockTypes
