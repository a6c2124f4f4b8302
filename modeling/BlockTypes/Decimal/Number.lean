import BlockTypes.Decimal.Binary

/-!
# Numbers with a fraction

A number with a fraction is the binary number nearest to what was written. It has a sign, which zero
has too, and beyond the largest binary number it is infinite. Numbers lie on one line with the whole
numbers, where they are compared by their exact values.
-/

namespace BlockTypes.Decimal

/-- A number with a fraction. -/
inductive Number where
  | finite (negative : Bool) (size : Binary)
  | infinite (negative : Bool)
  | undefined
deriving DecidableEq

/-- A point of the number line, or one of its two ends. -/
inductive Extent where
  | bottom
  | ratio (num : Int) (den : Nat)
  | top
deriving DecidableEq

/-- Whether the first is not above the second. -/
def Extent.le : Extent → Extent → Bool
  | bottom, _ => true
  | _, top => true
  | ratio a b, ratio c d => a * d ≤ c * b
  | _, _ => false

/-- Whether the first is below the second. -/
def Extent.lt (a b : Extent) : Bool := !b.le a

/-- The binary number as a ratio. -/
def Binary.ratio (b : Binary) : Nat × Nat := scaleDown b.significand 1 (-b.exponent)

namespace Number

/-- A size with its sign. -/
def withSign (negative : Bool) (n : Nat) : Int := if negative then -(n : Int) else n

/-- Where the number lies; what is undefined lies nowhere. -/
def extent? : Number → Option Extent
  | finite negative b => some (.ratio (withSign negative b.ratio.1) b.ratio.2)
  | infinite true => some .bottom
  | infinite false => some .top
  | undefined => none

/-- The whole number that the number is equal to. -/
def whole? : Number → Option Int
  | finite negative b =>
    if b.ratio.1 % b.ratio.2 = 0 then some (withSign negative (b.ratio.1 / b.ratio.2)) else none
  | _ => none

/-! ## Reading -/

/-- The number nearest to `num / den`, with its sign. -/
def ofRatio (negative : Bool) (num den : Nat) : Number :=
  match Binary.ofRatio? num den with
  | some b => finite negative b
  | none => infinite negative

/-- The number nearest to `n * 10 ^ exponent`, with its sign. Four hundred places beyond the digits of
`n`, either way, all is infinite or zero, so that larger exponents count as that. -/
def ofScientific (negative : Bool) (n : Nat) (exponent : Int) : Number :=
  if 0 ≤ exponent then
    ofRatio negative (n * Nat.pow 10 (if exponent ≤ 400 then exponent.toNat else 400)) 1
  else
    let least : Nat := n.log2 + 400
    ofRatio negative n (Nat.pow 10 (if -exponent ≤ least then (-exponent).toNat else least))

/-- The number nearest to a whole number. -/
def ofNat (n : Nat) : Number := ofRatio false n 1

/-- The number with the other sign. -/
def negate : Number → Number
  | finite negative b => finite (!negative) b
  | infinite negative => infinite (!negative)
  | undefined => undefined

/-- The sizes of two numbers put together by a calculation with ratios, and rounded. -/
def combine (f : Nat × Nat → Nat × Nat → Nat × Nat) : Number → Number → Number
  | finite _ a, finite _ b => ofRatio false (f a.ratio b.ratio).1 (f a.ratio b.ratio).2
  | undefined, _ => undefined
  | _, undefined => undefined
  | _, _ => infinite false

/-- The sum of two numbers that are not negative. -/
def addSizes : Number → Number → Number :=
  combine fun a b => (a.1 * b.2 + b.1 * a.2, a.2 * b.2)

/-- The product of two numbers that are not negative, the second of them not zero. -/
def mulSizes : Number → Number → Number := combine fun a b => (a.1 * b.1, a.2 * b.2)

end Number

/-- The whole number that decimal digits make. -/
def natOfDigits (ds : List Char) : Nat := ds.foldl (fun n c => 10 * n + (c.toNat - '0'.toNat)) 0

/-- Whether the text starts with a minus, and what follows its sign. -/
def splitSign : List Char → Bool × List Char
  | '-' :: rest => (true, rest)
  | '+' :: rest => (false, rest)
  | cs => (false, cs)

/-- The exponent that ends a decimal: none, or a whole number after a mark. -/
def exponent? : List Char → Option Int
  | [] => some 0
  | mark :: rest =>
    let (negative, ds) := splitSign rest
    if (mark == 'e' || mark == 'E') && !ds.isEmpty && ds.all Char.isDigit then
      some (Number.withSign negative (natOfDigits ds))
    else none

namespace Number

/-- The number with the given digits before and after the point. -/
def ofDigits (negative : Bool) (whole part : List Char) (exponent : Int) : Number :=
  ofScientific negative (natOfDigits (whole ++ part)) (exponent - part.length)

/-- The digits after a point at the start of the text, and what follows them. -/
def splitPart : List Char → List Char × List Char
  | '.' :: rest => (rest.takeWhile Char.isDigit, rest.dropWhile Char.isDigit)
  | rest => ([], rest)

/-- The number that a text denotes: digits, with a point among them and an exponent after them if
need be, or the word for a number that is not finite. -/
def ofText? (text : String) : Option Number :=
  let (negative, cs) := splitSign text.toList
  if cs = "inf".toList ∨ cs = "infinity".toList then some (infinite negative)
  else if cs = "nan".toList then some undefined
  else
    let whole := cs.takeWhile Char.isDigit
    let (part, rest) := splitPart (cs.dropWhile Char.isDigit)
    if whole.isEmpty && part.isEmpty then none
    else (exponent? rest).map (ofDigits negative whole part)

end Number

end BlockTypes.Decimal
