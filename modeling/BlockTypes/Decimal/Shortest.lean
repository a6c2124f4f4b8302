import BlockTypes.Decimal.Number

/-!
# The shortest decimal

A binary number is written with the fewest decimal digits that read back as the same number, and of
those with the digits nearest to it. The digits stand in positional notation unless the number is
very large or very small.
-/

namespace BlockTypes.Decimal

/-- The decimal `digits * 10 ^ exponent`. -/
structure Digits where
  digits : Nat
  exponent : Int
deriving DecidableEq

/-- `x * 2 ^ e / 10 ^ k` as a ratio. -/
def gridRatio (x : Nat) (e k : Int) : Nat × Nat :=
  let num := if 0 ≤ e then x * Nat.pow 2 e.toNat else x
  let den := if 0 ≤ e then 1 else Nat.pow 2 (-e).toNat
  if 0 ≤ k then (num, den * Nat.pow 10 k.toNat) else (num * Nat.pow 10 (-k).toNat, den)

/-- The numbers that read back as a binary number lie between `low / 4` and `high / 4` of its unit;
the ends belong to it when its significand is even. -/
structure Reach where
  low : Nat
  high : Nat
  closed : Bool

/-- How far the number reaches. Below a power of two the neighbours are closer. -/
def Binary.reach (b : Binary) : Reach :=
  let m := 4 * b.significand
  let low :=
    if b.significand = significandEnd / 2 ∧ b.exponent ≠ leastExponent then m - 1 else m - 2
  ⟨low, m + 2, b.significand % 2 = 0⟩

/-- Whether `d * 10 ^ k` reads back as the number. -/
def Binary.readsBack (b : Binary) (d : Nat) (k : Int) : Bool :=
  let r := b.reach
  let low := gridRatio r.low (b.exponent - 2) k
  let high := gridRatio r.high (b.exponent - 2) k
  if r.closed then low.1 ≤ d * low.2 && d * high.2 ≤ high.1
  else low.1 < d * low.2 && d * high.2 < high.1

/-- The decimal of the grid `10 ^ k` that reads back as the number, the nearer one if there are
two. -/
def Binary.onGrid? (b : Binary) (k : Int) : Option Nat :=
  let v := gridRatio b.significand b.exponent k
  let below := v.1 / v.2
  match b.readsBack below k, b.readsBack (below + 1) k with
  | true, true => some (roundEven v.1 v.2)
  | true, false => some below
  | false, true => some (below + 1)
  | false, false => none

/-- The position of the first digit of a number: the greatest `k` with `10 ^ k` not above it. -/
def Binary.magnitude (b : Binary) : Int :=
  let ks := (List.range 640).map fun n : Nat => 310 - (n : Int)
  (ks.find? fun k =>
    let v := gridRatio b.significand b.exponent k
    v.2 ≤ v.1).getD 0

/-- The fewest digits that read back as the number. -/
def Binary.shortest (b : Binary) : Digits :=
  let top := b.magnitude
  let grids := (List.range 18).map fun n : Nat => top - (n : Int)
  (grids.findSome? fun k => (b.onGrid? k).map (⟨·, k⟩)).getD ⟨0, 0⟩

/-! ## Notation -/

/-- Drops zeros from the end of a number. -/
def stripZeros : (fuel : Nat) → Digits → Digits
  | 0, d => d
  | fuel + 1, d =>
    if d.digits ≠ 0 ∧ d.digits % 10 = 0 then stripZeros fuel ⟨d.digits / 10, d.exponent + 1⟩ else d

/-- The exponent of a number, with its sign and at least two digits. -/
def exponentText (e : Int) : String :=
  let digits := toString e.natAbs
  (if e < 0 then "-" else "+") ++ (if digits.length < 2 then "0" ++ digits else digits)

/-- The digits in positional notation when the point falls at most four places before them or
sixteen after the first of them, and else with an exponent. There is always a digit after the
point in positional notation. -/
def Digits.text (d : Digits) : String :=
  if d.digits = 0 then "0.0"
  else
    let d := stripZeros 400 d
    let digits := (toString d.digits).toList
    let point := digits.length + d.exponent
    if -4 < point ∧ point ≤ 16 then
      if point ≤ 0 then "0." ++ String.ofList (List.replicate (-point).toNat '0' ++ digits)
      else if (digits.length : Int) ≤ point then
        String.ofList (digits ++ List.replicate (point.toNat - digits.length) '0') ++ ".0"
      else
        String.ofList (digits.take point.toNat) ++ "." ++ String.ofList (digits.drop point.toNat)
    else
      let rest := digits.drop 1
      String.ofList (digits.take 1)
        ++ (if rest.isEmpty then "" else "." ++ String.ofList rest)
        ++ "e" ++ exponentText (point - 1)

/-- The text of a number. -/
def Number.text : Number → String
  | finite negative b =>
    (if negative then "-" else "") ++ (if b.significand = 0 then "0.0" else b.shortest.text)
  | infinite negative => if negative then "-inf" else "inf"
  | undefined => "nan"

end BlockTypes.Decimal
