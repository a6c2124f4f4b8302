/-!
# Binary floating point

Numbers with a fraction are kept in binary with 53 significant bits. A ratio is rounded to the
nearest such number, a half to the even neighbour.
-/

namespace BlockTypes.Decimal

/-- The number `significand * 2 ^ exponent`. -/
structure Binary where
  significand : Nat
  exponent : Int
deriving DecidableEq

/-- The least exponent. -/
def leastExponent : Int := -1074

/-- The greatest exponent; beyond it a number is infinite. -/
def greatestExponent : Int := 971

/-- Significands lie below this power of two; above the least exponent, not below its half. -/
def significandEnd : Nat := Nat.pow 2 53

/-- `num / den` rounded to an integer, a half to the even neighbour. -/
def roundEven (num den : Nat) : Nat :=
  let whole := num / den
  let twice := 2 * (num % den)
  if den < twice ∨ (den = twice ∧ whole % 2 = 1) then whole + 1 else whole

/-- `num / den / 2 ^ e` as a ratio. -/
def scaleDown (num den : Nat) (e : Int) : Nat × Nat :=
  if 0 ≤ e then (num, den * Nat.pow 2 e.toNat) else (num * Nat.pow 2 (-e).toNat, den)

/-- The number nearest to `num / den`, unless it is too large. -/
def Binary.ofRatio? (num den : Nat) : Option Binary :=
  if num = 0 then some ⟨0, leastExponent⟩
  else
    let low := max leastExponent ((num.log2 : Int) - den.log2 - 53)
    let atLow := scaleDown num den low
    let e := if atLow.1 / atLow.2 < significandEnd then low else low + 1
    let scaled := scaleDown num den e
    let m := roundEven scaled.1 scaled.2
    let b : Binary := if m = significandEnd then ⟨significandEnd / 2, e + 1⟩ else ⟨m, e⟩
    if b.exponent ≤ greatestExponent then some b else none

end BlockTypes.Decimal
