/-!
# Texts with halves of pairs

Notations with sixteen bits for a character write those beyond their range as pairs of halves, and an
escape can name a half alone. A wide text is a sequence of characters and such halves. Two halves that
follow each other stay two, and are one character only where the text is shown.
-/

namespace BlockTypes

/-- A character or half of a pair. The first half of a pair is below 0x400, the second is not. -/
inductive CodePoint where
  | char (c : Char)
  | half (h : Fin 0x800)
deriving DecidableEq

namespace CodePoint

/-- The number of a code point. Those of the halves are a gap among those of the characters. -/
def number : CodePoint → Nat
  | char c => c.toNat
  | half h => 0xd800 + h.val

theorem number_injective {p q : CodePoint} (h : p.number = q.number) : p = q := by
  -- A character has no number in the gap.
  have gap (c : Char) : c.toNat < 0xd800 ∨ 0xdfff < c.toNat := c.valid.imp id And.left
  cases p with
  | char c =>
    cases q with
    | char d => exact congrArg char (Char.toNat_inj.1 h)
    | half k =>
      have := gap c
      simp only [number] at h
      omega
  | half k =>
    cases q with
    | char d =>
      have := gap d
      simp only [number] at h
      omega
    | half l =>
      simp only [number] at h
      exact congrArg half (Fin.ext (by omega))

/-- The code point of a number. -/
def ofNumber? (n : Nat) : Option CodePoint :=
  if h : 0xd800 ≤ n ∧ n < 0xe000 then some (half ⟨n - 0xd800, by omega⟩)
  else if n < 0x110000 then some (char (Char.ofNat n))
  else none

/-- The characters that the code points are, if none of them is a half. -/
def chars? : List CodePoint → Option (List Char)
  | [] => some []
  | char c :: rest => (chars? rest).map (c :: ·)
  | half _ :: _ => none

/-- The characters before the first half, and the code points from there on. -/
def untilHalf : List CodePoint → List Char × List CodePoint
  | char c :: rest => (c :: (untilHalf rest).1, (untilHalf rest).2)
  | rest => ([], rest)

/-- The code points as characters. Halves that make a pair are one character, and where a half stands
alone there is the replacement character. -/
def joined : List CodePoint → List Char
  | [] => []
  | char c :: rest => c :: joined rest
  | half h :: half k :: rest =>
    if h.val < 0x400 ∧ 0x400 ≤ k.val then
      Char.ofNat (0x10000 + h.val * 0x400 + (k.val - 0x400)) :: joined rest
    else '\ufffd' :: joined (half k :: rest)
  | half _ :: rest => '\ufffd' :: joined rest

theorem chars?_map_char (cs : List Char) : chars? (cs.map char) = some cs := by
  induction cs with
  | nil => rfl
  | cons c cs ih => simp [chars?, ih]

theorem untilHalf_map_char (cs : List Char) : untilHalf (cs.map char) = (cs, []) := by
  induction cs with
  | nil => rfl
  | cons c cs ih => simp [untilHalf, ih]

theorem eq_append_of_untilHalf {points rest : List CodePoint} {start : List Char}
    (h : untilHalf points = (start, rest)) :
    points = start.map char ++ rest ∧ ∀ p ∈ rest.head?, ∀ c, p ≠ char c := by
  induction points generalizing start with
  | nil =>
    obtain ⟨rfl, rfl⟩ := Prod.mk.inj h
    simp
  | cons p points ih =>
    cases p with
    | char c =>
      obtain ⟨rfl, hrest⟩ := Prod.mk.inj h
      obtain ⟨whole, half⟩ := ih (Prod.ext rfl hrest)
      exact ⟨by rw [List.map_cons, List.cons_append, ← whole], half⟩
    | half k =>
      obtain ⟨rfl, rfl⟩ := Prod.mk.inj h
      simp

end CodePoint

/-- A sequence of characters and halves of pairs. -/
structure WideText where
  points : List CodePoint
deriving DecidableEq

namespace WideText

/-- The text of the given characters. -/
def ofChars (cs : List Char) : WideText := ⟨cs.map .char⟩

/-- A string as a wide text. -/
def ofString (s : String) : WideText := ofChars s.toList

instance : Coe String WideText := ⟨ofString⟩

/-- The string that the text is, if it has no halves. -/
def toString? (t : WideText) : Option String := (CodePoint.chars? t.points).map String.ofList

/-- The text as a string. Where it is none, pairs are joined and other halves replaced. -/
def shown (t : WideText) : String := String.ofList (CodePoint.joined t.points)

/-- The numbers of the code points, by which texts are ordered. -/
def numbers (t : WideText) : List Nat := t.points.map CodePoint.number

theorem numbers_injective {t u : WideText} (h : t.numbers = u.numbers) : t = u := by
  cases t
  cases u
  exact congrArg mk (List.map_inj_right (fun _ _ => CodePoint.number_injective) |>.1 h)

@[simp] theorem toString?_ofString (s : String) : (ofString s).toString? = some s := by
  simp [toString?, ofString, ofChars, CodePoint.chars?_map_char]

end WideText

end BlockTypes
