import Mathlib.Data.List.Forall2
import Mathlib.Data.List.TakeWhile
import BlockTypes.Signature.Token

/-!
# Texts and their lexemes

`Spells` says of a text that it is read as the given lexemes, whatever follows it, as long as that cannot go on
with an identifier at its end. Texts are put together from pieces that spell their parts, and a text as a whole has
the tokens that it spells (`Spells.tokens`). Identifiers come out of the scanner as they are allowed to be written
(`isIdent_of_scan`).
-/

namespace BlockTypes.Signature

/-- The name can be read as an identifier. -/
def IsIdent (name : String) : Prop :=
  ∃ c cs, name.toList = c :: cs ∧ isIdentStart c = true ∧ ∀ d ∈ cs, isIdentRest d = true

/-- The text is read as the lexemes before any text that does not go on with an identifier. -/
def Spells (cs : List Char) (xs : List Lexeme) : Prop :=
  ∀ position ds, (∀ d ∈ ds.head?, isIdentRest d = false) → ∃ ts : List Token, ts.map (·.lexeme) = xs ∧
    scan (cs ++ ds) position 0 = (scan ds (position + cs.length) 0).map (ts ++ ·)

theorem scan_skip (cs ds : List Char) (position : Nat) :
    scan (cs ++ ds) position cs.length = scan ds (position + cs.length) 0 := by
  induction cs generalizing position with
  | nil => rfl
  | cons c cs ih =>
    rw [List.cons_append, List.length_cons, scan, ih, Nat.add_right_comm, Nat.add_assoc]

/-- A lexeme at the start of a text is its first token, and the scanner goes on behind it. -/
theorem scan_lexeme {c : Char} {cs ds : List Char} {x : Lexeme} (position : Nat)
    (first : Text.isBlank c = false) (lex : lexeme? (c :: (cs ++ ds)) = some x) (len : x.text.length = cs.length + 1) :
    scan (c :: (cs ++ ds)) position 0 =
      (scan ds (position + (cs.length + 1)) 0).map ([⟨x, position⟩] ++ ·) := by
  rw [scan, if_neg (by simp [first]), lex]
  simp only [len, Nat.add_sub_cancel, scan_skip]
  rw [Nat.add_right_comm, Nat.add_assoc]
  rfl

theorem map_append_map {ε α : Type} (x : Except ε (List α)) (as bs : List α) :
    (x.map (bs ++ ·)).map (as ++ ·) = x.map ((as ++ bs) ++ ·) := by
  cases x <;> simp [Except.map]

namespace Spells

variable {cs cs' : List Char} {xs xs' : List Lexeme}

theorem nil : Spells [] [] := by
  intro position ds _
  refine ⟨[], rfl, ?_⟩
  simp only [List.nil_append, List.length_nil, Nat.add_zero]
  cases scan ds position 0 <;> rfl

/-- Texts follow each other where the second does not start as identifiers go on. -/
theorem append {d : Char} (h : Spells cs xs) (h' : Spells (d :: cs') xs') (apart : isIdentRest d = false) :
    Spells (cs ++ d :: cs') (xs ++ xs') := by
  intro position ds follows
  obtain ⟨ts, hts, scanned⟩ := h position (d :: cs' ++ ds) (by simpa using apart)
  obtain ⟨ts', hts', scanned'⟩ := h' (position + cs.length) ds follows
  refine ⟨ts ++ ts', by rw [List.map_append, hts, hts'], ?_⟩
  rw [List.append_assoc, scanned, scanned', map_append_map, List.length_append, Nat.add_assoc]

theorem blank (h : Spells cs xs) : Spells (' ' :: cs) xs := by
  intro position ds follows
  obtain ⟨ts, hts, scanned⟩ := h (position + 1) ds follows
  refine ⟨ts, hts, ?_⟩
  rw [List.cons_append, scan, if_pos (by decide), scanned, List.length_cons, Nat.add_right_comm, Nat.add_assoc]

/-- A symbol may be followed by anything. -/
theorem symbol {c : Char} {m : List Char} {x : Lexeme} (first : Text.isBlank c = false)
    (lex : ∀ ds, lexeme? (c :: (m ++ ds)) = some x) (len : x.text.length = m.length + 1) (h : Spells cs xs) :
    Spells (c :: (m ++ cs)) (x :: xs) := by
  intro position ds follows
  obtain ⟨ts, hts, scanned⟩ := h (position + (m.length + 1)) ds follows
  refine ⟨⟨x, position⟩ :: ts, by rw [List.map_cons, hts], ?_⟩
  rw [List.cons_append, List.append_assoc, scan_lexeme position first (lex _) len, scanned, map_append_map]
  simp only [List.length_cons, List.length_append]
  congr 2
  omega

theorem leftParen (h : Spells cs xs) : Spells ('(' :: cs) (.leftParen :: xs) :=
  symbol (m := []) (by decide) (fun _ => rfl) rfl h

theorem rightParen (h : Spells cs xs) : Spells (')' :: cs) (.rightParen :: xs) :=
  symbol (m := []) (by decide) (fun _ => rfl) rfl h

theorem leftBracket (h : Spells cs xs) : Spells ('[' :: cs) (.leftBracket :: xs) :=
  symbol (m := []) (by decide) (fun _ => rfl) rfl h

theorem rightBracket (h : Spells cs xs) : Spells (']' :: cs) (.rightBracket :: xs) :=
  symbol (m := []) (by decide) (fun _ => rfl) rfl h

theorem comma (h : Spells cs xs) : Spells (',' :: cs) (.comma :: xs) :=
  symbol (m := []) (by decide) (fun _ => rfl) rfl h

theorem arrow (h : Spells cs xs) : Spells ('-' :: '>' :: cs) (.arrow :: xs) :=
  symbol (m := ['>']) (by decide) (fun _ => rfl) rfl h

end Spells

theorem isBlank_of_isIdentStart {c : Char} (h : isIdentStart c = true) : Text.isBlank c = false := by
  have code : (65 ≤ c.toNat ∧ c.toNat ≤ 90) ∨ (97 ≤ c.toNat ∧ c.toNat ≤ 122) ∨ c.toNat = 95 := by
    rcases Bool.or_eq_true_iff.1 h with letter | underscore
    · rcases Bool.or_eq_true_iff.1 letter with upper | lower
      · exact .inl (of_decide_eq_true upper)
      · obtain ⟨low, high⟩ := Bool.and_eq_true_iff.1 lower
        exact .inr (.inl ⟨of_decide_eq_true low, of_decide_eq_true high⟩)
    · obtain rfl := eq_of_beq underscore
      exact .inr (.inr rfl)
  simp only [Text.isBlank, Bool.or_eq_false_iff, Bool.and_eq_false_iff, decide_eq_false_iff_not, beq_eq_false_iff_ne]
  omega

theorem Spells.ident {name : String} (h : IsIdent name) : Spells name.toList [.ident name] := by
  intro position ds follows
  obtain ⟨c, cs, hname, start, rest⟩ := h
  have ends : (cs ++ ds).takeWhile isIdentRest = cs := by
    rw [List.takeWhile_append_of_pos rest]
    cases ds with
    | nil => simp
    | cons d ds => simp [follows d rfl]
  have whole : String.ofList (c :: cs) = name := by rw [← hname, String.ofList_toList]
  have lex : lexeme? (c :: (cs ++ ds)) = some (.ident name) := by
    rw [lexeme?, if_pos start, ends, whole]
  have len : (Lexeme.ident name).text.length = cs.length + 1 := by
    rw [Lexeme.text, ← String.length_toList, hname, List.length_cons]
  refine ⟨[⟨.ident name, position⟩], rfl, ?_⟩
  rw [hname, List.cons_append, scan_lexeme position (isBlank_of_isIdentStart start) lex len, List.length_cons]

/-! ## Rows -/

theorem intercalate_cons {α : Type} (sep x : List α) (rows : List (List α)) :
    sep.intercalate (x :: rows) = x ++ rows.flatMap (sep ++ ·) := by
  induction rows generalizing x with
  | nil => simp
  | cons y rows ih =>
    rw [List.intercalate_cons_cons, ih]
    simp

/-- Texts with separators between them, which do not start as identifiers go on. -/
theorem Spells.intercalate (sep : String) (marks : List Lexeme) {text : String} {xs : List Lexeme}
    {texts : List String} {rows : List (List Lexeme)}
    (lead : ∀ {cs xs}, Spells cs xs → Spells (sep.toList ++ cs) (marks ++ xs))
    (apart : ∃ d cs, sep.toList = d :: cs ∧ isIdentRest d = false) (first : Spells text.toList xs)
    (h : List.Forall₂ (fun text xs => Spells text.toList xs) texts rows) :
    Spells (sep.intercalate (text :: texts)).toList (xs ++ rows.flatMap (marks ++ ·)) := by
  rw [String.toList_intercalate, List.map_cons, intercalate_cons, List.flatMap_map]
  induction h generalizing text xs with
  | nil => simpa using first
  | cons next _ ih =>
    obtain ⟨d, cs, hsep, hd⟩ := apart
    have rest := lead (ih next)
    simp only [List.flatMap_cons, List.append_assoc]
    rw [hsep] at rest ⊢
    exact first.append rest hd

/-- Words between blanks. -/
theorem Spells.words {text : String} {xs : List Lexeme} {texts : List String} {rows : List (List Lexeme)}
    (first : Spells text.toList xs) (h : List.Forall₂ (fun text xs => Spells text.toList xs) texts rows) :
    Spells (" ".intercalate (text :: texts)).toList (xs ++ rows.flatten) := by
  simpa using Spells.intercalate " " [] .blank ⟨' ', [], rfl, by decide⟩ first h

/-- Parts between commas. -/
theorem Spells.parts {text : String} {xs : List Lexeme} {texts : List String} {rows : List (List Lexeme)}
    (first : Spells text.toList xs) (h : List.Forall₂ (fun text xs => Spells text.toList xs) texts rows) :
    Spells (", ".intercalate (text :: texts)).toList (xs ++ rows.flatMap (.comma :: ·)) :=
  Spells.intercalate ", " [.comma] (fun h => h.blank.comma) ⟨',', [' '], rfl, by decide⟩ first h

/-- The tokens of a text as a whole. -/
theorem Spells.tokens {text : String} {xs : List Lexeme} (h : Spells text.toList xs) :
    ∃ ts, tokens text = .ok ts ∧ ts.map (·.lexeme) = xs := by
  obtain ⟨ts, hts, scanned⟩ := h 0 [] (by simp)
  refine ⟨ts, ?_, hts⟩
  rw [List.append_nil] at scanned
  rw [Signature.tokens, scanned]
  simp [scan, Except.map]

theorem isIdent_of_lexeme? {cs : List Char} {name : String} (h : lexeme? cs = some (.ident name)) : IsIdent name := by
  cases cs with
  | nil => cases h
  | cons c cs =>
    rw [lexeme?] at h
    split at h
    next start =>
      obtain rfl := Lexeme.ident.inj (Option.some.inj h)
      exact ⟨c, _, String.toList_ofList, start, fun d mem => List.mem_takeWhile_imp mem⟩
    next =>
      unfold symbol? at h
      split at h <;> simp at h

theorem isIdent_of_scan {cs : List Char} {position skip : Nat} {ts : List Token}
    (h : scan cs position skip = .ok ts) {name : String} (mem : .ident name ∈ ts.map (·.lexeme)) : IsIdent name := by
  induction cs generalizing position skip ts with
  | nil =>
    obtain rfl := Except.ok.inj h
    cases mem
  | cons c cs ih =>
    cases skip with
    | succ skip => exact ih h mem
    | zero =>
      rw [scan] at h
      split at h
      next => exact ih h mem
      next =>
        split at h
        next x lex =>
          cases rest : scan cs (position + 1) (x.text.length - 1) with
          | error problem => simp [rest, Except.map] at h
          | ok ts' =>
            obtain rfl : ⟨x, position⟩ :: ts' = ts := by simpa [rest, Except.map] using h
            rcases List.mem_cons.1 mem with rfl | mem
            · exact isIdent_of_lexeme? lex
            · exact ih rest mem
        next => cases h

end BlockTypes.Signature
