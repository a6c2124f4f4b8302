import Mathlib.Logic.Basic
import BlockTypes.Signature.Basic
import BlockTypes.Proofs.Signature.Lexing

/-!
# Texts are cut without loss

A text has tokens if and only if it can be cut into them (`IsCut`): the tokens stand in the text one after the
other, what is not in a token is blank, and no identifier could go on. There is at most one such cut, and the
scanner finds it. Where it fails, everything before has been cut and no lexeme starts (`tokensOf_cuts`).

Two steps lie between. What the scanner does at the start of a text is one of four things (`cutInduction`), so
that its results are the texts that are laid out from blanks and lexemes (`LaidOut`); and a text is laid out where
its positions say so (`isCut_iff`).
-/

namespace BlockTypes.Signature

/-! ## Lexemes at the start of a text -/

namespace Lexeme

/-- The lexeme can be written: it is a symbol, or its name can be read as an identifier. -/
def IsWritable : Lexeme → Prop
  | ident name => IsIdent name
  | _ => True

/-- The text that follows does not go on with the lexeme. -/
def EndsBefore : Lexeme → List Char → Prop
  | ident _, rest => ∀ d ∈ rest.head?, isIdentRest d = false
  | _, _ => True

theorem IsWritable.exists_text {x : Lexeme} (h : x.IsWritable) :
    ∃ c cs, x.text.toList = c :: cs ∧ Text.isBlank c = false := by
  cases x with
  | ident name =>
    obtain ⟨c, cs, hname, start, -⟩ := h
    exact ⟨c, cs, hname, isBlank_of_isIdentStart start⟩
  | _ => exact ⟨_, _, rfl, by decide⟩

theorem IsWritable.text_length_pos {x : Lexeme} (h : x.IsWritable) : 0 < x.text.length := by
  obtain ⟨c, cs, htext, -⟩ := h.exists_text
  rw [← String.length_toList, htext]
  exact Nat.succ_pos _

theorem EndsBefore.left {x : Lexeme} {cs ds : List Char} (h : x.EndsBefore (cs ++ ds)) : x.EndsBefore cs := by
  cases x with
  | ident name =>
    cases cs with
    | nil => simp [EndsBefore]
    | cons c cs => exact h
  | _ => trivial

end Lexeme

/-- The scanner names the lexeme that cannot be longer. -/
theorem lexeme?_append {x : Lexeme} {rest : List Char} (h : x.IsWritable) (ends : x.EndsBefore rest) :
    lexeme? (x.text.toList ++ rest) = some x := by
  cases x with
  | ident name =>
    obtain ⟨c, cs, hname, start, inside⟩ := h
    have whole : (cs ++ rest).takeWhile isIdentRest = cs := by
      rw [List.takeWhile_append_of_pos inside]
      cases rest with
      | nil => simp
      | cons d rest => simp [ends d rfl]
    rw [Lexeme.text, hname, List.cons_append, lexeme?, if_pos start, whole, ← hname, String.ofList_toList]
  | _ => rfl

theorem exists_of_symbol? {cs : List Char} {x : Lexeme} (h : symbol? cs = some x) :
    x.IsWritable ∧ ∃ rest, cs = x.text.toList ++ rest ∧ x.EndsBefore rest := by
  unfold symbol? at h
  split at h
  case h_8 => cases h
  all_goals
    obtain rfl := Option.some.inj h
    exact ⟨trivial, _, rfl, trivial⟩

theorem exists_of_lexeme? {cs : List Char} {x : Lexeme} (h : lexeme? cs = some x) :
    x.IsWritable ∧ ∃ rest, cs = x.text.toList ++ rest ∧ x.EndsBefore rest := by
  cases cs with
  | nil => cases h
  | cons c cs =>
    by_cases start : isIdentStart c = true
    · have found := h
      rw [lexeme?, if_pos start] at h
      obtain rfl := Option.some.inj h
      refine ⟨isIdent_of_lexeme? found, cs.dropWhile isIdentRest, ?_, ?_⟩
      · rw [Lexeme.text, String.toList_ofList, List.cons_append, List.takeWhile_append_dropWhile]
      · intro d hd
        have stops := List.head?_dropWhile_not isIdentRest cs
        rw [Option.mem_def.1 hd] at stops
        simpa using stops
    · rw [lexeme?, if_neg start] at h
      exact exists_of_symbol? h

/-- Nothing is named only where no lexeme starts. -/
theorem lexeme?_eq_none_iff {cs : List Char} :
    lexeme? cs = none ↔ ∀ x : Lexeme, x.IsWritable → ¬ x.text.toList <+: cs := by
  constructor
  · rintro h x writable ⟨rest, rfl⟩
    cases x with
    | ident name =>
      -- A longer identifier may be named, but one is.
      obtain ⟨c, cs, hname, start, -⟩ := writable
      rw [Lexeme.text, hname, List.cons_append, lexeme?, if_pos start] at h
      cases h
    | _ => cases h
  · intro h
    cases hx : lexeme? cs with
    | none => rfl
    | some x =>
      obtain ⟨writable, rest, rfl, -⟩ := exists_of_lexeme? hx
      exact absurd (List.prefix_append _ _) (h x writable)

/-! ## What the scanner does -/

theorem scan_blank {c : Char} (h : Text.isBlank c = true) (cs : List Char) (position : Nat) :
    scan (c :: cs) position 0 = scan cs (position + 1) 0 := by
  rw [scan, if_pos h]

theorem scan_writable {x : Lexeme} {rest : List Char} (h : x.IsWritable) (ends : x.EndsBefore rest) (position : Nat) :
    scan (x.text.toList ++ rest) position 0 =
      (scan rest (position + x.text.length) 0).map (⟨x, position⟩ :: ·) := by
  obtain ⟨c, cs, htext, first⟩ := h.exists_text
  have lex := lexeme?_append h ends
  have len : x.text.length = cs.length + 1 := by rw [← String.length_toList, htext, List.length_cons]
  rw [htext, List.cons_append] at lex ⊢
  rw [scan_lexeme position first lex len, len]
  rfl

theorem scan_stuck {c : Char} {cs : List Char} (first : Text.isBlank c = false) (h : lexeme? (c :: cs) = none)
    (position : Nat) : scan (c :: cs) position 0 = .error ⟨.character (.char c), position⟩ := by
  rw [scan, if_neg (by simp [first]), h]

/-- Induction on a text as the scanner goes through it: a blank, a lexeme that cannot be longer, or a character that
starts nothing. -/
@[elab_as_elim]
theorem cutInduction {motive : List Char → Nat → Prop} (nil : ∀ position, motive [] position)
    (blank : ∀ c cs position, Text.isBlank c = true → motive cs (position + 1) → motive (c :: cs) position)
    (token : ∀ (x : Lexeme) rest position, x.IsWritable → x.EndsBefore rest →
      motive rest (position + x.text.length) → motive (x.text.toList ++ rest) position)
    (stuck : ∀ c cs position, Text.isBlank c = false → lexeme? (c :: cs) = none → motive (c :: cs) position)
    (cs : List Char) (position : Nat) : motive cs position := by
  induction hn : cs.length using Nat.strong_induction_on generalizing cs position with
  | _ n ih =>
    cases cs with
    | nil => exact nil position
    | cons c cs =>
      by_cases hc : Text.isBlank c = true
      · exact blank c cs position hc (ih cs.length (by simp [← hn]) cs _ rfl)
      · cases hx : lexeme? (c :: cs) with
        | none => exact stuck c cs position (by simpa using hc) hx
        | some x =>
          obtain ⟨writable, rest, htext, ends⟩ := exists_of_lexeme? hx
          have shorter : rest.length < n := by
            have := writable.text_length_pos
            rw [← hn, htext, List.length_append, String.length_toList]
            omega
          rw [htext]
          exact token x rest position writable ends (ih rest.length shorter rest _ rfl)

/-- From `position` on, the text is the lexemes of the tokens in their places, with blanks around them. -/
inductive LaidOut : (position : Nat) → List Char → List Token → Prop
  | nil {position : Nat} : LaidOut position [] []
  | blank {position : Nat} {c : Char} {cs : List Char} {ts : List Token} (h : Text.isBlank c = true)
    (more : LaidOut (position + 1) cs ts) : LaidOut position (c :: cs) ts
  | token {position : Nat} {x : Lexeme} {rest : List Char} {ts : List Token} (writable : x.IsWritable)
    (ends : x.EndsBefore rest) (more : LaidOut (position + x.text.length) rest ts) :
    LaidOut position (x.text.toList ++ rest) (⟨x, position⟩ :: ts)

theorem LaidOut.scan_eq {position : Nat} {cs : List Char} {ts : List Token} (h : LaidOut position cs ts) :
    scan cs position 0 = .ok ts := by
  induction h with
  | nil => rfl
  | blank hc _ ih => rw [scan_blank hc, ih]
  | token writable ends _ ih => rw [scan_writable writable ends, ih]; rfl

/-- The scanner finds the tokens of every text that is laid out, and fails on others at the first character, after
some that are laid out, that is not blank and starts no lexeme. -/
theorem scan_cases (cs : List Char) (position : Nat) :
    (∃ ts, scan cs position 0 = .ok ts ∧ LaidOut position cs ts) ∨
      ∃ before c after ts, cs = before ++ c :: after ∧ LaidOut position before ts ∧ Text.isBlank c = false ∧
        lexeme? (c :: after) = none ∧
        scan cs position 0 = .error ⟨.character (.char c), position + before.length⟩ := by
  induction cs, position using cutInduction with
  | nil position => exact .inl ⟨[], rfl, .nil⟩
  | blank c cs position hc ih =>
    rw [scan_blank hc]
    rcases ih with ⟨ts, scanned, laid⟩ | ⟨before, d, after, ts, rfl, laid, hd, none, failed⟩
    · exact .inl ⟨ts, scanned, .blank hc laid⟩
    · refine .inr ⟨c :: before, d, after, ts, rfl, .blank hc laid, hd, none, ?_⟩
      rw [failed, List.length_cons, Nat.add_right_comm, Nat.add_assoc]
  | token x rest position writable ends ih =>
    rw [scan_writable writable ends]
    rcases ih with ⟨ts, scanned, laid⟩ | ⟨before, d, after, ts, rfl, laid, hd, none, failed⟩
    · exact .inl ⟨_, by rw [scanned]; rfl, .token writable ends laid⟩
    · refine .inr ⟨x.text.toList ++ before, d, after, _, by simp, .token writable ends.left laid, hd, none, ?_⟩
      rw [failed, List.length_append, String.length_toList, Nat.add_assoc]
      rfl
  | stuck c cs position first none =>
    exact .inr ⟨[], c, cs, [], rfl, .nil, first, none, scan_stuck first none position⟩

theorem scan_eq_ok_iff {cs : List Char} {position : Nat} {ts : List Token} :
    scan cs position 0 = .ok ts ↔ LaidOut position cs ts := by
  refine ⟨fun h => ?_, LaidOut.scan_eq⟩
  rcases scan_cases cs position with ⟨ts', scanned, laid⟩ | ⟨_, _, _, _, _, _, _, _, failed⟩
  · rwa [Except.ok.inj (h.symm.trans scanned)]
  · rw [h] at failed
    cases failed

/-! ## Positions -/

/-- The token takes up that place in the text. -/
def Token.Spans (token : Token) (i : Nat) : Prop :=
  token.position ≤ i ∧ i < token.position + token.lexeme.text.length

/-- From `start` on, the text is cut into the tokens: they stand in it without overlap and in order, there are only
blanks between them, and identifiers are spelled as they may be and do not go on. -/
structure IsCut (points : List CodePoint) (start : Nat) (ts : List Token) : Prop where
  starts : ∀ token ∈ ts, start ≤ token.position
  nonempty : ∀ token ∈ ts, 0 < token.lexeme.text.length
  apart : ts.Pairwise fun a b => a.position + a.lexeme.text.length ≤ b.position
  text : ∀ token ∈ ts,
    (points.drop token.position).take token.lexeme.text.length = token.lexeme.text.toList.map .char
  blank : ∀ i p, start ≤ i → points[i]? = some p → (∀ token ∈ ts, ¬ token.Spans i) →
    ∃ c, p = .char c ∧ Text.isBlank c = true
  ident : ∀ token ∈ ts, ∀ name, token.lexeme = .ident name → IsIdent name ∧
    ∀ c, points[token.position + name.length]? = some (.char c) → isIdentRest c = false

theorem getElem?_of_drop {points : List CodePoint} {start : Nat} {p : CodePoint} {rest : List CodePoint}
    (h : points.drop start = p :: rest) : points[start]? = some p := by
  rw [← List.head?_drop, h]
  rfl

theorem drop_of_drop_append {points before rest : List CodePoint} {start : Nat}
    (h : points.drop start = before ++ rest) : points.drop (start + before.length) = rest := by
  rw [← List.drop_drop, h, List.drop_left]

namespace IsCut

variable {points : List CodePoint} {start : Nat} {ts : List Token}

theorem consBlank {c : Char} (h : IsCut points (start + 1) ts) (first : points[start]? = some (.char c))
    (hc : Text.isBlank c = true) : IsCut points start ts where
  starts token mem := Nat.le_of_succ_le (h.starts token mem)
  nonempty := h.nonempty
  apart := h.apart
  text := h.text
  blank i p le hp outside := by
    rcases Nat.eq_or_lt_of_le le with rfl | lt
    · exact ⟨c, Option.some.inj (hp.symm.trans first), hc⟩
    · exact h.blank i p lt hp outside
  ident := h.ident

theorem consToken {x : Lexeme} {rest : List Char} (h : IsCut points (start + x.text.length) ts)
    (writable : x.IsWritable) (ends : x.EndsBefore rest)
    (hp : points.drop start = (x.text.toList ++ rest).map .char) : IsCut points start (⟨x, start⟩ :: ts) where
  starts := List.forall_mem_cons.2 ⟨Nat.le_refl _, fun token mem => Nat.le_trans (Nat.le_add_right _ _) (h.starts token mem)⟩
  nonempty := List.forall_mem_cons.2 ⟨writable.text_length_pos, h.nonempty⟩
  apart := List.pairwise_cons.2 ⟨h.starts, h.apart⟩
  text := by
    refine List.forall_mem_cons.2 ⟨?_, h.text⟩
    show (points.drop start).take x.text.length = _
    rw [hp, List.map_append, List.take_left' (by rw [List.length_map, String.length_toList])]
  blank i p le hp outside := by
    obtain ⟨first, others⟩ := List.forall_mem_cons.1 outside
    refine h.blank i p ?_ hp others
    by_contra inside
    exact first ⟨le, Nat.lt_of_not_le inside⟩
  ident := by
    refine List.forall_mem_cons.2 ⟨?_, h.ident⟩
    rintro name rfl
    refine ⟨writable, fun c hc => ends c ?_⟩
    have next : (points.drop start)[name.length]? = some (.char c) := by rw [List.getElem?_drop]; exact hc
    rw [hp, List.map_append, List.getElem?_append_right (by simp [Lexeme.text, String.length_toList])] at next
    simpa [Lexeme.text, String.length_toList, List.head?_eq_getElem?] using next

theorem tail {token : Token} (h : IsCut points start (token :: ts)) :
    IsCut points (token.position + token.lexeme.text.length) ts where
  starts := (List.pairwise_cons.1 h.apart).1
  nonempty := (List.forall_mem_cons.1 h.nonempty).2
  apart := (List.pairwise_cons.1 h.apart).2
  text := (List.forall_mem_cons.1 h.text).2
  blank i p le hp outside := by
    have := h.starts token List.mem_cons_self
    refine h.blank i p (by omega) hp (List.forall_mem_cons.2 ⟨?_, outside⟩)
    rintro ⟨-, inside⟩
    omega
  ident := (List.forall_mem_cons.1 h.ident).2

theorem skipBlank (h : IsCut points start ts) (outside : ∀ token ∈ ts, ¬ token.Spans start) :
    IsCut points (start + 1) ts where
  starts token mem := by
    have := h.starts token mem
    have := h.nonempty token mem
    by_contra early
    exact outside token mem ⟨by omega, by omega⟩
  nonempty := h.nonempty
  apart := h.apart
  text := h.text
  blank i p le := h.blank i p (by omega)
  ident := h.ident

/-- A token is inside the text. -/
theorem end_le (h : IsCut points start ts) {token : Token} (mem : token ∈ ts) :
    token.position + token.lexeme.text.length ≤ points.length := by
  have len := congrArg List.length (h.text token mem)
  have := h.nonempty token mem
  rw [List.length_take, List.length_drop, List.length_map, String.length_toList] at len
  omega

/-- What takes up the first place is the first token. -/
theorem position_eq {token : Token} (h : IsCut points start (token :: ts))
    (covered : ∃ u ∈ token :: ts, u.Spans start) : token.position = start := by
  obtain ⟨u, mem, le, -⟩ := covered
  have := h.starts token List.mem_cons_self
  rcases List.mem_cons.1 mem with rfl | mem
  · omega
  · have := (List.pairwise_cons.1 h.apart).1 u mem
    have := h.nonempty token List.mem_cons_self
    omega

theorem writable (h : IsCut points start ts) {token : Token} (mem : token ∈ ts) : token.lexeme.IsWritable := by
  cases hx : token.lexeme with
  | ident name => exact (h.ident token mem name hx).1
  | _ => trivial

theorem endsBefore {token : Token} (h : IsCut points start (token :: ts)) {rest : List Char}
    (hp : points.drop (token.position + token.lexeme.text.length) = rest.map .char) :
    token.lexeme.EndsBefore rest := by
  cases hx : token.lexeme with
  | ident name =>
    intro d hd
    refine (h.ident token List.mem_cons_self name hx).2 d ?_
    rw [hx] at hp
    rw [← List.head?_drop, show points.drop (token.position + name.length) = _ from hp, List.head?_map,
      Option.mem_def.1 hd]
    rfl
  | _ => trivial

theorem laidOut (h : IsCut points start ts) : ∃ cs, points.drop start = cs.map .char ∧ LaidOut start cs ts := by
  -- On the length of the rest; the place at its start is in the first token, or blank.
  induction hn : points.length - start using Nat.strong_induction_on generalizing start ts with
  | _ n ih =>
    by_cases inside : start < points.length
    · by_cases covered : ∃ token ∈ ts, token.Spans start
      · cases ts with
        | nil => simp at covered
        | cons token ts =>
          obtain ⟨x, position⟩ := token
          obtain rfl : position = start := h.position_eq covered
          have pos : 0 < x.text.length := (h.writable List.mem_cons_self).text_length_pos
          obtain ⟨cs, rest, laid⟩ := ih _ (by simp only; omega) h.tail rfl
          refine ⟨x.text.toList ++ cs, ?_, @.token position x _ _ (h.writable List.mem_cons_self) (h.endsBefore rest) laid⟩
          rw [List.map_append, ← rest, ← h.text _ List.mem_cons_self, ← List.drop_drop, List.take_append_drop]
      · have outside : ∀ token ∈ ts, ¬ token.Spans start := fun token mem spans => covered ⟨token, mem, spans⟩
        obtain ⟨c, hc, blank⟩ := h.blank start _ (Nat.le_refl _) (List.getElem?_eq_getElem inside) outside
        obtain ⟨cs, rest, laid⟩ := ih _ (by omega) (h.skipBlank outside) rfl
        refine ⟨c :: cs, ?_, .blank blank laid⟩
        rw [List.drop_eq_getElem_cons inside, hc, rest, List.map_cons]
    · cases ts with
      | nil => exact ⟨[], List.drop_eq_nil_of_le (Nat.not_lt.1 inside), .nil⟩
      | cons token ts =>
        have := h.starts token List.mem_cons_self
        have := h.nonempty token List.mem_cons_self
        have := h.end_le List.mem_cons_self
        omega

end IsCut

theorem LaidOut.isCut {points : List CodePoint} {start : Nat} {cs : List Char} {ts : List Token}
    (h : LaidOut start cs ts) (hp : points.drop start = cs.map .char) : IsCut points start ts := by
  induction h with
  | nil =>
    refine ⟨by simp, by simp, .nil, by simp, fun i p le hi => ?_, by simp⟩
    have := List.drop_eq_nil_iff.1 hp
    have := (List.getElem?_eq_some_iff.1 hi).1
    omega
  | @blank start c cs ts hc more ih =>
    have first : points.drop start = [.char c] ++ cs.map .char := hp
    exact (ih (drop_of_drop_append first)).consBlank (getElem?_of_drop first) hc
  | @token start x rest ts writable ends more ih =>
    refine (ih ?_).consToken writable ends hp
    rw [List.map_append] at hp
    simpa [String.length_toList] using drop_of_drop_append hp

/-- A text is cut where its characters are laid out. -/
theorem isCut_iff {points : List CodePoint} {ts : List Token} :
    IsCut points 0 ts ↔ ∃ cs, points = cs.map .char ∧ LaidOut 0 cs ts := by
  constructor
  · exact IsCut.laidOut
  · rintro ⟨cs, rfl, laid⟩
    exact laid.isCut rfl

/-! ## Texts with halves of pairs -/

/-- The tokens of a text that may have halves of pairs. A half is no character of a signature, so that the first one
is the fault, unless there is one before it. -/
def tokensOf (text : WideText) : Except Problem (List Token) :=
  match CodePoint.untilHalf text.points with
  | (start, []) => scan start 0 0
  | (start, p :: _) =>
    match scan start 0 0 with
    | .error problem => .error problem
    | .ok _ => .error ⟨.character p, start.length⟩

@[simp] theorem tokensOf_ofString (str : String) : tokensOf (.ofString str) = tokens str := by
  simp [tokensOf, WideText.ofString, WideText.ofChars, CodePoint.untilHalf_map_char, tokens]

/-- A text is read by its tokens. -/
theorem readWide_eq (classes : Classes) (text : WideText) :
    readWide classes text = (tokensOf text >>= ofTokens classes text.points.length).mapError (⟨·, text⟩) := by
  obtain ⟨start, rest, hsplit⟩ : ∃ start rest, CodePoint.untilHalf text.points = (start, rest) := ⟨_, _, rfl⟩
  obtain ⟨hpoints, -⟩ := CodePoint.eq_append_of_untilHalf hsplit
  rw [readWide, tokensOf, hsplit]
  cases rest with
  | nil =>
    obtain ⟨points⟩ := text
    obtain rfl : points = start.map .char := by simpa using hpoints
    simp only [read, tokens, String.toList_ofList, String.length_ofList, List.length_map, WideText.ofString,
      WideText.ofChars]
    cases scan start 0 0 >>= ofTokens classes start.length <;> rfl
  | cons p rest =>
    simp only
    cases scan start 0 0 <;> rfl

/-- Characters at the start of a text come before the first half. -/
theorem isPrefix_of_map_char {xs start : List Char} {rest : List CodePoint} (half : ∀ p ∈ rest.head?, ∀ c, p ≠ .char c)
    (h : xs.map .char <+: start.map .char ++ rest) : xs <+: start := by
  induction xs generalizing start with
  | nil => exact List.nil_prefix
  | cons x xs ih =>
    cases start with
    | nil =>
      cases rest with
      | nil => simp at h
      | cons p rest =>
        obtain ⟨rfl, -⟩ := List.cons_prefix_cons.1 h
        exact absurd rfl (half _ rfl x)
    | cons c start =>
      rw [List.map_cons, List.map_cons, List.cons_append, List.cons_prefix_cons] at h
      obtain ⟨same, more⟩ := h
      obtain rfl := CodePoint.char.inj same
      exact List.cons_prefix_cons.2 ⟨rfl, ih more⟩

/-- At the position, after a text that is cut into tokens, there is a code point that is not blank and with which no
lexeme starts. -/
structure BlockedAt (points : List CodePoint) (position : Nat) (p : CodePoint) : Prop where
  here : points[position]? = some p
  before : ∃ ts, tokensOf ⟨points.take position⟩ = .ok ts
  notBlank : ∀ c, p = .char c → Text.isBlank c = false
  noLexeme : ∀ x : Lexeme, x.IsWritable → ¬ x.text.toList.map .char <+: points.drop position

theorem tokensOf_eq_ok_iff {text : WideText} {ts : List Token} :
    tokensOf text = .ok ts ↔ IsCut text.points 0 ts := by
  rw [isCut_iff]
  constructor
  · intro h
    unfold tokensOf at h
    split at h
    next start whole =>
      obtain ⟨hpoints, -⟩ := CodePoint.eq_append_of_untilHalf whole
      exact ⟨start, by simpa using hpoints, scan_eq_ok_iff.1 h⟩
    next => split at h <;> cases h
  · rintro ⟨cs, hpoints, laid⟩
    unfold tokensOf
    rw [hpoints, CodePoint.untilHalf_map_char]
    exact laid.scan_eq

theorem LaidOut.tokensOf_take {points rest : List CodePoint} {before : List Char} {ts : List Token}
    (h : LaidOut 0 before ts) (hpoints : points = before.map .char ++ rest) :
    tokensOf ⟨points.take before.length⟩ = .ok ts := by
  refine tokensOf_eq_ok_iff.2 (isCut_iff.2 ⟨before, ?_, h⟩)
  rw [hpoints, List.take_left' (by simp)]

theorem blockedAt_of_error {text : WideText} {problem : Problem} (h : tokensOf text = .error problem) :
    ∃ p, problem.complaint = .character p ∧ BlockedAt text.points problem.position p := by
  obtain ⟨start, rest, hsplit⟩ : ∃ start rest, CodePoint.untilHalf text.points = (start, rest) := ⟨_, _, rfl⟩
  obtain ⟨hpoints, half⟩ := CodePoint.eq_append_of_untilHalf hsplit
  rw [tokensOf, hsplit] at h
  rcases scan_cases start 0 with ⟨ts, scanned, laid⟩ | ⟨before, c, after, ts, rfl, laid, first, none, failed⟩
  · -- All characters before the first half are laid out, so that the half itself is the fault.
    cases rest with
    | nil => simp [scanned] at h
    | cons p rest =>
      obtain rfl : ⟨.character p, start.length⟩ = problem := by simpa [scanned] using h
      refine ⟨p, rfl, ?_, ⟨ts, laid.tokensOf_take hpoints⟩, fun c hc => absurd hc (half p rfl c), ?_⟩
      · simp [hpoints]
      · intro x writable starts
        obtain ⟨c, cs, htext, -⟩ := writable.exists_text
        rw [hpoints, List.drop_left' (by simp), htext] at starts
        obtain ⟨same, -⟩ := List.cons_prefix_cons.1 starts
        exact half p rfl c same.symm
  · have whole : text.points = before.map .char ++ ((c :: after).map .char ++ rest) := by
      rw [hpoints, List.map_append, List.append_assoc]
    obtain rfl : ⟨.character (.char c), before.length⟩ = problem := by
      cases rest <;> simpa [failed] using h
    refine ⟨.char c, rfl, ?_, ⟨ts, laid.tokensOf_take whole⟩, ?_, ?_⟩
    · simp [whole]
    · rintro d hd
      rwa [← CodePoint.char.inj hd]
    · intro x writable starts
      rw [whole, List.drop_left' (by simp)] at starts
      exact lexeme?_eq_none_iff.1 none x writable (isPrefix_of_map_char half starts)

/-! ## Lexemes between blanks -/

theorem Lexeme.IsWritable.spells {x : Lexeme} (h : x.IsWritable) : Spells x.text.toList [x] := by
  intro position ds follows
  have ends : x.EndsBefore ds := by
    cases x with
    | ident name => exact follows
    | _ => trivial
  exact ⟨[⟨x, position⟩], rfl, by rw [scan_writable h ends, String.length_toList]; rfl⟩

/-- Lexemes that are written with blanks between them are read again. -/
theorem tokens_intercalate {xs : List Lexeme} (h : ∀ x ∈ xs, x.IsWritable) :
    ∃ ts, tokens (" ".intercalate (xs.map (·.text))) = .ok ts ∧ ts.map (·.lexeme) = xs := by
  cases xs with
  | nil => exact ⟨[], rfl, rfl⟩
  | cons x xs =>
    obtain ⟨first, others⟩ := List.forall_mem_cons.1 h
    have rows : List.Forall₂ (fun text ys => Spells text.toList ys) (xs.map (·.text)) (xs.map ([·])) := by
      rw [List.forall₂_map_left_iff, List.forall₂_map_right_iff, List.forall₂_same]
      exact fun y mem => (others y mem).spells
    obtain ⟨ts, scanned, hts⟩ := (Spells.words first.spells rows).tokens
    exact ⟨ts, scanned, by simpa [← List.flatMap_def] using hts⟩

theorem Lexeme.text_mem_symbols {x : Lexeme} (h : x.isIdent = false) :
    x.text ∈ ["->", "=>", "(", ")", "[", "]", ","] := by
  cases x with
  | ident name => cases h
  | _ => decide

/-- Signatures are read by the tokens of their texts. A text is cut into tokens if it can be, and only in one way;
written with blanks between them, the tokens are read again. A text that cannot be cut is refused at a place where no
token starts, and what comes before that place is cut. -/
theorem tokensOf_cuts (text : WideText) :
    (∀ str : String, text = .ofString str → tokensOf text = tokens str) ∧
    (∀ classes, readWide classes text =
      (tokensOf text >>= ofTokens classes text.points.length).mapError (⟨·, text⟩)) ∧
    (∀ ts, tokensOf text = .ok ts ↔ IsCut text.points 0 ts) ∧
    (∀ ts, tokensOf text = .ok ts →
      (∀ token ∈ ts, token.lexeme.isIdent = false → token.lexeme.text ∈ ["->", "=>", "(", ")", "[", "]", ","]) ∧
      ∃ ts', tokensOf (.ofString (" ".intercalate (ts.map (·.lexeme.text)))) = .ok ts' ∧
        ts'.map (·.lexeme) = ts.map (·.lexeme)) ∧
    (∀ problem, tokensOf text = .error problem →
      ∃ p, problem.complaint = .character p ∧ BlockedAt text.points problem.position p) ∧
    ((∃ ts, tokensOf text = .ok ts) ↔ ¬ ∃ problem, tokensOf text = .error problem) := by
  refine ⟨?_, fun classes => readWide_eq classes text, fun ts => tokensOf_eq_ok_iff, fun ts h => ⟨?_, ?_⟩,
    fun problem => blockedAt_of_error, ?_⟩
  · rintro str rfl
    exact tokensOf_ofString str
  · exact fun token _ => Lexeme.text_mem_symbols
  · have cut := tokensOf_eq_ok_iff.1 h
    have writable : ∀ x ∈ ts.map (·.lexeme), x.IsWritable := by simpa using fun _ => cut.writable
    obtain ⟨ts', scanned, same⟩ := tokens_intercalate writable
    exact ⟨ts', by simpa [Function.comp_def] using scanned, same⟩
  · cases tokensOf text <;> simp

end BlockTypes.Signature
