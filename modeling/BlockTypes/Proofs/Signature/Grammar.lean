import Mathlib.Data.List.Basic
import BlockTypes.Signature.Basic

/-!
# The grammar of signatures

A derivation is a tree over the categories of the grammar:

    signature := [context '=>'] type
    context   := assertion | '(' assertion (',' assertion)* ')'
    assertion := ClassName var
    type      := btype ['->' type]
    btype     := atype atype*
    atype     := Con | var | '(' ')' | '(' type (',' type)* ')' | '[' type ']' | '[' ']'

It has the lexemes that it derives, from left to right, and a meaning. No lexemes have two derivations
(`SignatureTree.lexemes_injective`): each category tells by its first lexeme which rule was taken, and by
the lexeme after it that it has ended, so that a tree is determined even where other lexemes follow
(`Tree.eq_of_lexemes_append`).
-/

namespace BlockTypes.Signature

/-! ## Types -/

/-- The categories that types are derived from: `atypes` are the operands after the first, and `types` the
parts of a parenthesis after the first. -/
inductive Category where
  | type
  | btype
  | atypes
  | atype
  | types
deriving DecidableEq

/-- Derivations from a category. -/
inductive Tree : Category → Type where
  | plain (b : Tree .btype) : Tree .type
  | arrow (b : Tree .btype) (t : Tree .type) : Tree .type
  | apply (a : Tree .atype) (as : Tree .atypes) : Tree .btype
  | noOperand : Tree .atypes
  | operand (a : Tree .atype) (as : Tree .atypes) : Tree .atypes
  | con (name : String) (h : isVariableName name = false) : Tree .atype
  | var (name : String) (h : isVariableName name = true) : Tree .atype
  | unit : Tree .atype
  | paren (t : Tree .type) (ts : Tree .types) : Tree .atype
  | list (t : Tree .type) : Tree .atype
  | nil : Tree .atype
  | noPart : Tree .types
  | part (t : Tree .type) (ts : Tree .types) : Tree .types

/-- What trees of a category mean: a type, or several in a row. -/
abbrev Category.Meaning : Category → Type
  | .type | .btype | .atype => TypeExpr String
  | .atypes | .types => List (TypeExpr String)

namespace Tree

/-- The lexemes that the tree derives. -/
def lexemes : {k : Category} → Tree k → List Lexeme
  | _, plain b => b.lexemes
  | _, arrow b t => b.lexemes ++ .arrow :: t.lexemes
  | _, apply a as => a.lexemes ++ as.lexemes
  | _, noOperand => []
  | _, operand a as => a.lexemes ++ as.lexemes
  | _, con name _ => [.ident name]
  | _, var name _ => [.ident name]
  | _, unit => [.leftParen, .rightParen]
  | _, paren t ts => .leftParen :: (t.lexemes ++ ts.lexemes ++ [.rightParen])
  | _, list t => .leftBracket :: (t.lexemes ++ [.rightBracket])
  | _, nil => [.leftBracket, .rightBracket]
  | _, noPart => []
  | _, part t ts => .comma :: (t.lexemes ++ ts.lexemes)

/-- The type that the tree denotes. Arrows associate to the right and application to the left; one type
between parentheses is that type, and several are the tuple constructor of their number applied to them. -/
def meaning : {k : Category} → Tree k → k.Meaning
  | _, plain b => b.meaning
  | _, arrow b t => .arrow b.meaning t.meaning
  | _, apply a as => as.meaning.foldl .app a.meaning
  | _, noOperand => []
  | _, operand a as => a.meaning :: as.meaning
  | _, con name _ => .con name
  | _, var name _ => .var name
  | _, unit => .con "()"
  | _, paren t ts =>
    match ts.meaning with
    | [] => t.meaning
    | u :: us => (t.meaning :: u :: us).foldl .app (.con (TypeExpr.tupleCon (us.length + 2)))
  | _, list t => .app (.con "[]") t.meaning
  | _, nil => .con "[]"
  | _, noPart => []
  | _, part t ts => t.meaning :: ts.meaning

end Tree

/-! ## Contexts and signatures -/

/-- A derivation of an assertion: the name of a known class, and a variable. -/
structure AssertionTree (classes : Classes) where
  name : String
  typeClass : TypeClass
  known : classes name = some typeClass
  subject : String
  isVariable : isVariableName subject = true

/-- A derivation of a context. -/
inductive ContextTree (classes : Classes) where
  | single (a : AssertionTree classes)
  | paren (a : AssertionTree classes) (more : List (AssertionTree classes))

/-- A derivation of a signature. -/
inductive SignatureTree (classes : Classes) where
  | plain (t : Tree .type)
  | qualified (c : ContextTree classes) (t : Tree .type)

variable {classes : Classes}

/-- The lexemes of an assertion. -/
def AssertionTree.lexemes (a : AssertionTree classes) : List Lexeme := [.ident a.name, .ident a.subject]

/-- What an assertion says. -/
def AssertionTree.meaning (a : AssertionTree classes) : Assertion := ⟨a.typeClass, a.subject⟩

/-- The lexemes of a context. -/
def ContextTree.lexemes : ContextTree classes → List Lexeme
  | single a => a.lexemes
  | paren a more => .leftParen :: (a.lexemes ++ more.flatMap (fun b => .comma :: b.lexemes) ++ [.rightParen])

/-- What a context asserts, in order. -/
def ContextTree.meaning : ContextTree classes → List Assertion
  | single a => [a.meaning]
  | paren a more => a.meaning :: more.map (·.meaning)

/-- The lexemes of a signature. -/
def SignatureTree.lexemes : SignatureTree classes → List Lexeme
  | plain t => t.lexemes
  | qualified c t => c.lexemes ++ .implies :: t.lexemes

/-- The signature that the tree denotes. -/
def SignatureTree.meaning : SignatureTree classes → Signature
  | plain t => ⟨[], t.meaning⟩
  | qualified c t => ⟨c.meaning, t.meaning⟩

/-! ## First and following lexemes -/

/-- The lexeme can be the first of a type. -/
def Lexeme.StartsType : Lexeme → Prop
  | .ident _ | .leftParen | .leftBracket => True
  | .arrow | .implies | .rightParen | .rightBracket | .comma => False

/-- The lexemes do not go on with a tree of the category. -/
def Category.EndsBefore : Category → List Lexeme → Prop
  | .atype, _ => True
  | .btype, r | .atypes, r => ∀ x ∈ r.head?, ¬ x.StartsType
  | .type, r => ∀ x ∈ r.head?, ¬ x.StartsType ∧ x ≠ .arrow
  | .types, r => ∀ x ∈ r.head?, ¬ x.StartsType ∧ x ≠ .arrow ∧ x ≠ .comma

namespace Tree

variable {k : Category}

theorem exists_lexemes_eq_cons (t : Tree k) (operands : k ≠ .atypes) (parts : k ≠ .types) :
    ∃ x rest, t.lexemes = x :: rest ∧ x.StartsType := by
  induction t with
  | plain b ih => simpa [lexemes] using ih
  | arrow b t ih _ =>
    obtain ⟨x, rest, h, starts⟩ := ih (by simp) (by simp)
    exact ⟨x, _, by rw [lexemes, h, List.cons_append], starts⟩
  | apply a as ih _ =>
    obtain ⟨x, rest, h, starts⟩ := ih (by simp) (by simp)
    exact ⟨x, _, by rw [lexemes, h, List.cons_append], starts⟩
  | noOperand => exact absurd rfl operands
  | operand => exact absurd rfl operands
  | noPart => exact absurd rfl parts
  | part => exact absurd rfl parts
  | con | var | unit | paren | list | nil => exact ⟨_, _, rfl, trivial⟩

/-- A type does not start with a lexeme that starts none. -/
theorem lexemes_append_ne (t : Tree .type) {x : Lexeme} (h : ¬ x.StartsType) (r r' : List Lexeme) :
    t.lexemes ++ r ≠ x :: r' := by
  obtain ⟨y, rest, ht, starts⟩ := t.exists_lexemes_eq_cons (by simp) (by simp)
  intro e
  rw [ht, List.cons_append, List.cons.injEq] at e
  exact h (e.1 ▸ starts)

/-- Lexemes that end a list of operands do not start with an operand. -/
theorem ne_lexemes_append (a : Tree .atype) {r : List Lexeme} (h : Category.EndsBefore .atypes r)
    (r' : List Lexeme) : r ≠ a.lexemes ++ r' := by
  obtain ⟨x, rest, ha, starts⟩ := a.exists_lexemes_eq_cons (by simp) (by simp)
  rintro rfl
  exact h x (by simp [ha]) starts

/-- A part of a parenthesis ends before the other parts. -/
theorem endsBefore_lexemes (ts : Tree .types) {r : List Lexeme} (h : Category.EndsBefore .types r) :
    Category.EndsBefore .type (ts.lexemes ++ r) := by
  cases ts with
  | noPart => exact fun x hx => ⟨(h x hx).1, (h x hx).2.1⟩
  | part t ts => simp [lexemes, Category.EndsBefore, Lexeme.StartsType]

theorem endsBefore_arrow (r : List Lexeme) : Category.EndsBefore .btype (.arrow :: r) := by
  simp [Category.EndsBefore, Lexeme.StartsType]

theorem endsBefore_rightBracket (r : List Lexeme) : Category.EndsBefore .type (.rightBracket :: r) := by
  simp [Category.EndsBefore, Lexeme.StartsType]

theorem endsBefore_rightParen (r : List Lexeme) : Category.EndsBefore .types (.rightParen :: r) := by
  simp [Category.EndsBefore, Lexeme.StartsType]

/-- Where the lexemes after two trees of a category do not go on with them, the trees can be told from the
lexemes. -/
theorem eq_of_lexemes_append {t u : Tree k} {r r' : List Lexeme} (e : t.lexemes ++ r = u.lexemes ++ r')
    (hr : k.EndsBefore r) (hr' : k.EndsBefore r') : t = u ∧ r = r' := by
  -- The first parts of two trees are equal by induction, since what follows them ends both; then the rests are, too.
  induction t generalizing r r' with
  | plain b ih =>
    cases u with
    | plain b' =>
      obtain ⟨rfl, rfl⟩ := ih e (fun x hx => (hr x hx).1) (fun x hx => (hr' x hx).1)
      exact ⟨rfl, rfl⟩
    | arrow b' t' =>
      simp only [lexemes, List.append_assoc, List.cons_append] at e
      obtain ⟨rfl, rfl⟩ := ih e (fun x hx => (hr x hx).1) (endsBefore_arrow _)
      exact absurd rfl (hr _ rfl).2
  | arrow b t ihb iht =>
    cases u with
    | plain b' =>
      simp only [lexemes, List.append_assoc, List.cons_append] at e
      obtain ⟨rfl, rfl⟩ := ihb e (endsBefore_arrow _) (fun x hx => (hr' x hx).1)
      exact absurd rfl (hr' _ rfl).2
    | arrow b' t' =>
      simp only [lexemes, List.append_assoc, List.cons_append] at e
      obtain ⟨rfl, h⟩ := ihb e (endsBefore_arrow _) (endsBefore_arrow _)
      obtain ⟨rfl, rfl⟩ := iht (List.cons.inj h).2 hr hr'
      exact ⟨rfl, rfl⟩
  | apply a as iha ihas =>
    cases u with
    | apply a' as' =>
      simp only [lexemes, List.append_assoc] at e
      obtain ⟨rfl, h⟩ := iha e trivial trivial
      obtain ⟨rfl, rfl⟩ := ihas h hr hr'
      exact ⟨rfl, rfl⟩
  | noOperand =>
    cases u with
    | noOperand => exact ⟨rfl, e⟩
    | operand a as =>
      simp only [lexemes, List.append_assoc, List.nil_append] at e
      exact absurd e (a.ne_lexemes_append hr _)
  | operand a as iha ihas =>
    cases u with
    | noOperand =>
      simp only [lexemes, List.append_assoc, List.nil_append] at e
      exact absurd e.symm (a.ne_lexemes_append hr' _)
    | operand a' as' =>
      simp only [lexemes, List.append_assoc] at e
      obtain ⟨rfl, h⟩ := iha e trivial trivial
      obtain ⟨rfl, rfl⟩ := ihas h hr hr'
      exact ⟨rfl, rfl⟩
  | con name h =>
    cases u with
    | con name' h' =>
      obtain ⟨rfl, rfl⟩ : name = name' ∧ r = r' := by simpa [lexemes] using e
      exact ⟨rfl, rfl⟩
    | var name' h' =>
      obtain ⟨rfl, -⟩ : name = name' ∧ r = r' := by simpa [lexemes] using e
      simp [h] at h'
    | unit | paren | list | nil => simp [lexemes] at e
  | var name h =>
    cases u with
    | con name' h' =>
      obtain ⟨rfl, -⟩ : name = name' ∧ r = r' := by simpa [lexemes] using e
      simp [h] at h'
    | var name' h' =>
      obtain ⟨rfl, rfl⟩ : name = name' ∧ r = r' := by simpa [lexemes] using e
      exact ⟨rfl, rfl⟩
    | unit | paren | list | nil => simp [lexemes] at e
  | unit =>
    cases u with
    | unit => exact ⟨rfl, by simpa [lexemes] using e⟩
    | paren t ts =>
      simp only [lexemes, List.cons_append, List.append_assoc, List.nil_append, List.cons.injEq, true_and] at e
      exact absurd e.symm (t.lexemes_append_ne (by simp [Lexeme.StartsType]) _ _)
    | con | var | list | nil => simp [lexemes] at e
  | paren t ts iht ihts =>
    cases u with
    | unit =>
      simp only [lexemes, List.cons_append, List.append_assoc, List.nil_append, List.cons.injEq, true_and] at e
      exact absurd e (t.lexemes_append_ne (by simp [Lexeme.StartsType]) _ _)
    | paren t' ts' =>
      simp only [lexemes, List.cons_append, List.append_assoc, List.nil_append, List.cons.injEq, true_and] at e
      obtain ⟨rfl, h⟩ := iht e (ts.endsBefore_lexemes (endsBefore_rightParen r))
        (ts'.endsBefore_lexemes (endsBefore_rightParen r'))
      obtain ⟨rfl, closed⟩ := ihts h (endsBefore_rightParen r) (endsBefore_rightParen r')
      exact ⟨rfl, (List.cons.inj closed).2⟩
    | con | var | list | nil => simp [lexemes] at e
  | list t ih =>
    cases u with
    | list t' =>
      simp only [lexemes, List.cons_append, List.append_assoc, List.nil_append, List.cons.injEq, true_and] at e
      obtain ⟨rfl, h⟩ := ih e (endsBefore_rightBracket _) (endsBefore_rightBracket _)
      exact ⟨rfl, (List.cons.inj h).2⟩
    | nil =>
      simp only [lexemes, List.cons_append, List.append_assoc, List.nil_append, List.cons.injEq, true_and] at e
      exact absurd e (t.lexemes_append_ne (by simp [Lexeme.StartsType]) _ _)
    | con | var | unit | paren => simp [lexemes] at e
  | nil =>
    cases u with
    | nil => exact ⟨rfl, by simpa [lexemes] using e⟩
    | list t =>
      simp only [lexemes, List.cons_append, List.append_assoc, List.nil_append, List.cons.injEq, true_and] at e
      exact absurd e.symm (t.lexemes_append_ne (by simp [Lexeme.StartsType]) _ _)
    | con | var | unit | paren => simp [lexemes] at e
  | noPart =>
    cases u with
    | noPart => exact ⟨rfl, e⟩
    | part t ts =>
      simp only [lexemes, List.nil_append, List.cons_append] at e
      exact absurd rfl (hr .comma (by simp [e])).2.2
  | part t ts iht ihts =>
    cases u with
    | noPart =>
      simp only [lexemes, List.nil_append, List.cons_append] at e
      exact absurd rfl (hr' .comma (by simp [← e])).2.2
    | part t' ts' =>
      simp only [lexemes, List.cons_append, List.append_assoc, List.cons.injEq, true_and] at e
      obtain ⟨rfl, h⟩ := iht e (ts.endsBefore_lexemes hr) (ts'.endsBefore_lexemes hr')
      obtain ⟨rfl, rfl⟩ := ihts h hr hr'
      exact ⟨rfl, rfl⟩

theorem lexemes_injective {t u : Tree .type} (e : t.lexemes = u.lexemes) : t = u :=
  (eq_of_lexemes_append (show t.lexemes ++ [] = u.lexemes ++ [] by rw [e]) (by simp [Category.EndsBefore])
    (by simp [Category.EndsBefore])).1

/-- Types have no double arrow. -/
theorem implies_notMem_lexemes (t : Tree k) : .implies ∉ t.lexemes := by
  induction t with
  | plain | arrow | apply | noOperand | operand | con | var | unit | paren | list | nil | noPart | part =>
    simp_all [lexemes]

end Tree

/-! ## Signatures have one derivation -/

/-- The name of a class determines the class. -/
theorem AssertionTree.lexemes_injective {a b : AssertionTree classes} (e : a.lexemes = b.lexemes) : a = b := by
  obtain ⟨name, c, known, subject, h⟩ := a
  obtain ⟨name', c', known', subject', h'⟩ := b
  obtain ⟨rfl, rfl⟩ : name = name' ∧ subject = subject' := by simpa [lexemes] using e
  obtain rfl : c = c' := by simpa [known] using known'
  rfl

theorem AssertionTree.eq_of_flatMap_append {as bs : List (AssertionTree classes)} {r r' : List Lexeme}
    (e : as.flatMap (fun a => .comma :: a.lexemes) ++ .rightParen :: r =
      bs.flatMap (fun b => .comma :: b.lexemes) ++ .rightParen :: r') : as = bs := by
  induction as generalizing bs with
  | nil =>
    cases bs with
    | nil => rfl
    | cons b bs => simp at e
  | cons a as ih =>
    cases bs with
    | nil => simp at e
    | cons b bs =>
      simp only [List.flatMap_cons, List.cons_append, List.append_assoc, List.cons.injEq, true_and] at e
      obtain ⟨head, rest⟩ := List.append_inj e (by simp [lexemes])
      rw [lexemes_injective head, ih rest]

theorem ContextTree.lexemes_injective {c d : ContextTree classes} (e : c.lexemes = d.lexemes) : c = d := by
  cases c with
  | single a =>
    cases d with
    | single b => rw [AssertionTree.lexemes_injective e]
    | paren => simp [lexemes, AssertionTree.lexemes] at e
  | paren a more =>
    cases d with
    | single => simp [lexemes, AssertionTree.lexemes] at e
    | paren b more' =>
      simp only [lexemes, List.append_assoc, List.cons.injEq, true_and] at e
      obtain ⟨head, rest⟩ := List.append_inj e (by simp [AssertionTree.lexemes])
      rw [AssertionTree.lexemes_injective head, AssertionTree.eq_of_flatMap_append rest]

/-- Contexts have no double arrow. -/
theorem ContextTree.implies_notMem_lexemes (c : ContextTree classes) : .implies ∉ c.lexemes := by
  cases c <;> simp [lexemes, AssertionTree.lexemes]

/-- A signature is split at its only double arrow. -/
theorem SignatureTree.lexemes_injective {d e : SignatureTree classes} (h : d.lexemes = e.lexemes) : d = e := by
  cases d with
  | plain t =>
    cases e with
    | plain u => rw [Tree.lexemes_injective h]
    | qualified c u => exact absurd (by simp [show t.lexemes = _ from h, lexemes]) t.implies_notMem_lexemes
  | qualified c t =>
    cases e with
    | plain u => exact absurd (by simp [show u.lexemes = _ from h.symm, lexemes]) u.implies_notMem_lexemes
    | qualified c' u =>
      obtain ⟨hc, -, ht⟩ := (List.append_cons_inj_of_notMem c.implies_notMem_lexemes t.implies_notMem_lexemes).1 h
      rw [ContextTree.lexemes_injective hc, Tree.lexemes_injective ht]

end BlockTypes.Signature
