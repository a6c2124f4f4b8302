import Mathlib.Data.List.Infix
import BlockTypes.TypeExpr.Layout
import BlockTypes.Proofs.Signature.Grammar
import BlockTypes.Proofs.Signature.Lexing

/-!
# Written types and the grammar

How loosely a text is held says which category of the grammar derives it, and parentheses make an operand of
anything. So the layout of a type spells a derivation that means the type (`Layout.Shows`), built along the type.
There is one exception: a tuple constructor is written out when it has more arguments than it takes, and no
derivation has a comma after an open parenthesis.
-/

namespace BlockTypes

open Signature

namespace TypeExpr

variable {ν : Type}

/-- Some tuple constructor in the type has more arguments than it takes, if the type is applied to `count`
arguments itself. -/
def Overfull : TypeExpr ν → (count : Nat) → Prop
  | var _, _ => False
  | con name, count => ∃ n, 2 ≤ n ∧ name = tupleCon n ∧ n < count
  | arrow a b, _ => a.Overfull 0 ∨ b.Overfull 0
  | app t a, count => t.Overfull (count + 1) ∨ a.Overfull 0

instance decidableOverfull : (t : TypeExpr ν) → (count : Nat) → Decidable (t.Overfull count)
  | var _, _ => inferInstanceAs (Decidable False)
  | con name, count => decidable_of_iff (∃ n, n < count ∧ 2 ≤ n ∧ name = tupleCon n) (by simp only [Overfull]; grind)
  | arrow a b, _ =>
    have := decidableOverfull a 0
    have := decidableOverfull b 0
    inferInstanceAs (Decidable (a.Overfull 0 ∨ b.Overfull 0))
  | app t a, count =>
    have := decidableOverfull t (count + 1)
    have := decidableOverfull a 0
    inferInstanceAs (Decidable (t.Overfull (count + 1) ∨ a.Overfull 0))

theorem overfull_applyTo {t : TypeExpr ν} {us : List (TypeExpr ν)} {count : Nat} :
    (t.applyTo us).Overfull count ↔ t.Overfull (us.length + count) ∨ ∃ u ∈ us, u.Overfull 0 := by
  induction us generalizing t with
  | nil => simp [applyTo]
  | cons u us ih =>
    show ((app t u).applyTo us).Overfull count ↔ _
    rw [ih, Overfull, List.length_cons, Nat.add_right_comm]
    simp [or_assoc]

/-- The constructor is the name of a type, the list constructor or the unit type. -/
def IsAtom (name : String) : Prop :=
  (IsIdent name ∧ isVariableName name = false) ∨ name = listCon ∨ name = unitCon

/-- The constructor is an atom, or a tuple constructor with at least as many arguments as it takes. -/
def ReadableCon (name : String) (count : Nat) : Prop :=
  IsAtom name ∨ ∃ n, 2 ≤ n ∧ name = tupleCon n ∧ n ≤ count

/-- The type has the names that a signature can have, if it is applied to `count` arguments. -/
def Readable : TypeExpr String → (count : Nat) → Prop
  | var name, _ => IsIdent name ∧ isVariableName name = true
  | con name, count => ReadableCon name count
  | arrow a b, _ => a.Readable 0 ∧ b.Readable 0
  | app t a, count => t.Readable (count + 1) ∧ a.Readable 0

theorem readable_applyTo {t : TypeExpr String} {us : List (TypeExpr String)} {count : Nat} :
    (t.applyTo us).Readable count ↔ t.Readable (us.length + count) ∧ ∀ u ∈ us, u.Readable 0 := by
  induction us generalizing t with
  | nil => simp [applyTo]
  | cons u us ih =>
    show ((app t u).applyTo us).Readable count ↔ _
    rw [ih, Readable, List.length_cons, Nat.add_right_comm]
    simp [and_assoc]

theorem Readable.mono {t : TypeExpr String} {m n : Nat} (h : t.Readable m) (le : m ≤ n) : t.Readable n := by
  induction t generalizing m n with
  | var name => exact h
  | con name =>
    rcases h with atom | ⟨k, two, tuple, enough⟩
    · exact .inl atom
    · exact .inr ⟨k, two, tuple, enough.trans le⟩
  | arrow a b => exact h
  | app t a iht _ => exact ⟨iht h.1 (Nat.succ_le_succ le), h.2⟩

end TypeExpr

/-! ## What is read is readable -/

/-- The meaning of a tree has the names that its lexemes have, and tuple constructors with their arguments. -/
def Signature.Tree.MeansReadable : {k : Category} → Tree k → Prop
  | .type, t => TypeExpr.Readable t.meaning 0
  | .btype, t => TypeExpr.Readable t.meaning 0
  | .atype, t => TypeExpr.Readable t.meaning 0
  | .atypes, ts => ∀ u ∈ ts.meaning, TypeExpr.Readable u 0
  | .types, ts => ∀ u ∈ ts.meaning, TypeExpr.Readable u 0

theorem Signature.Tree.meansReadable {k : Category} (t : Tree k)
    (names : ∀ name, .ident name ∈ t.lexemes → IsIdent name) : t.MeansReadable := by
  induction t with
  | plain b ih => exact ih names
  | arrow b t ihb iht =>
    exact ⟨ihb fun name mem => names name (by simp [lexemes, mem]),
      iht fun name mem => names name (by simp [lexemes, mem])⟩
  | apply a as iha ihas =>
    have ha : TypeExpr.Readable a.meaning 0 := iha fun name mem => names name (by simp [lexemes, mem])
    have has : ∀ u ∈ as.meaning, TypeExpr.Readable u 0 := ihas fun name mem => names name (by simp [lexemes, mem])
    exact TypeExpr.readable_applyTo.2 ⟨ha.mono (Nat.zero_le _), has⟩
  | noOperand => simp [MeansReadable, meaning]
  | operand a as iha ihas =>
    have ha : TypeExpr.Readable a.meaning 0 := iha fun name mem => names name (by simp [lexemes, mem])
    have has : ∀ u ∈ as.meaning, TypeExpr.Readable u 0 := ihas fun name mem => names name (by simp [lexemes, mem])
    exact List.forall_mem_cons.2 ⟨ha, has⟩
  | con name h => exact .inl (.inl ⟨names name (by simp [lexemes]), h⟩)
  | var name h => exact ⟨names name (by simp [lexemes]), h⟩
  | unit => exact .inl (.inr (.inr rfl))
  | paren t ts iht ihts =>
    have ht : TypeExpr.Readable t.meaning 0 := iht fun name mem => names name (by simp [lexemes, mem])
    have hts : ∀ u ∈ ts.meaning, TypeExpr.Readable u 0 := ihts fun name mem => names name (by simp [lexemes, mem])
    rw [MeansReadable, meaning]
    split
    · exact ht
    · rename_i u us parts
      rw [parts] at hts
      refine TypeExpr.readable_applyTo.2 ⟨.inr ⟨us.length + 2, by omega, rfl, by simp⟩, ?_⟩
      exact List.forall_mem_cons.2 ⟨ht, hts⟩
  | list t ih => exact ⟨.inl (.inr (.inl rfl)), ih fun name mem => names name (by simp [lexemes, mem])⟩
  | nil => exact .inl (.inr (.inl rfl))
  | noPart => simp [MeansReadable, meaning]
  | part t ts iht ihts =>
    have ht : TypeExpr.Readable t.meaning 0 := iht fun name mem => names name (by simp [lexemes, mem])
    have hts : ∀ u ∈ ts.meaning, TypeExpr.Readable u 0 := ihts fun name mem => names name (by simp [lexemes, mem])
    exact List.forall_mem_cons.2 ⟨ht, hts⟩

/-! ## Lexemes of a layout -/

/-- The lexemes are derived as the grip says, with the type as their meaning. -/
def Grip.Derives : Grip → List Lexeme → TypeExpr String → Prop
  | .closed, xs, t => ∃ a : Tree .atype, a.lexemes = xs ∧ a.meaning = t
  | .applied, xs, t => ∃ b : Tree .btype, b.lexemes = xs ∧ b.meaning = t
  | .arrow, xs, t => ∃ u : Tree .type, u.lexemes = xs ∧ u.meaning = t

/-- The loosest grip that needs no parentheses in the place. -/
def Place.grip : Place → Grip
  | .whole => .arrow
  | .domain => .applied
  | .operand => .closed

/-- What no derivation has: a comma right after an open parenthesis. -/
def BareTuple (xs : List Lexeme) : Prop := [.leftParen, .comma] <:+: xs

/-- The lexemes tell the type, unless it is overfull with `count` arguments after it. -/
structure Conveys (g : Grip) (count : Nat) (xs : List Lexeme) (t : TypeExpr String) : Prop where
  derives : ¬ t.Overfull count → g.Derives xs t
  bare : t.Overfull count → BareTuple xs

/-- The text is written for the type with that grip. -/
def Written (text : String) (g : Grip) (t : TypeExpr String) : Prop :=
  ∃ xs, Spells text.toList xs ∧ Conveys g 0 xs t

/-- The layout is one of the type. -/
def Layout.Shows (l : Layout) (t : TypeExpr String) : Prop := Written l.text l.grip t

theorem Grip.Derives.toType {g : Grip} {xs : List Lexeme} {t : TypeExpr String} (h : g.Derives xs t) :
    Grip.Derives .arrow xs t := by
  cases g with
  | closed =>
    obtain ⟨a, rfl, rfl⟩ := h
    exact ⟨.plain (.apply a .noOperand), by simp [Tree.lexemes], rfl⟩
  | applied =>
    obtain ⟨b, rfl, rfl⟩ := h
    exact ⟨.plain b, rfl, rfl⟩
  | arrow => exact h

theorem Grip.Derives.paren {g : Grip} {xs : List Lexeme} {t : TypeExpr String} (h : g.Derives xs t) :
    Grip.Derives .closed (.leftParen :: (xs ++ [.rightParen])) t := by
  obtain ⟨u, rfl, rfl⟩ := h.toType
  exact ⟨.paren u .noPart, by simp [Tree.lexemes], rfl⟩

/-- An operand may stand where an application may. -/
theorem Grip.Derives.toApplied {xs : List Lexeme} {t : TypeExpr String} (h : Grip.Derives .closed xs t) :
    Grip.Derives .applied xs t := by
  obtain ⟨a, rfl, rfl⟩ := h
  exact ⟨.apply a .noOperand, by simp [Tree.lexemes], rfl⟩

/-- Text that needs no parentheses in a place is derived as the place asks. -/
theorem Grip.Derives.inPlace {g : Grip} {place : Place} {xs : List Lexeme} {t : TypeExpr String} (h : g.Derives xs t)
    (fits : g.needsParens place = false) : place.grip.Derives xs t := by
  cases place with
  | whole => exact h.toType
  | domain =>
    cases g with
    | closed => exact h.toApplied
    | applied => exact h
    | arrow => cases fits
  | operand =>
    cases g with
    | closed => exact h
    | applied => cases fits
    | arrow => cases fits

theorem BareTuple.append {xs : List Lexeme} (h : BareTuple xs) (ys zs : List Lexeme) : BareTuple (ys ++ (xs ++ zs)) :=
  h.trans ⟨ys, zs, by simp⟩

theorem Layout.Shows.inPlace {l : Layout} {t : TypeExpr String} (h : l.Shows t) (place : Place) :
    Written (l.inPlace place) place.grip t := by
  obtain ⟨xs, spelled, conveys⟩ := h
  rw [Layout.inPlace]
  split
  next =>
    refine ⟨.leftParen :: (xs ++ [.rightParen]), ?_, fun fine => ?_, fun full => ?_⟩
    · simpa using (spelled.append Spells.nil.rightParen (by decide)).leftParen
    · cases place with
      | whole => exact (conveys.derives fine).paren.toType
      | domain => exact (conveys.derives fine).paren.toApplied
      | operand => exact (conveys.derives fine).paren
    · exact (conveys.bare full).append [.leftParen] [.rightParen]
  next fits =>
    exact ⟨xs, spelled, fun fine => (conveys.derives fine).inPlace (by simpa using fits), conveys.bare⟩

/-! ## Arguments in a row -/

/-- The operands that follow a head. -/
theorem exists_operands {rows : List (List Lexeme)} {us : List (TypeExpr String)}
    (h : List.Forall₂ (Grip.Derives .closed) rows us) :
    ∃ as : Tree .atypes, as.lexemes = rows.flatten ∧ as.meaning = us := by
  induction h with
  | nil => exact ⟨.noOperand, rfl, rfl⟩
  | cons first _ ih =>
    obtain ⟨a, rfl, rfl⟩ := first
    obtain ⟨as, has, rfl⟩ := ih
    exact ⟨.operand a as, by simp [Tree.lexemes, has], rfl⟩

/-- The parts of a parenthesis after the first. -/
theorem exists_parts {rows : List (List Lexeme)} {us : List (TypeExpr String)}
    (h : List.Forall₂ (Grip.Derives .arrow) rows us) :
    ∃ ts : Tree .types, ts.lexemes = rows.flatMap (.comma :: ·) ∧ ts.meaning = us := by
  induction h with
  | nil => exact ⟨.noPart, rfl, rfl⟩
  | cons first _ ih =>
    obtain ⟨t, rfl, rfl⟩ := first
    obtain ⟨ts, hts, rfl⟩ := ih
    exact ⟨.part t ts, by simp [Tree.lexemes, hts], rfl⟩

/-- The texts of several types in the same place. -/
theorem exists_rows {args : List Layout} {us : List (TypeExpr String)} (h : List.Forall₂ Layout.Shows args us)
    (place : Place) : ∃ rows : List (List Lexeme),
      List.Forall₂ (fun text xs => Spells text.toList xs) (args.map (·.inPlace place)) rows ∧
        List.Forall₂ (Conveys place.grip 0) rows us := by
  induction h with
  | nil => exact ⟨[], .nil, .nil⟩
  | cons first _ ih =>
    obtain ⟨xs, spelled, conveys⟩ := first.inPlace place
    obtain ⟨rows, texts, types⟩ := ih
    exact ⟨xs :: rows, .cons spelled texts, .cons conveys types⟩

theorem Conveys.derives_all {g : Grip} {rows : List (List Lexeme)} {us : List (TypeExpr String)}
    (h : List.Forall₂ (Conveys g 0) rows us) (fine : ¬ ∃ u ∈ us, u.Overfull 0) : List.Forall₂ g.Derives rows us := by
  induction h with
  | nil => exact .nil
  | cons first _ ih =>
    simp only [List.exists_mem_cons_iff, not_or] at fine
    exact .cons (first.derives fine.1) (ih fine.2)

theorem Conveys.bare_of_mem {g : Grip} {rows : List (List Lexeme)} {us : List (TypeExpr String)}
    (h : List.Forall₂ (Conveys g 0) rows us) (full : ∃ u ∈ us, u.Overfull 0) : ∃ xs ∈ rows, BareTuple xs := by
  induction h with
  | nil => simp at full
  | cons first _ ih =>
    rw [List.exists_mem_cons_iff] at full ⊢
    exact full.imp first.bare ih

theorem BareTuple.flatMap {rows : List (List Lexeme)} (h : ∃ xs ∈ rows, BareTuple xs) (sep : List Lexeme) :
    BareTuple (rows.flatMap (sep ++ ·)) := by
  obtain ⟨xs, mem, bare⟩ := h
  obtain ⟨before, after, rfl⟩ := List.append_of_mem mem
  simpa using bare.append (before.flatMap (sep ++ ·) ++ sep) (after.flatMap (sep ++ ·))

theorem Layout.applied_of_ne_nil {head : Layout} {args : List Layout} (some : args ≠ []) : applied head args =
    ⟨" ".intercalate (head.inPlace .operand :: args.map (·.inPlace .operand)), .applied⟩ := by
  cases args with
  | nil => exact absurd rfl some
  | cons => rfl

/-- A head with arguments is shown as an application if what it is written as tells it, with that many arguments. -/
theorem Layout.Shows.applied {head : Layout} {h : TypeExpr String} {args : List Layout} {us : List (TypeExpr String)}
    {xs : List Lexeme} (spelled : Spells (head.inPlace .operand).toList xs) (conveys : Conveys .closed us.length xs h)
    (shown : List.Forall₂ Layout.Shows args us) (some : args ≠ []) :
    (Layout.applied head args).Shows (h.applyTo us) := by
  obtain ⟨rows, texts, types⟩ := exists_rows shown .operand
  rw [Layout.applied_of_ne_nil some]
  refine ⟨xs ++ rows.flatten, spelled.words texts, fun fine => ?_, fun full => ?_⟩
  · rw [TypeExpr.overfull_applyTo, not_or] at fine
    obtain ⟨a, rfl, rfl⟩ := conveys.derives fine.1
    obtain ⟨as, has, rfl⟩ := exists_operands (Conveys.derives_all types fine.2)
    exact ⟨.apply a as, by rw [Tree.lexemes, has], rfl⟩
  · rcases TypeExpr.overfull_applyTo.1 full with full | full
    · exact (conveys.bare full).append [] rows.flatten
    · simpa using (BareTuple.flatMap (Conveys.bare_of_mem types full) []).append xs []

/-! ## Constructors -/

theorem toList_tupleCon (n : Nat) : (TypeExpr.tupleCon n).toList = '(' :: (List.replicate (n - 1) ',' ++ [')']) := by
  have commas (k : Nat) : ("".pushn ',' k).toList = List.replicate k ',' := by
    induction k with
    | zero => rfl
    | succ k ih =>
      show (("".pushn ',' k).push ',').toList = _
      rw [String.toList_push, ih, List.replicate_succ']
  simp [TypeExpr.tupleCon, String.toList_append, commas]

theorem tupleCon_injective {m n : Nat} (hm : 2 ≤ m) (hn : 2 ≤ n) (h : TypeExpr.tupleCon m = TypeExpr.tupleCon n) :
    m = n := by
  have len := congrArg (fun name => name.toList.length) h
  simp only [toList_tupleCon, List.length_cons, List.length_append, List.length_replicate, List.length_nil] at len
  omega

theorem TypeExpr.IsAtom.ne_tupleCon {name : String} (h : IsAtom name) {n : Nat} (two : 2 ≤ n) : name ≠ tupleCon n := by
  intro e
  have chars := congrArg String.toList e
  rw [toList_tupleCon] at chars
  rcases h with ⟨⟨c, cs, hname, start, -⟩, -⟩ | rfl | rfl
  · rw [hname] at chars
    obtain rfl := (List.cons.inj chars).1
    cases start
  · simp [listCon] at chars
  · obtain ⟨k, rfl⟩ : ∃ k, n = k + 2 := ⟨n - 2, by omega⟩
    simp [unitCon, List.replicate_succ] at chars

theorem TypeExpr.IsAtom.exists_tree {name : String} (h : IsAtom name) :
    ∃ a : Tree .atype, Spells name.toList a.lexemes ∧ a.meaning = .con name := by
  rcases h with ⟨ident, con⟩ | rfl | rfl
  · exact ⟨.con name con, .ident ident, rfl⟩
  · exact ⟨.nil, Spells.nil.rightBracket.leftBracket, rfl⟩
  · exact ⟨.unit, Spells.nil.rightParen.leftParen, rfl⟩

theorem spells_tupleCon (n : Nat) : Spells (TypeExpr.tupleCon n).toList
    (.leftParen :: (List.replicate (n - 1) .comma ++ [.rightParen])) := by
  rw [toList_tupleCon]
  refine Spells.leftParen ?_
  induction n - 1 with
  | zero => exact Spells.nil.rightParen
  | succ k ih => exact ih.comma

/-- A constructor that stands alone before arguments. -/
theorem conveys_con {name : String} {count : Nat} (readable : TypeExpr.ReadableCon name count)
    (alone : count < 2 ∨ name ≠ TypeExpr.tupleCon count) :
    ∃ xs, Spells name.toList xs ∧ Conveys .closed count xs (.con name) := by
  rcases readable with atom | ⟨n, two, rfl, enough⟩
  · obtain ⟨a, spelled, meaning⟩ := atom.exists_tree
    refine ⟨a.lexemes, spelled, fun _ => ⟨a, rfl, meaning⟩, ?_⟩
    rintro ⟨n, two, e, -⟩
    exact absurd e (atom.ne_tupleCon two)
  · -- A tuple constructor that is written out has more arguments than it takes.
    have more : n < count := by
      rcases alone with few | ne
      · omega
      · exact Nat.lt_of_le_of_ne enough fun e => ne (by rw [e])
    refine ⟨_, spells_tupleCon n, fun fine => absurd ⟨n, two, rfl, more⟩ fine, fun _ => ?_⟩
    obtain ⟨k, rfl⟩ : ∃ k, n = k + 2 := ⟨n - 2, by omega⟩
    exact ⟨[], List.replicate k .comma ++ [.rightParen], rfl⟩

theorem Layout.Shows.list {l : Layout} {u : TypeExpr String} (h : l.Shows u) :
    (Layout.closed ("[" ++ l.inPlace .whole ++ "]")).Shows (.app (.con TypeExpr.listCon) u) := by
  obtain ⟨xs, spelled, conveys⟩ := h.inPlace .whole
  refine ⟨.leftBracket :: (xs ++ [.rightBracket]), ?_, fun fine => ?_, fun full => ?_⟩
  · simpa [Layout.closed] using (spelled.append Spells.nil.rightBracket (by decide)).leftBracket
  · obtain ⟨t, rfl, rfl⟩ := conveys.derives fun full => fine (.inr full)
    exact ⟨.list t, rfl, rfl⟩
  · rcases full with ⟨n, two, -, few⟩ | full
    · omega
    · exact (conveys.bare full).append [.leftBracket] [.rightBracket]

/-- A tuple constructor with as many arguments as it takes. -/
theorem Layout.Shows.tuple {l : Layout} {u : TypeExpr String} {args : List Layout} {us : List (TypeExpr String)}
    (first : l.Shows u) (shown : List.Forall₂ Layout.Shows args us) (some : us ≠ []) :
    (Layout.closed ("(" ++ ", ".intercalate ((l :: args).map (·.inPlace .whole)) ++ ")")).Shows
      (TypeExpr.applyTo (.con (TypeExpr.tupleCon (us.length + 1))) (u :: us)) := by
  obtain ⟨xs, spelled, conveys⟩ := first.inPlace .whole
  obtain ⟨rows, texts, types⟩ := exists_rows shown .whole
  have two : 2 ≤ us.length + 1 := Nat.succ_le_succ (List.length_pos_of_ne_nil some)
  refine ⟨.leftParen :: (xs ++ rows.flatMap (.comma :: ·) ++ [.rightParen]), ?_, fun fine => ?_, fun full => ?_⟩
  · simpa [Layout.closed] using ((spelled.parts texts).append Spells.nil.rightParen (by decide)).leftParen
  · rw [TypeExpr.overfull_applyTo, not_or, List.exists_mem_cons_iff, not_or] at fine
    obtain ⟨t, rfl, rfl⟩ := conveys.derives fine.2.1
    obtain ⟨ts, hts, rfl⟩ := exists_parts (Conveys.derives_all types fine.2.2)
    refine ⟨.paren t ts, by rw [Tree.lexemes, hts], ?_⟩
    rw [Tree.meaning]
    split
    next none => exact absurd none some
    next v vs parts => rw [parts]; rfl
  · rcases TypeExpr.overfull_applyTo.1 full with ⟨n, hn, e, more⟩ | full
    · have := tupleCon_injective two hn e
      simp at more
      omega
    · rw [List.exists_mem_cons_iff] at full
      rcases full with full | full
      · simpa using (conveys.bare full).append [.leftParen] (rows.flatMap (.comma :: ·) ++ [.rightParen])
      · have bare := BareTuple.flatMap (Conveys.bare_of_mem types full) [.comma]
        simpa using bare.append (.leftParen :: xs) [.rightParen]

theorem Layout.shows_constructor {name : String} {args : List Layout} {us : List (TypeExpr String)}
    (readable : TypeExpr.ReadableCon name us.length) (shown : List.Forall₂ Layout.Shows args us) :
    (Layout.constructor name args).Shows (TypeExpr.applyTo (.con name) us) := by
  cases shown with
  | nil => exact conveys_con readable (.inl (by decide))
  | cons first rest =>
    cases rest with
    | nil =>
      rw [Layout.constructor]
      split
      next list =>
        subst list
        exact first.list
      next =>
        obtain ⟨xs, spelled, conveys⟩ := conveys_con readable (.inl (by simp))
        exact .applied spelled conveys (.cons first .nil) (by simp)
    | @cons l' u' args us second rest =>
      have shown := List.Forall₂.cons first (.cons second rest)
      have len := shown.length_eq
      simp only [Layout.constructor]
      split
      next exact =>
        rw [exact, len]
        exact first.tuple (.cons second rest) (by simp)
      next ne =>
        rw [len] at ne
        obtain ⟨xs, spelled, conveys⟩ := conveys_con readable (.inr ne)
        exact .applied spelled conveys shown (by simp)

theorem Layout.Shows.arrow {a b : Layout} {t u : TypeExpr String} (ha : a.Shows t) (hb : b.Shows u) :
    (Layout.arrow a b).Shows (.arrow t u) := by
  obtain ⟨xs, spelled, conveys⟩ := ha.inPlace .domain
  obtain ⟨ys, spelled', conveys'⟩ := hb.inPlace .whole
  refine ⟨xs ++ .arrow :: ys, ?_, fun fine => ?_, fun full => ?_⟩
  · simpa [Layout.arrow] using spelled.append spelled'.blank.arrow.blank (by decide)
  · obtain ⟨b, rfl, rfl⟩ := conveys.derives fun full => fine (.inl full)
    obtain ⟨t, rfl, rfl⟩ := conveys'.derives fun full => fine (.inr full)
    exact ⟨.arrow b t, rfl, rfl⟩
  · rcases full with full | full
    · simpa using (conveys.bare full).append [] (.arrow :: ys)
    · exact (conveys'.bare full).trans ⟨xs ++ [.arrow], [], by simp⟩

/-- A type is written as it is read, with the arguments that it is applied to. -/
theorem TypeExpr.shows_layoutWith {t : TypeExpr String} {args : List Layout} {us : List (TypeExpr String)}
    (shown : List.Forall₂ Layout.Shows args us) (readable : t.Readable us.length) :
    (t.layoutWith args).Shows (t.applyTo us) := by
  -- The induction is on the type with the arguments generalized: an application hands its argument on to the head.
  induction t generalizing args us with
  | var name =>
    have conveys (count : Nat) : Conveys .closed count [.ident name] (.var name) :=
      ⟨fun _ => ⟨.var name readable.2, rfl, rfl⟩, fun full => full.elim⟩
    rw [layoutWith]
    cases shown with
    | nil => exact ⟨_, .ident readable.1, conveys 0⟩
    | cons first rest => exact .applied (.ident readable.1) (conveys _) (.cons first rest) (by simp)
  | con name => exact Layout.shows_constructor readable shown
  | arrow a b iha ihb =>
    have whole := Layout.Shows.arrow (iha .nil readable.1) (ihb .nil readable.2)
    rw [layoutWith]
    cases shown with
    | nil => exact whole
    | cons first rest =>
      obtain ⟨xs, spelled, conveys⟩ := whole.inPlace .operand
      exact .applied spelled ⟨conveys.derives, conveys.bare⟩ (.cons first rest) (by simp)
  | app t a iht iha => exact iht (.cons (iha .nil readable.2) shown) readable.1

end BlockTypes
