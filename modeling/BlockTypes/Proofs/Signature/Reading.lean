import BlockTypes.Proofs.Signature.Grammar

/-!
# Reading is the grammar of types

Taking lexemes one by one reads exactly the types that the grammar derives (`readType_eq_ok_iff`). One
direction follows a derivation: what each category does to a reading is `Tree.IsTaken`, proved by induction on
the tree. The other follows the lexemes: every reading that they lead to is put together from derivations of
what has been taken (`Reading.ReadFrom`), and so is its result.
-/

namespace BlockTypes.Signature

/-- The reading after the given lexemes, if they can come next. -/
def Reading.takes? (r : Reading) (xs : List Lexeme) : Option Reading := xs.foldlM take? r

namespace Reading

@[simp] theorem takes?_nil (r : Reading) : r.takes? [] = some r := rfl

@[simp] theorem takes?_cons (r : Reading) (x : Lexeme) (xs : List Lexeme) :
    r.takes? (x :: xs) = (r.take? x).bind (·.takes? xs) := by
  simp [takes?]

@[simp] theorem takes?_append (r : Reading) (xs ys : List Lexeme) :
    r.takes? (xs ++ ys) = (r.takes? xs).bind (·.takes? ys) := by
  simp [takes?]

theorem takeAll_eq_ok_iff {r r' : Reading} {ts : List Token} :
    r.takeAll ts = .ok r' ↔ r.takes? (ts.map (·.lexeme)) = some r' := by
  induction ts generalizing r with
  | nil => simp [takeAll]
  | cons token rest ih =>
    rw [takeAll, List.map_cons, takes?_cons]
    cases r.take? token.lexeme with
    | none => simp
    | some next => simpa using ih

theorem finish_eq_ok_iff {r : Reading} {t : TypeExpr String} :
    r.finish = .ok t ↔ r.level.result? = some t ∧ r.openings = [] := by
  unfold finish
  split <;> simp_all

end Reading

theorem readType_eq_ok_iff_takes? {ts : List Token} {length : Nat} {t : TypeExpr String} :
    readType ts length = .ok t ↔
      ∃ l, Reading.start.takes? (ts.map (·.lexeme)) = some ⟨l, []⟩ ∧ l.result? = some t := by
  have result : readType ts length = .ok t ↔ ∃ r, Reading.start.takeAll ts = .ok r ∧ r.finish = .ok t := by
    unfold readType
    cases Reading.start.takeAll ts with
    | error problem => simp
    | ok r => cases h : r.finish <;> simp [h]
  rw [result]
  constructor
  · rintro ⟨⟨l, os⟩, taken, finished⟩
    obtain ⟨hl, rfl⟩ := Reading.finish_eq_ok_iff.1 finished
    exact ⟨l, Reading.takeAll_eq_ok_iff.1 taken, hl⟩
  · rintro ⟨l, taken, hl⟩
    exact ⟨_, Reading.takeAll_eq_ok_iff.2 taken, Reading.finish_eq_ok_iff.2 ⟨hl, rfl⟩⟩

/-! ## What is derived is taken -/

theorem Level.ne_start {l : Level} {t : TypeExpr String} (h : l.result? = some t) : l ≠ .start := by
  rintro rfl
  simp [Level.start, Level.result?] at h

@[simp] theorem Level.operand_none (ds : List (TypeExpr String)) (t : TypeExpr String) :
    (⟨ds, none⟩ : Level).operand t = ⟨ds, some t⟩ := rfl

@[simp] theorem Level.operand_some (ds : List (TypeExpr String)) (f t : TypeExpr String) :
    (⟨ds, some f⟩ : Level).operand t = ⟨ds, some (.app f t)⟩ := rfl

/-- Operands are applied from left to right. -/
theorem Level.foldl_operand (ds : List (TypeExpr String)) (f : TypeExpr String) (ts : List (TypeExpr String)) :
    ts.foldl Level.operand ⟨ds, some f⟩ = ⟨ds, some (ts.foldl .app f)⟩ := by
  induction ts generalizing f with
  | nil => rfl
  | cons t ts ih => simp [ih]

namespace Tree

/-- What a tree of each category does to the reading that takes its lexemes. Parts of a parenthesis come after
a first part and are taken with the parenthesis that closes them. -/
def IsTaken : {k : Category} → Tree k → Prop
  | .type, t => ∀ ds os, ∃ l, Reading.takes? ⟨⟨ds, none⟩, os⟩ t.lexemes = some ⟨l, os⟩ ∧
      l.result? = some (ds.foldl (fun result domain => .arrow domain result) t.meaning)
  | .btype, b => ∀ ds os, Reading.takes? ⟨⟨ds, none⟩, os⟩ b.lexemes = some ⟨⟨ds, some b.meaning⟩, os⟩
  | .atypes, as => ∀ l os, Reading.takes? ⟨l, os⟩ as.lexemes = some ⟨as.meaning.foldl Level.operand l, os⟩
  | .atype, a => ∀ l os, Reading.takes? ⟨l, os⟩ a.lexemes = some ⟨l.operand a.meaning, os⟩
  | .types, ts => ∀ l t outer parts os, l.result? = some t →
      Reading.takes? ⟨l, .paren outer parts :: os⟩ (ts.lexemes ++ [.rightParen]) =
        some ⟨outer.operand (.tupleOf (parts.reverse ++ t :: ts.meaning)), os⟩

theorem meaning_paren (t : Tree .type) (ts : Tree .types) :
    (paren t ts).meaning = .tupleOf (t.meaning :: ts.meaning) := by
  rw [meaning]
  cases ts.meaning <;> rfl

theorem isTaken {k : Category} (t : Tree k) : t.IsTaken := by
  induction t with
  | plain b ih => exact fun ds os => ⟨_, ih ds os, rfl⟩
  | arrow b t ihb iht =>
    intro ds os
    obtain ⟨l, taken, result⟩ := iht (b.meaning :: ds) os
    refine ⟨l, ?_, result⟩
    simp [lexemes, ihb ds os, Reading.take?, taken]
  | apply a as iha ihas =>
    intro ds os
    simp [lexemes, iha _ os, ihas _ os, Level.foldl_operand, meaning]
  | noOperand => exact fun l os => rfl
  | operand a as iha ihas =>
    intro l os
    simp [lexemes, iha l os, ihas _ os, meaning]
  | con name h => intro l os; simp [lexemes, Reading.take?, Reading.named, h, meaning]
  | var name h => intro l os; simp [lexemes, Reading.take?, Reading.named, h, meaning]
  | unit => exact fun l os => rfl
  | paren t ts iht ihts =>
    intro l os
    obtain ⟨inner, taken, result⟩ := iht [] (.paren l [] :: os)
    have closed := ihts inner t.meaning l [] os result
    rw [lexemes, meaning_paren, Reading.takes?_cons, List.append_assoc, Reading.take?, Level.start,
      Option.bind_some, Reading.takes?_append, taken]
    exact closed
  | list t ih =>
    intro l os
    obtain ⟨inner, taken, result⟩ := ih [] (.bracket l :: os)
    rw [lexemes, Reading.takes?_cons, Reading.take?, Level.start, Option.bind_some, Reading.takes?_append, taken]
    simp [Reading.take?, Level.ne_start result, result, meaning, TypeExpr.listOf, TypeExpr.listCon]
  | nil => exact fun l os => rfl
  | noPart =>
    intro l t outer parts os result
    simp [lexemes, Reading.take?, Level.ne_start result, result, meaning]
  | part t ts iht ihts =>
    intro l u outer parts os result
    obtain ⟨next, taken, result'⟩ := iht [] (.paren outer (u :: parts) :: os)
    have closed := ihts next t.meaning outer (u :: parts) os result'
    have comma : Reading.take? ⟨l, .paren outer parts :: os⟩ .comma =
        some ⟨.start, .paren outer (u :: parts) :: os⟩ := by
      simp [Reading.take?, result]
    rw [lexemes, List.cons_append, Reading.takes?_cons, comma, Option.bind_some, Level.start, List.append_assoc,
      Reading.takes?_append, taken]
    simpa [meaning] using closed

end Tree

/-! ## What is taken is derived -/

/-- The types before arrows were read from the lexemes, with the arrows. -/
inductive DomainsFrom : List (TypeExpr String) → List Lexeme → Prop
  | nil : DomainsFrom [] []
  | cons {ds xs} (h : DomainsFrom ds xs) (b : Tree .btype) :
    DomainsFrom (b.meaning :: ds) (xs ++ (b.lexemes ++ [.arrow]))

/-- The level was read from the lexemes. -/
inductive Level.ReadFrom : Level → List Lexeme → Prop
  | expecting {ds xs} (h : DomainsFrom ds xs) : ReadFrom ⟨ds, none⟩ xs
  | applying {ds xs} (h : DomainsFrom ds xs) (b : Tree .btype) : ReadFrom ⟨ds, some b.meaning⟩ (xs ++ b.lexemes)

/-- The parts of a parenthesis were read from the lexemes, with the commas. -/
inductive PartsFrom : List (TypeExpr String) → List Lexeme → Prop
  | nil : PartsFrom [] []
  | cons {ts xs} (h : PartsFrom ts xs) (t : Tree .type) : PartsFrom (t.meaning :: ts) (xs ++ (t.lexemes ++ [.comma]))

/-- The open brackets, with what stands before them, were read from the lexemes. -/
inductive OpeningsFrom : List Opening → List Lexeme → Prop
  | nil : OpeningsFrom [] []
  | bracket {os outer xs ys} (h : OpeningsFrom os xs) (l : outer.ReadFrom ys) :
    OpeningsFrom (.bracket outer :: os) (xs ++ (ys ++ [.leftBracket]))
  | paren {os outer parts xs ys zs} (h : OpeningsFrom os xs) (l : outer.ReadFrom ys) (p : PartsFrom parts zs) :
    OpeningsFrom (.paren outer parts :: os) (xs ++ (ys ++ .leftParen :: zs))

/-- The reading was read from the lexemes. -/
def Reading.ReadFrom (r : Reading) (xs : List Lexeme) : Prop :=
  ∃ ys zs, OpeningsFrom r.openings ys ∧ r.level.ReadFrom zs ∧ xs = ys ++ zs

namespace Tree

/-- One more operand, after those that there are. -/
def snoc : Tree .atypes → Tree .atype → Tree .atypes
  | noOperand, a => operand a noOperand
  | operand b bs, a => operand b (bs.snoc a)

theorem lexemes_snoc : ∀ (as : Tree .atypes) (a : Tree .atype), (as.snoc a).lexemes = as.lexemes ++ a.lexemes
  | noOperand, a => by simp [snoc, lexemes]
  | operand b bs, a => by simp [snoc, lexemes, lexemes_snoc bs a]

theorem meaning_snoc : ∀ (as : Tree .atypes) (a : Tree .atype), (as.snoc a).meaning = as.meaning ++ [a.meaning]
  | noOperand, a => by simp [snoc, meaning]
  | operand b bs, a => by simp [snoc, meaning, meaning_snoc bs a]

end Tree

theorem DomainsFrom.exists_type {ds : List (TypeExpr String)} {xs : List Lexeme} (h : DomainsFrom ds xs)
    (t : Tree .type) : ∃ u : Tree .type, u.lexemes = xs ++ t.lexemes ∧
      u.meaning = ds.foldl (fun result domain => .arrow domain result) t.meaning := by
  induction h generalizing t with
  | nil => exact ⟨t, rfl, rfl⟩
  | cons h b ih =>
    obtain ⟨u, hu, meaning⟩ := ih (.arrow b t)
    exact ⟨u, by simp [hu, Tree.lexemes], meaning⟩

theorem PartsFrom.exists_types {parts : List (TypeExpr String)} {xs : List Lexeme} (h : PartsFrom parts xs)
    (t : Tree .type) (ts : Tree .types) : ∃ (u : Tree .type) (us : Tree .types),
      u.lexemes ++ us.lexemes = xs ++ (t.lexemes ++ ts.lexemes) ∧
        u.meaning :: us.meaning = parts.reverse ++ t.meaning :: ts.meaning := by
  induction h generalizing t ts with
  | nil => exact ⟨t, ts, rfl, rfl⟩
  | cons h p ih =>
    obtain ⟨u, us, hu, meaning⟩ := ih p (.part t ts)
    exact ⟨u, us, by simp [hu, Tree.lexemes], by simp [meaning, Tree.meaning]⟩

namespace Level.ReadFrom

variable {l : Level} {xs : List Lexeme}

theorem start : ReadFrom .start [] := .expecting .nil

theorem eq_nil (h : ReadFrom .start xs) : xs = [] := by
  cases h with
  | expecting h => cases h; rfl

theorem operand (h : l.ReadFrom xs) (a : Tree .atype) : (l.operand a.meaning).ReadFrom (xs ++ a.lexemes) := by
  cases h with
  | expecting h => simpa [Tree.lexemes, Tree.meaning] using ReadFrom.applying h (.apply a .noOperand)
  | applying h b =>
    cases b with
    | apply b as =>
      have next := ReadFrom.applying h (.apply b (as.snoc a))
      simpa [Tree.lexemes, Tree.meaning, Tree.lexemes_snoc, Tree.meaning_snoc] using next

theorem exists_type (h : l.ReadFrom xs) {t : TypeExpr String} (result : l.result? = some t) :
    ∃ u : Tree .type, u.lexemes = xs ∧ u.meaning = t := by
  cases h with
  | expecting h => simp [Level.result?] at result
  | applying h b =>
    obtain ⟨u, lexemes, meaning⟩ := h.exists_type (.plain b)
    refine ⟨u, lexemes, meaning.trans ?_⟩
    simpa [Level.result?, Tree.meaning] using result

end Level.ReadFrom

namespace Reading.ReadFrom

variable {r r' : Reading} {xs : List Lexeme} {x : Lexeme}

theorem start : ReadFrom .start [] := ⟨[], [], .nil, .start, rfl⟩

/-- A reading in which an operand is complete: it stands in the level around it. -/
theorem close {l : Level} {os : List Opening} {ys zs : List Lexeme} (h : OpeningsFrom os ys) (hl : l.ReadFrom zs)
    (a : Tree .atype) : ReadFrom ⟨l.operand a.meaning, os⟩ (ys ++ (zs ++ a.lexemes)) :=
  ⟨ys, zs ++ a.lexemes, h, hl.operand a, rfl⟩

theorem take? (h : r.ReadFrom xs) (taken : r.take? x = some r') : r'.ReadFrom (xs ++ [x]) := by
  -- A closing bracket makes one operand of all that was taken since the opening; the others extend the level.
  obtain ⟨l, os⟩ := r
  obtain ⟨ys, zs, hos, hl, rfl⟩ := h
  simp only at hos hl
  cases x with
  | ident name =>
    obtain rfl := Option.some.inj taken
    by_cases v : isVariableName name = true
    · simpa [named, v, Tree.lexemes, Tree.meaning] using close hos hl (.var name v)
    · simpa [named, v, Tree.lexemes, Tree.meaning] using close hos hl (.con name (by simpa using v))
  | arrow =>
    cases hl with
    | expecting => simp [Reading.take?] at taken
    | applying h b =>
      obtain rfl := Option.some.inj taken
      exact ⟨ys, _, hos, .expecting (h.cons b), by simp⟩
  | implies => simp [Reading.take?] at taken
  | leftParen =>
    obtain rfl := Option.some.inj taken
    exact ⟨_, [], .paren hos hl .nil, .start, by simp⟩
  | leftBracket =>
    obtain rfl := Option.some.inj taken
    exact ⟨_, [], .bracket hos hl, .start, by simp⟩
  | rightParen =>
    cases hos with
    | nil => simp [Reading.take?] at taken
    | bracket => simp [Reading.take?] at taken
    | @paren os outer parts ys ws vs hos outerFrom partsFrom =>
      simp only [Reading.take?] at taken
      split at taken
      next empty =>
        obtain ⟨rfl, rfl⟩ := empty
        obtain rfl := Option.some.inj taken
        cases partsFrom
        obtain rfl := hl.eq_nil
        simpa [Tree.lexemes, Tree.meaning, TypeExpr.unitCon] using close hos outerFrom .unit
      next =>
        obtain ⟨t, result, rfl⟩ := Option.map_eq_some_iff.1 taken
        obtain ⟨u, rfl, rfl⟩ := hl.exists_type result
        obtain ⟨v, vs', lexemes, meaning⟩ := partsFrom.exists_types u .noPart
        have closed := close hos outerFrom (.paren v vs')
        rw [Tree.meaning_paren, meaning, Tree.lexemes, lexemes] at closed
        simpa [Tree.lexemes, Tree.meaning] using closed
  | rightBracket =>
    cases hos with
    | nil => simp [Reading.take?] at taken
    | paren => simp [Reading.take?] at taken
    | bracket hos outerFrom =>
      simp only [Reading.take?] at taken
      split at taken
      next empty =>
        subst empty
        obtain rfl := Option.some.inj taken
        obtain rfl := hl.eq_nil
        simpa [Tree.lexemes, Tree.meaning, TypeExpr.listCon] using close hos outerFrom .nil
      next =>
        obtain ⟨t, result, rfl⟩ := Option.map_eq_some_iff.1 taken
        obtain ⟨u, rfl, rfl⟩ := hl.exists_type result
        simpa [Tree.lexemes, Tree.meaning, TypeExpr.listOf, TypeExpr.listCon] using close hos outerFrom (.list u)
  | comma =>
    cases hos with
    | nil => simp [Reading.take?] at taken
    | bracket => simp [Reading.take?] at taken
    | paren hos outerFrom partsFrom =>
      obtain ⟨t, result, rfl⟩ := Option.map_eq_some_iff.1 taken
      obtain ⟨u, rfl, rfl⟩ := hl.exists_type result
      exact ⟨_, [], .paren hos outerFrom (partsFrom.cons u), .start, by simp⟩

theorem takes? {ys : List Lexeme} (h : r.ReadFrom xs) (taken : r.takes? ys = some r') : r'.ReadFrom (xs ++ ys) := by
  induction ys generalizing r xs with
  | nil =>
    obtain rfl := Option.some.inj taken
    simpa using h
  | cons y ys ih =>
    rw [takes?_cons] at taken
    obtain ⟨next, hnext, rest⟩ := Option.bind_eq_some_iff.1 taken
    simpa using ih (h.take? hnext) rest

end Reading.ReadFrom

/-- The types that are read are those that the grammar derives. -/
theorem readType_eq_ok_iff {ts : List Token} {length : Nat} {t : TypeExpr String} :
    readType ts length = .ok t ↔ ∃ u : Tree .type, u.lexemes = ts.map (·.lexeme) ∧ u.meaning = t := by
  rw [readType_eq_ok_iff_takes?]
  constructor
  · rintro ⟨l, taken, result⟩
    obtain ⟨ys, zs, hos, hl, e⟩ := Reading.ReadFrom.start.takes? taken
    cases hos
    obtain ⟨u, rfl, rfl⟩ := hl.exists_type result
    exact ⟨u, by simpa using e.symm, rfl⟩
  · rintro ⟨u, lexemes, rfl⟩
    rw [← lexemes]
    exact u.isTaken [] []

end BlockTypes.Signature
