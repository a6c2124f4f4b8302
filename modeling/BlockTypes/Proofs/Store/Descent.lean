import BlockTypes.Proofs.Store.Write

/-!
# One graph for the occurs check and for resolving

Both go down from a type: to its parts, and from a bound variable to what it stands for. `Descends` is
one such step, and what can be reached by any number of them is what the occurs check finds.
`ResolvesTo` and `Searches` are the two recursions as they are meant, with nothing that bounds them; in
a well-formed store both come to an end from every type, with the answers of `resolve` and `occurs`.
What is left of a type when it is resolved are the classes that the occurs check finds in it and that
are unbound (`WellFormed.resolve_agrees_occurs`).
-/

namespace BlockTypes.Store

open Relation

variable {s : Store} {t u : Ty} {v w : TypeVar} {c : CellId}

/-- One step down from a type. -/
inductive Descends (s : Store) : Ty → Ty → Prop
  | argument {a b : Ty} : Descends s (.arrow a b) a
  | result {a b : Ty} : Descends s (.arrow a b) b
  | function {t a : Ty} : Descends s (.app t a) t
  | operand {t a : Ty} : Descends s (.app t a) a
  | binding {v : TypeVar} {t : Ty} (bound : s.bound? v.cell = some t) : Descends s (.var v) t

/-- Some number of steps down from the type lead to a variable of the class of `c`. -/
def Reaches (s : Store) (t : Ty) (c : CellId) : Prop :=
  ∃ w : TypeVar, ReflTransGen s.Descends t (.var w) ∧ s.root w.cell = s.root c

/-- Bound variables are replaced by what they stand for, all the way down. -/
inductive ResolvesTo (s : Store) : Ty → Ty → Prop
  | unbound {v : TypeVar} (unbound : s.bound? v.cell = none) : ResolvesTo s (.var v) (.var v)
  | bound {v : TypeVar} {t u : Ty} (bound : s.bound? v.cell = some t) (next : ResolvesTo s t u) :
      ResolvesTo s (.var v) u
  | con {name : String} : ResolvesTo s (.con name) (.con name)
  | arrow {a a' b b' : Ty} (argument : ResolvesTo s a a') (result : ResolvesTo s b b') :
      ResolvesTo s (.arrow a b) (.arrow a' b')
  | app {t t' a a' : Ty} (function : ResolvesTo s t t') (operand : ResolvesTo s a a') :
      ResolvesTo s (.app t a) (.app t' a')

/-- The class of `c` is searched for in a type from left to right, until it is found. -/
inductive Searches (s : Store) (c : CellId) : Ty → Bool → Prop
  | here {w : TypeVar} (same : s.root w.cell = s.root c) : Searches s c (.var w) true
  | bound {w : TypeVar} {t : Ty} {found : Bool} (differ : s.root w.cell ≠ s.root c)
      (bound : s.bound? w.cell = some t) (next : Searches s c t found) : Searches s c (.var w) found
  | unbound {w : TypeVar} (differ : s.root w.cell ≠ s.root c) (unbound : s.bound? w.cell = none) :
      Searches s c (.var w) false
  | con {name : String} : Searches s c (.con name) false
  | argument {a b : Ty} (found : Searches s c a true) : Searches s c (.arrow a b) true
  | result {a b : Ty} {found : Bool} (missed : Searches s c a false) (next : Searches s c b found) :
      Searches s c (.arrow a b) found
  | function {t a : Ty} (found : Searches s c t true) : Searches s c (.app t a) true
  | operand {t a : Ty} {found : Bool} (missed : Searches s c t false) (next : Searches s c a found) :
      Searches s c (.app t a) found

/-! ## What a type contains, part by part -/

theorem not_contains_con (s : Store) (name : String) (c : CellId) :
    ¬ s.Contains (.con name) c := by
  rintro ⟨v, hv, -⟩
  cases hv

theorem contains_arrow {a b : Ty} :
    s.Contains (.arrow a b) c ↔ s.Contains a c ∨ s.Contains b c := by
  simp [Contains, TypeExpr.vars, or_and_right, exists_or]

theorem contains_app {a : Ty} : s.Contains (.app t a) c ↔ s.Contains t c ∨ s.Contains a c := by
  simp [Contains, TypeExpr.vars, or_and_right, exists_or]

theorem contains_unbound (h : s.bound? w.cell = none) :
    s.Contains (.var w) c ↔ s.root w.cell = s.root c := by
  simp [contains_var_iff, leads_trans_iff, h]

theorem contains_bound (h : s.bound? w.cell = some t) :
    s.Contains (.var w) c ↔ s.root w.cell = s.root c ∨ s.Contains t c := by
  simp [contains_var_iff, leads_trans_iff, h]

theorem Descends.contains (h : s.Descends t u) (hu : s.Contains u c) : s.Contains t c := by
  cases h with
  | argument => exact contains_arrow.2 (.inl hu)
  | result => exact contains_arrow.2 (.inr hu)
  | function => exact contains_app.2 (.inl hu)
  | operand => exact contains_app.2 (.inr hu)
  | binding bound => exact (contains_bound bound).2 (.inr hu)

theorem Reaches.head (h : s.Descends t u) (hu : s.Reaches u c) : s.Reaches t c := by
  obtain ⟨w, hw, hroot⟩ := hu
  exact ⟨w, .head h hw, hroot⟩

/-- What a type contains is what steps down from it lead to. -/
theorem WellFormed.contains_iff_reaches (hs : s.WellFormed) : s.Contains t c ↔ s.Reaches t c := by
  constructor
  · intro h
    induction t using hs.through with
    | unbound v hv => exact ⟨v, .refl, (contains_unbound hv).1 h⟩
    | bound v t hv ih =>
      rcases (contains_bound hv).1 h with hroot | ht
      · exact ⟨v, .refl, hroot⟩
      · exact (ih ht).head (.binding hv)
    | con name => exact absurd h (not_contains_con s name c)
    | arrow a b iha ihb =>
      rcases contains_arrow.1 h with ha | hb
      · exact (iha ha).head .argument
      · exact (ihb hb).head .result
    | app t a iht iha =>
      rcases contains_app.1 h with ht | ha
      · exact (iht ht).head .function
      · exact (iha ha).head .operand
  · rintro ⟨w, hsteps, hroot⟩
    induction hsteps using ReflTransGen.head_induction_on with
    | refl => exact ⟨w, by simp [TypeExpr.vars], .inl hroot⟩
    | head step _ ih => exact step.contains ih

/-! ## The recursions end -/

theorem WellFormed.resolvesTo_resolve (hs : s.WellFormed) (t : Ty) : s.ResolvesTo t (s.resolve t) := by
  induction t using hs.through with
  | unbound v hv =>
    rw [hs.resolve_unbound hv]
    exact .unbound hv
  | bound v t hv ih =>
    rw [hs.resolve_bound hv]
    exact .bound hv ih
  | con name =>
    rw [resolve_con]
    exact .con
  | arrow a b iha ihb =>
    rw [resolve_arrow]
    exact .arrow iha ihb
  | app t a iht iha =>
    rw [resolve_app]
    exact .app iht iha

theorem ResolvesTo.unique {u' : Ty} (h : s.ResolvesTo t u) (h' : s.ResolvesTo t u') : u = u' := by
  induction h generalizing u' with
  | unbound hv =>
    cases h' with
    | unbound => rfl
    | bound hb => simp [hv] at hb
  | bound hb _ ih =>
    cases h' with
    | unbound hv => simp [hv] at hb
    | bound hb' next' =>
      cases hb.symm.trans hb'
      exact ih next'
  | con =>
    cases h'
    rfl
  | arrow _ _ iha ihb =>
    cases h' with
    | arrow argument result => rw [iha argument, ihb result]
  | app _ _ iht iha =>
    cases h' with
    | app function operand => rw [iht function, iha operand]

/-- A search finds what the type contains. -/
theorem Searches.eq_true_iff {found : Bool} (h : s.Searches c t found) :
    found = true ↔ s.Contains t c := by
  induction h with
  | here same => simp [contains_var_iff, same]
  | bound differ hb _ ih => rw [ih, contains_bound hb, or_iff_right differ]
  | unbound differ hu => simp [contains_unbound hu, differ]
  | con => simp [not_contains_con]
  | argument _ ih => simp [contains_arrow, ih.1 rfl]
  | result _ _ ihm ih =>
    rw [ih, contains_arrow, or_iff_right (mt ihm.2 Bool.false_ne_true)]
  | function _ ih => simp [contains_app, ih.1 rfl]
  | operand _ _ ihm ih =>
    rw [ih, contains_app, or_iff_right (mt ihm.2 Bool.false_ne_true)]

theorem WellFormed.exists_searches (hs : s.WellFormed) (c : CellId) (t : Ty) :
    ∃ found, s.Searches c t found := by
  induction t using hs.through with
  | unbound v hv =>
    by_cases hroot : s.root v.cell = s.root c
    · exact ⟨true, .here hroot⟩
    · exact ⟨false, .unbound hroot hv⟩
  | bound v t hv ih =>
    by_cases hroot : s.root v.cell = s.root c
    · exact ⟨true, .here hroot⟩
    · obtain ⟨found, ht⟩ := ih
      exact ⟨found, .bound hroot hv ht⟩
  | con name => exact ⟨false, .con⟩
  | arrow a b iha ihb =>
    obtain ⟨found, ha⟩ := iha
    obtain ⟨found', hb⟩ := ihb
    cases found with
    | true => exact ⟨true, .argument ha⟩
    | false => exact ⟨found', .result ha hb⟩
  | app t a iht iha =>
    obtain ⟨found, ht⟩ := iht
    obtain ⟨found', ha⟩ := iha
    cases found with
    | true => exact ⟨true, .function ht⟩
    | false => exact ⟨found', .operand ht ha⟩

theorem WellFormed.searches_iff (hs : s.WellFormed) {found : Bool} :
    s.Searches v.cell t found ↔ found = s.occurs v t := by
  have answer : ∀ {b}, s.Searches v.cell t b → b = s.occurs v t := fun h =>
    Bool.eq_iff_iff.2 (h.eq_true_iff.trans (hs.grounded.occurs_iff v t).symm)
  constructor
  · exact answer
  · rintro rfl
    obtain ⟨b, hb⟩ := hs.exists_searches v.cell t
    exact answer hb ▸ hb

/-! ## What is left when a type is resolved -/

theorem WellFormed.resolve_resolve (hs : s.WellFormed) (t : Ty) :
    s.resolve (s.resolve t) = s.resolve t :=
  resolve_of_unbound (hs.unbound_of_mem_resolve t)

/-- The classes left in a resolved type are those unbound ones that the type contains. -/
theorem WellFormed.mem_resolve_iff (hs : s.WellFormed) (t : Ty) (c : CellId) :
    (∃ w ∈ (s.resolve t).vars, s.root w.cell = s.root c) ↔ s.bound? c = none ∧ s.Contains t c := by
  induction t using hs.through with
  | unbound v hv =>
    rw [hs.resolve_unbound hv, contains_unbound hv]
    simp only [TypeExpr.vars, List.mem_singleton, exists_eq_left]
    exact (and_iff_right_of_imp fun hroot => (bound?_congr hroot).symm.trans hv).symm
  | bound v t hv ih =>
    rw [hs.resolve_bound hv, ih, contains_bound hv]
    refine and_congr_right fun hc => (or_iff_right fun hroot => ?_).symm
    rw [bound?_congr hroot, hc] at hv
    cases hv
  | con name => simp [TypeExpr.vars, not_contains_con]
  | arrow a b iha ihb =>
    rw [resolve_arrow, contains_arrow, and_or_left, ← iha, ← ihb]
    simp [TypeExpr.vars, or_and_right, exists_or]
  | app t a iht iha =>
    rw [resolve_app, contains_app, and_or_left, ← iht, ← iha]
    simp [TypeExpr.vars, or_and_right, exists_or]

/-- In a well-formed store, resolving a type and looking for a variable in it both end. The occurs check
finds exactly the classes, bound or not, that steps down from the type lead to, and what is left of the
type when it is resolved are exactly the unbound ones among these. -/
theorem WellFormed.resolve_agrees_occurs (s : Store) (t : Ty) (hs : s.WellFormed) :
    (∀ u, s.ResolvesTo t u ↔ u = s.resolve t) ∧
      (∀ v found, s.Searches v.cell t found ↔ found = s.occurs v t) ∧
      (∀ v, s.occurs v t = true ↔ s.Reaches t v.cell) ∧
      (∀ v ∈ (s.resolve t).vars, s.bound? v.cell = none) ∧
      s.resolve (s.resolve t) = s.resolve t ∧
      ∀ v : TypeVar, (∃ w ∈ (s.resolve t).vars, s.root w.cell = s.root v.cell) ↔
        s.bound? v.cell = none ∧ s.occurs v t = true := by
  have hresolves := hs.resolvesTo_resolve t
  refine ⟨fun u => ⟨fun hu => hu.unique hresolves, fun hu => hu ▸ hresolves⟩,
    fun v found => hs.searches_iff, fun v => ?_, hs.unbound_of_mem_resolve t, hs.resolve_resolve t,
    fun v => ?_⟩
  · rw [hs.grounded.occurs_iff, hs.contains_iff_reaches]
  · rw [hs.grounded.occurs_iff, hs.mem_resolve_iff]

/-- Two merged variables are reached behind two bindings, one inside the other. The inner bound variable is
found as well, and is not left; the variable that stands for nothing and is not inside is neither. -/
theorem resolve_agrees_occurs_nested :
    let x : TypeVar := ⟨"x", 0⟩
    let y : TypeVar := ⟨"y", 1⟩
    let xs : TypeVar := ⟨"xs", 2⟩
    let f : TypeVar := ⟨"f", 3⟩
    let z : TypeVar := ⟨"z", 4⟩
    let made := (((((∅ : Store).push ∅).push ∅).push ∅).push ∅).push ∅
    let listed := (made.join 0 1).assign 2 (.listOf (.var x))
    let s := listed.assign 3 (.arrow (.var xs) (.var y))
    let t : Ty := .app (.con "Maybe") (.var f)
    s.WellFormed ∧
      s.ResolvesTo t (.app (.con "Maybe") (.arrow (.listOf (.var x)) (.var y))) ∧
      s.Searches y.cell t true ∧ s.Searches z.cell t false ∧
      s.Reaches t xs.cell ∧ ¬ s.Reaches t z.cell ∧
      (∃ w ∈ (s.resolve t).vars, s.root w.cell = s.root y.cell) ∧
      ¬ ∃ w ∈ (s.resolve t).vars, s.root w.cell = s.root xs.cell := by
  intro x y xs f z made listed s t
  have hmade : made.WellFormed :=
    (extends_push _ ∅).wellFormed ((extends_push _ ∅).wellFormed ((extends_push _ ∅).wellFormed
      ((extends_push _ ∅).wellFormed ((extends_push _ ∅).wellFormed wellFormed_empty))))
  have hjoin : (made.join 0 1).WellFormed := hmade.join (by decide) (by decide) (by decide)
  have hlisted : listed.WellFormed :=
    hjoin.assign (by decide) (by decide) (by simp [TypeExpr.listOf]) (by decide)
      (mt (hjoin.grounded.occurs_iff xs _).2 (by decide))
  have hs : s.WellFormed :=
    hlisted.assign (by decide) (by decide) (by simp) (by decide)
      (mt (hlisted.grounded.occurs_iff f _).2 (by decide +kernel))
  obtain ⟨resolves, searches, reaches, -, -, left⟩ := WellFormed.resolve_agrees_occurs s t hs
  refine ⟨hs, (resolves _).2 (by decide +kernel), (searches y _).2 (by decide +kernel),
    (searches z _).2 (by decide +kernel), (reaches xs).1 (by decide +kernel),
    mt (reaches z).2 (by decide +kernel), (left y).2 (by decide +kernel),
    mt (left xs).1 (by decide +kernel)⟩

end BlockTypes.Store
