import BlockTypes.Check
import BlockTypes.Proofs.Store.Solution
import BlockTypes.Proofs.Unify.Depth

/-!
# Unification is most general

Unification keeps the solutions of a store that make the two types equal, and no others. A run that
succeeds leaves a store with exactly these solutions; a run that fails shows that there are none
(`unify_most_general`). Both are proved of one call with what is assumed of the calls below it: the
second part of an arrow or an application is met in the store that the first part has left, whose
solutions are those of the first equation.
-/

namespace BlockTypes

namespace Store

variable {s s' : Store} {again : Store → Ty → Ty → Outcome} {P : CellId → Prop} {a b : Ty}

/-- After a success all solutions make the two types equal, and no solution that does is lost;
if there is one, the types are not found to differ. -/
structure Solved (s : Store) (a b : Ty) (o : Outcome) : Prop where
  sound : o.failure = none → ∀ {ν : Type} {κ : ν → ConstraintSet} {σ : CellId → TypeExpr ν},
    Solves κ o.store σ → a.image σ = b.image σ
  complete : ∀ {ν : Type} {κ : ν → ConstraintSet} {σ : CellId → TypeExpr ν}, Solves κ s σ →
    a.image σ = b.image σ → Solves κ o.store σ ∧ ∀ cause, o.failure ≠ some (.type cause)

theorem Solved.refuse {event : Event} {cause : Cause}
    (h : ∀ {ν : Type} {κ : ν → ConstraintSet} {σ : CellId → TypeExpr ν}, Solves κ s σ →
      a.image σ ≠ b.image σ) : Solved s a b (.refuse s event cause) :=
  ⟨fun he => (by cases he), fun hσ he => absurd he (h hσ)⟩

theorem Solved.done
    (h : ∀ {ν : Type} {κ : ν → ConstraintSet} {σ : CellId → TypeExpr ν},
      Solves κ s' σ ↔ Solves κ s σ ∧ a.image σ = b.image σ) : Solved s a b (.done s') :=
  ⟨fun _ _ _ _ hσ => (h.1 hσ).2, fun hσ he => ⟨h.2 ⟨hσ, he⟩, fun _ hc => by cases hc⟩⟩

theorem Solved.swap {o : Outcome} (h : Solved s a b o) : Solved s b a o :=
  ⟨fun hf _ _ _ hσ => (h.sound hf hσ).symm, fun hσ he => h.complete hσ he.symm⟩

/-- A type may be exchanged for one that has the same image under all solutions. -/
theorem Solved.congr {o : Outcome} {t : Ty} (h : Solved s t b o) (hw : Writes P s o.store)
    (hs : s.WellFormed)
    (heq : ∀ {ν : Type} {κ : ν → ConstraintSet} {σ : CellId → TypeExpr ν}, Solves κ s σ →
      a.image σ = t.image σ) : Solved s a b o where
  sound hf _ _ _ hσ := by
    have hbefore := hσ.of_grows (Writes.grows hw) (Writes.wellFormed hw hs)
    rw [heq hbefore]
    exact h.sound hf hσ
  complete hσ he := h.complete hσ (by rw [← heq hσ, he])

/-- Two equations, the second in the store that the first has left. -/
theorem Solved.andThen {o : Outcome} {next : Store → Outcome} {a₁ a₂ b₁ b₂ : Ty}
    (h₁ : Solved s a₁ b₁ o) (h₂ : Solved o.store a₂ b₂ (next o.store))
    (hw : Writes P o.store (next o.store).store) (hs : o.store.WellFormed)
    (hparts : ∀ {ν : Type} (σ : CellId → TypeExpr ν), a.image σ = b.image σ ↔
      a₁.image σ = b₁.image σ ∧ a₂.image σ = b₂.image σ) : Solved s a b (o.andThen next) := by
  cases hf : o.failure with
  | some f =>
    rw [Outcome.andThen_of_failure hf]
    refine ⟨fun he => ?_, fun hσ he => h₁.complete hσ ((hparts _).1 he).1⟩
    rw [hf] at he
    cases he
  | none =>
    rw [Outcome.andThen_of_success hf]
    refine ⟨fun hf' _ _ σ hσ => ?_, fun hσ he => ?_⟩
    · have hbetween := hσ.of_grows (Writes.grows hw) (Writes.wellFormed hw hs)
      exact (hparts σ).2 ⟨h₁.sound hf hbetween, h₂.sound hf' hσ⟩
    · obtain ⟨he₁, he₂⟩ := (hparts _).1 he
      exact h₂.complete (h₁.complete hσ he₁).1 he₂

theorem VarStep.solved {v : TypeVar} {o : Outcome} (step : VarStep again s v b o)
    (h : Prepared P s (.var v) b) (hs : s.WellFormed) (differ : ¬ s.Same (.var v) b)
    (runs : ∀ a b, Prepared P s a b → Runs P s (again s a b))
    (ih : ∀ a b, Prepared P s a b → Solved s a b (again s a b)) : Solved s (.var v) b o := by
  have hv : v.cell < s.size := (h.left v (by simp [TypeExpr.vars])).1
  cases step with
  | recursive occurs =>
    exact .refuse fun hσ => hσ.ne_of_contains hs ((hs.grounded.occurs_iff v b).1 occurs) differ
  | follow bound =>
    have hready := h.follow bound
    exact (ih _ _ hready).congr (runs _ _ hready).writes hs fun hσ => hσ.bound _ _ bound
  | @followOther w u unbound bound =>
    have hready := (h.swap.follow bound).swap
    have hsolved : Solved s (.var w) (.var v) (again s (.var v) u) :=
      (ih _ _ hready).swap.congr (runs _ _ hready).writes hs fun hσ => hσ.bound _ _ bound
    exact hsolved.swap
  | merge unbound other apart =>
    refine .done ?_
    intro ν κ σ
    rw [solves_join_iff hs apart other unbound]
    exact and_congr_right fun _ => eq_comm
  | unsatisfied unbound concrete misfit =>
    refine .refuse ?_
    intro ν κ σ hσ he
    have hfits := hσ.fits v.cell unbound
    rw [show σ v.cell = b.image σ from he] at hfits
    exact not_fits_image concrete misfit hfits
  | bind unbound concrete fits clear =>
    have hapart : ¬ s.Contains b v.cell := by
      rw [← hs.grounded.occurs_iff, clear]
      simp
    exact .done (solves_assign_iff hs hv unbound h.right.inStore concrete fits hapart)

theorem unifyWithin_solved {n : Nat} (h : Prepared P s a b) (hs : s.WellFormed) :
    Solved s a b (unifyWithin n s a b) := by
  induction n generalizing s a b with
  | zero =>
    refine ⟨fun hf => ?_, fun hσ _ => ⟨?_, fun cause hf => ?_⟩⟩
    · rw [unifyWithin] at hf
      cases hf
    · rwa [unifyWithin]
    · rw [unifyWithin] at hf
      cases hf
  | succ n ih =>
    obtain ⟨o, step, heq⟩ := unifyWithin_step (n := n) h.left.inStore h.right.inStore
    rw [heq]
    suffices hsolved : Solved s a b o from ⟨hsolved.sound, hsolved.complete⟩
    have runs : ∀ a b, Prepared P s a b → Runs P s (unifyWithin n s a b) :=
      fun a b h => unifyWithin_runs h
    cases step with
    | same same =>
      exact .done ⟨fun hσ => ⟨hσ, hσ.image_eq_of_same same⟩, fun hσ => hσ.1⟩
    | left differ step => exact step.solved h hs differ runs fun a b h => ih h hs
    | right differ concrete step =>
      exact (step.solved h.swap hs differ runs fun a b h => ih h hs).swap
    | mismatch differ => exact .refuse fun _ he => differ (by simpa using he)
    | parts differ pair =>
      obtain ⟨⟨ha₁, ha₂⟩, hb₁, hb₂⟩ := pair.partOf
      have first := (runs _ _ (h.parts ha₁ hb₁)).writes
      have second := (h.parts ha₂ hb₂).writes first
      have hs₁ := Writes.wellFormed first hs
      exact (ih (h.parts ha₁ hb₁) hs).andThen (ih second hs₁) (unifyWithin_runs second).writes hs₁
        fun σ => pair.bind_eq_iff _
    | shape clash => exact .refuse fun _ => clash.bind_ne _

/-- The store is in order, and all cells that the two types lead to are cells of it in `P`. -/
structure Ready (P : CellId → Prop) (s : Store) (a b : Ty) : Prop where
  wellFormed : s.WellFormed
  region : Region P s
  left : s.Within P a
  right : s.Within P b

theorem Ready.prepared (h : Ready P s a b) : Prepared P s a b :=
  ⟨h.wellFormed.grounded, h.region, h.left, h.right⟩

/-- In a well-formed store any two types of it are ready. -/
theorem Ready.ofOver (hs : s.WellFormed) (ha : s.Over a) (hb : s.Over b) :
    Ready (fun _ => True) s a b :=
  ⟨hs, ⟨fun _ => Iff.rfl, fun _ _ _ _ _ _ => trivial⟩, ha.within, hb.within⟩

/-- What is known of unification in a well-formed store, in one place. -/
structure Unified (P : CellId → Prop) (s : Store) (a b : Ty) (o : Outcome) : Prop where
  runs : Runs P s o
  solved : Solved s a b o
  notEndless : o.failure ≠ some .endless
  starts : o.trail.head? = some s

theorem unify_unified (h : Ready P s a b) : Unified P s a b (s.unify a b) where
  runs := unifyWithin_runs h.prepared
  solved := unifyWithin_solved h.prepared h.wellFormed
  notEndless := unify_notEndless h.wellFormed.grounded h.left.inStore h.right.inStore
  starts := head_trail_unifyWithin _ s a b

/-- Unification succeeds or finds that the types differ. -/
theorem Unified.failure_cases {o : Outcome} (h : Unified P s a b o) :
    o.failure = none ∨ ∃ cause, o.failure = some (.type cause) := by
  cases hf : o.failure with
  | none => exact .inl rfl
  | some f =>
    cases f with
    | type cause => exact .inr ⟨cause, rfl⟩
    | misuse e => exact absurd hf (h.runs.noMisuse e)
    | endless => exact absurd hf h.notEndless

theorem Unified.passes {o : Outcome} (h : Unified P s a b o) : Passes P s o.trail := by
  refine ⟨fun m hm => ?_, h.runs.chain.tail.imp fun x y hxy => ⟨y, hxy, .refl y⟩⟩
  rw [h.starts] at hm
  cases hm
  exact .refl s

end Store

namespace Workspace

theorem adopt_result_ok {w : Workspace} {context : Option Expr} {o : Outcome} :
    (w.adopt context o).result = .ok () ↔ o.failure = none := by
  unfold adopt
  cases o.failure <;> simp

theorem adopt_result_type {w : Workspace} {context : Option Expr} {o : Outcome} {e : TypeError} :
    (w.adopt context o).result = .error (.type e) ↔
      ∃ cause, o.failure = some (.type cause) ∧ e = cause.error o.store context := by
  unfold adopt
  cases hf : o.failure with
  | none => simp
  | some f => cases f <;> simp [fault, eq_comm]

/-- Unification of two types of a well-formed store succeeds, and leaves a store whose solutions are
those of the store before that make the types equal; or it ends in a type error, and then the store
before has no such solution. -/
theorem unify_most_general (w : Workspace) (context : Option Expr) (a b : Ty)
    (hw : w.store.WellFormed) (ha : w.store.Over a) (hb : w.store.Over b) :
    ((w.unify context a b).result = .ok () ∨
      ∃ e, (w.unify context a b).result = .error (.type e)) ∧
    ((w.unify context a b).result = .ok () →
      ∀ (ν : Type) (κ : ν → ConstraintSet) (σ : CellId → TypeExpr ν),
        Store.Solves κ (w.unify context a b).workspace.store σ ↔
          Store.Solves κ w.store σ ∧ a.image σ = b.image σ) ∧
    (∀ e, (w.unify context a b).result = .error (.type e) →
      ∀ (ν : Type) (κ : ν → ConstraintSet) (σ : CellId → TypeExpr ν),
        Store.Solves κ w.store σ → a.image σ ≠ b.image σ) := by
  have h := Store.unify_unified (.ofOver hw ha hb)
  refine ⟨?_, fun hok ν κ σ => ?_, fun e he ν κ σ hσ heq => ?_⟩
  · rcases h.failure_cases with hf | ⟨cause, hf⟩
    · exact .inl (adopt_result_ok.2 hf)
    · exact .inr ⟨_, adopt_result_type.2 ⟨cause, hf, rfl⟩⟩
  · have hf := adopt_result_ok.1 hok
    constructor
    · intro hσ
      refine ⟨hσ.of_grows (Store.Writes.grows h.runs.writes) ?_, h.solved.sound hf hσ⟩
      exact Store.Writes.wellFormed h.runs.writes hw
    · rintro ⟨hσ, heq⟩
      exact (h.solved.complete hσ heq).1
  · obtain ⟨cause, hf, -⟩ := adopt_result_type.1 he
    exact (h.solved.complete hσ heq).2 cause hf

/-- A constrained variable is merged with another one, and then bound through it. -/
theorem unify_most_general_merged :
    let num : ConstraintSet := .ofList [⟨"Num", .ofList ["Int"]⟩]
    let w : Workspace := ⟨((∅ : Store).push num).push ∅, 0, []⟩
    let a : Ty := .arrow (.var ⟨"a", 0⟩) (.var ⟨"b", 1⟩)
    let b : Ty := .arrow (.var ⟨"b", 1⟩) (.con "Int")
    (w.store.WellFormed ∧ w.store.Over a ∧ w.store.Over b) ∧ (w.unify none a b).result = .ok () ∧
      ∀ (ν : Type) (κ : ν → ConstraintSet) (σ : CellId → TypeExpr ν),
        Store.Solves κ (w.unify none a b).workspace.store σ ↔
          Store.Solves κ w.store σ ∧ a.image σ = b.image σ := by
  intro num w a b
  have hw : w.store.WellFormed :=
    (Store.extends_push _ ∅).wellFormed ((Store.extends_push _ num).wellFormed Store.wellFormed_empty)
  have ha : w.store.Over a := by decide
  have hb : w.store.Over b := by decide
  have hr : (w.unify none a b).result = .ok () := by decide +kernel
  exact ⟨⟨hw, ha, hb⟩, hr, (unify_most_general w none a b hw ha hb).2.1 hr⟩

end Workspace

end BlockTypes
