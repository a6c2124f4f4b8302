import BlockTypes.Proofs.Check.Stuck
import BlockTypes.Proofs.Session.Basic

/-!
# Type errors last

An expression whose type could not be found has none ever after. Whatever is done in the session, a
further attempt fails at the same application; and when it follows at once, it fails for the same kind
of reason and has no effect but a few variables that nothing refers to (`error_lasts`).
-/

namespace BlockTypes

/-- Finding the type of the expression fails with the error, and a check reports that error. -/
def Workspace.Rejects (w : Workspace) (e : Expr) (error : TypeError) : Prop :=
  (w.findType e).result = .error (.type error) ∧ (w.check e).result = .ok (.failed error)

namespace Workspace

variable {w : Workspace} {e : Expr} {error : TypeError}

theorem check_failed_iff :
    (w.check e).result = .ok (.failed error) ↔ (w.findType e).result = .error (.type error) := by
  refine ⟨fun h => ?_, check_failed⟩
  unfold check at h
  dsimp only at h
  split at h <;> simp_all

theorem rejects_iff : w.Rejects e error ↔ (w.findType e).result = .error (.type error) :=
  ⟨fun h => h.1, fun h => ⟨h, check_failed h⟩⟩

end Workspace

namespace Session

variable {s s' : Session} {d e : Expr}

theorem Effect.blocks (h : Effect s s') (he : e ∈ s.blocks) : e ∈ s'.blocks := by
  cases h with
  | block => exact List.mem_cons_of_mem _ he
  | _ => exact he

/-- No operation frees an expression that is stuck. -/
theorem Effect.stuck (h : Effect s s') (hs : s.Orderly) (he : e ∈ s.blocks)
    (hstuck : s.workspace.Stuck d e) : s'.workspace.Stuck d e := by
  have hev := h.evolves hs
  cases h with
  | nothing => exact hstuck
  | move moves => exact hstuck.evolves hs.inOrder.wellFormed hev rfl
  | catalog grows => exact hstuck.evolves hs.inOrder.wellFormed hev rfl
  | block node => exact hstuck.evolves hs.inOrder.wellFormed hev rfl
  | unify left right => exact hstuck.evolves hs.inOrder.wellFormed hev rfl
  | @find c made =>
    exact (s.workspace.findType_finds c).keeps_stuck hs.pool made hs.inOrder (hs.within c made) hstuck he

theorem Orderly.stuck_run (hs : s.Orderly) (he : e ∈ s.blocks) (hstuck : s.workspace.Stuck d e)
    {ops : List Op} (legal : s.Legal ops) : (s.run ops).workspace.Stuck d e := by
  induction ops generalizing s with
  | nil => exact hstuck
  | cons op ops ih =>
    have heffect := hs.effect legal.1
    exact ih (hs.perform legal.1) (heffect.blocks he) (heffect.stuck hs he hstuck) legal.2

/-- After a failure the expression is stuck at the application that the error names. -/
theorem Orderly.exists_stuck (hs : s.Orderly) (he : e ∈ s.blocks) {error : TypeError}
    (failed : (s.workspace.findType e).result = .error (.type error)) :
    ∃ n f x, error.expression = some (.apply n f x) ∧
      (s.perform (.findType e)).workspace.Stuck (.apply n f x) e := by
  obtain ⟨m, n, f, x, tf, tx, cause, hclash, hstuck, hm, hcause⟩ :=
    (s.workspace.findType_finds e).exists_stuck hs.pool he hs.inOrder (hs.within e he) failed
  cases hcause
  refine ⟨n, f, x, rfl, ?_⟩
  show (s.workspace.findType e).workspace.Stuck _ e
  rw [hm]
  exact hstuck.after_clash hclash

theorem perform_attempt {attempt : Op} (h : attempt ∈ [Op.findType e, .check e]) :
    s.perform attempt = s.perform (.findType e) := by
  rcases List.mem_pair.1 h with rfl | rfl
  · rfl
  · exact adopt_check s e

/-- When finding or checking the type of an expression fails, the error names an application. After this
attempt and any further operations, another one fails at the same application. If it follows at once,
its error is of the same kind, no type is kept, and all cells are as they were: new cells are neither
bound nor merged with others. -/
theorem error_lasts (s : Session) (hs : s.Orderly) (e : Expr) (he : e ∈ s.blocks) (error : TypeError)
    (failed : (s.workspace.findType e).result = .error (.type error) ∨
      (s.workspace.check e).result = .ok (.failed error)) :
    ∃ n f x, error.expression = some (.apply n f x) ∧ ∀ attempt ∈ [Op.findType e, .check e],
      (∀ ops, (s.perform attempt).Legal ops →
        ∃ error', ((s.perform attempt).run ops).workspace.Rejects e error' ∧
          error'.expression = some (.apply n f x)) ∧
      ∃ error', (s.perform attempt).workspace.Rejects e error' ∧
        error'.expression = some (.apply n f x) ∧ error'.kind = error.kind ∧
        ∀ again ∈ [Op.findType e, .check e],
          (s.perform attempt).store.Extends ((s.perform attempt).perform again).store ∧
          ((s.perform attempt).perform again).workspace.found = (s.perform attempt).workspace.found := by
  have failed : (s.workspace.findType e).result = .error (.type error) :=
    failed.elim id Workspace.check_failed_iff.1
  obtain ⟨n, f, x, hexpr, hstuck⟩ := hs.exists_stuck he failed
  have hnext : (s.perform (.findType e)).Orderly := hs.perform he
  refine ⟨n, f, x, hexpr, fun attempt hattempt => ?_⟩
  rw [perform_attempt hattempt]
  have hfails : ∀ ops, (s.perform (.findType e)).Legal ops →
      ∃ error', ((s.perform (.findType e)).run ops).workspace.Rejects e error' ∧
        error'.expression = some (.apply n f x) := by
    intro ops legal
    obtain ⟨error', hresult, hexpr'⟩ :=
      (hnext.stuck_run he hstuck legal).findType_failed (hnext.run legal).inOrder
    exact ⟨error', Workspace.rejects_iff.2 hresult, hexpr'⟩
  refine ⟨hfails, ?_⟩
  obtain ⟨error₁, hrejects, hexpr₁⟩ := hfails [] trivial
  obtain ⟨error₂, hresult, hkind, hext, hfound⟩ :=
    Workspace.findType_retry hs.pool he hs.inOrder (hs.within e he) failed
  obtain rfl : error₁ = error₂ := by
    have := hrejects.1.symm.trans hresult
    cases this
    rfl
  refine ⟨error₁, hrejects, hexpr₁, hkind, fun again hagain => ?_⟩
  rw [perform_attempt hagain]
  exact ⟨hext, hfound⟩

/-- A function of functions from a type to itself is applied to one from integers to truth values. The
attempt binds the variable to integers before it fails, and later operations add to that. -/
theorem error_lasts_after_binding :
    let b : TypeVar := ⟨"b", 0⟩
    let f : Expr := .ident 0 "f" (.arrow (.arrow (.var b) (.var b)) (.con "Int"))
    let even : Expr := .value 1 (.arrow (.con "Int") (.con "Bool")) "even"
    let e : Expr := .apply 2 f even
    let s := start.run [.newVar "b" ∅, .ident "f" (.arrow (.arrow (.var b) (.var b)) (.con "Int")),
      .value (.arrow (.con "Int") (.con "Bool")) "even", .apply f even]
    let ops : List Op := [.check e, .unify none (.var b) (.con "Bool"), .findType f]
    (s.perform (.check e)).Legal ops ∧ (s.perform (.check e)).store.bound? 1 = some (.con "Int") ∧
      ∃ error error', (s.workspace.check e).result = .ok (.failed error) ∧ error.kind = .mismatch ∧
        error.expression = some e ∧ ((s.perform (.check e)).run ops).workspace.Rejects e error' ∧
        error'.expression = some e ∧
        (s.perform (.check e)).store.Extends ((s.perform (.check e)).perform (.findType e)).store := by
  intro b f even e s ops
  have hs : s.Orderly := (proper_start.run (by decide +kernel)).orderly
  have legal : (s.perform (.check e)).Legal ops := by decide +kernel
  have failed : (s.workspace.check e).result = .ok (.failed ⟨.mismatch, "Int ⊥ Bool", some e⟩) := by
    decide +kernel
  obtain ⟨n, g, x, hexpr, hlasts⟩ := error_lasts s hs e (by decide +kernel) _ (.inr failed)
  obtain ⟨hlater, -, -, -, -, hsame⟩ := hlasts (.check e) (by simp)
  obtain ⟨error', hrejects, hexpr'⟩ := hlater ops legal
  exact ⟨legal, by decide +kernel, _, error', failed, rfl, rfl, hrejects, hexpr'.trans hexpr.symm,
    (hsame (.findType e) (by simp)).1⟩

end Session

end BlockTypes
