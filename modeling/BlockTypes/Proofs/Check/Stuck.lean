import BlockTypes.Proofs.Check.Typing
import BlockTypes.Proofs.Unify.Retry

/-!
# Expressions without a type

Finding the type of an expression fails at an application whose parts have types that do not fit. No
solution of the store makes them fit, and later stores have no more solutions, so that the application
will never get a type, nor will an expression that needs it. `Stuck` says where that is. It is where
finding fails (`Finds.exists_stuck`), it lasts (`Finds.keeps_stuck`), and where it holds finding fails,
there and nowhere else (`Stuck.findType_eq`).
-/

namespace BlockTypes

/-- No solution makes the first type an arrow from the second one. -/
def Store.Unfit (s : Store) (tf tx : Ty) : Prop :=
  ∀ (ν : Type) (κ : ν → ConstraintSet) (σ : CellId → TypeExpr ν), Store.Solves κ s σ →
    ∀ r, tf.image σ ≠ .arrow (tx.image σ) r

theorem Store.Unfit.grows {s s' : Store} {tf tx : Ty} (h : s.Unfit tf tx) (hg : s.Grows s')
    (hs' : s'.WellFormed) : s'.Unfit tf tx :=
  fun ν κ σ hσ => h ν κ σ (hσ.of_grows hg hs')

namespace Workspace

variable {w w' : Workspace} {Z : Zone} {d e : Expr} {f : Finding Ty} {blocks : List Expr} {tf tx : Ty}

/-- Types do not fit exactly if an application whose parts have them fails. -/
theorem InOrder.unfit_iff (h : w.InOrder Z) (hf : w.store.Within Z.cells tf)
    (hx : w.store.Within Z.cells tx) :
    w.store.Unfit tf tx ↔ ∃ cause, (w.meet tf tx).failure = some (.type cause) := by
  have hunified := h.meet hf hx
  constructor
  · intro hunfit
    refine hunified.failure_cases.resolve_left fun hnone => ?_
    have hev := h.meet_evolves hf hx
    have hmet := hev.wellFormed h.wellFormed
    -- A success leaves a store with a solution, which makes the types fit.
    have hσ := Store.solves_spread_var hmet
    exact hunfit _ _ _ (hσ.of_grows hev.grows hmet) _ (hunified.solved.sound hnone hσ)
  · rintro ⟨cause, hcause⟩ ν κ σ hσ r heq
    rw [(h.meet_complete hf hx hσ heq).1] at hcause
    cases hcause

/-- The block is an application without a type. The types of its parts are found, and do not fit. -/
def Impasse (w : Workspace) : Expr → Prop
  | .apply n f x => w.found? n = none ∧ ∃ tf tx, w.found? f.node = some tf ∧
      w.found? x.node = some tx ∧ w.store.Unfit tf tx
  | _ => False

/-- The type of an expression is not found for an impasse at the block `d`, and everything before `d` that
is needed has been found. -/
inductive Stuck (w : Workspace) (d : Expr) : Expr → Prop
  | here (impasse : w.Impasse d) : Stuck w d d
  | function {n : NodeId} {f x : Expr} (new : w.found? n = none) (stuck : Stuck w d f) :
      Stuck w d (.apply n f x)
  | argument {n : NodeId} {f x : Expr} {t : Ty} (new : w.found? n = none)
      (found : w.found? f.node = some t) (stuck : Stuck w d x) : Stuck w d (.apply n f x)

theorem Impasse.new (h : w.Impasse d) : w.found? d.node = none := by
  cases d with
  | value => exact h.elim
  | ident => exact h.elim
  | apply => exact h.1

theorem Stuck.new (h : Stuck w d e) : w.found? e.node = none := by
  cases h with
  | here impasse => exact impasse.new
  | function new => exact new
  | argument new => exact new

theorem not_stuck_value {n : NodeId} {t : Ty} {text : String} : ¬ Stuck w d (.value n t text) := by
  intro h
  cases h with
  | here impasse => exact impasse

theorem not_stuck_ident {n : NodeId} {name : String} {sig : Ty} : ¬ Stuck w d (.ident n name sig) := by
  intro h
  cases h with
  | here impasse => exact impasse

/-! ## Being stuck lasts -/

theorem Impasse.later (h : w.Impasse d) (hs' : w'.store.WellFormed) (hg : w.store.Grows w'.store)
    (hfound : ∀ m t, w.found? m = some t → w'.found? m = some t) (hnew : w'.found? d.node = none) :
    w'.Impasse d := by
  cases d with
  | value => exact h.elim
  | ident => exact h.elim
  | apply n f x =>
    obtain ⟨-, tf, tx, hf, hx, hunfit⟩ := h
    exact ⟨hnew, tf, tx, hfound _ _ hf, hfound _ _ hx, hunfit.grows hg hs'⟩

theorem Stuck.evolves (h : Stuck w d e) (hs : w.store.WellFormed) {P : CellId → Prop}
    (hev : Store.Evolves P w.store w'.store) (hfound : w'.found = w.found) : Stuck w' d e := by
  have hsame : ∀ m, w'.found? m = w.found? m := fun m => by rw [found?, hfound, found?]
  induction h with
  | here impasse =>
    refine .here (impasse.later (hev.wellFormed hs) hev.grows (fun m t ht => ?_) ?_)
    · rw [hsame, ht]
    · rw [hsame, impasse.new]
  | function new _ ih => exact .function ((hsame _).trans new) ih
  | argument new found _ ih => exact .argument ((hsame _).trans new) ((hsame _).trans found) ih

/-- To keep the type of a block that is not stuck itself makes no difference. -/
theorem Stuck.keep (h : Stuck w d e) (hs : w.store.WellFormed) (hb : Pool blocks) (he : e ∈ blocks)
    {c : Expr} (hc : c ∈ blocks) (new : w.found? c.node = none) (hnot : ¬ Stuck w d c) (t : Ty) :
    Stuck (w.keep c.node t) d e := by
  have hstays : ∀ e ∈ blocks, Stuck w d e → (w.keep c.node t).found? e.node = none := by
    intro e he hstuck
    rw [found?_keep, if_neg, hstuck.new]
    intro hnode
    exact hnot (hb.one e he c hc hnode ▸ hstuck)
  have hfound : ∀ m u, w.found? m = some u → (w.keep c.node t).found? m = some u :=
    fun m u hm => found?_keep_of_new new hm
  induction h with
  | here impasse =>
    exact .here (impasse.later hs (.refl _) hfound (hstays d he (.here impasse)))
  | function new' stuck ih =>
    exact .function (hstays _ he (.function new' stuck)) (ih (hb.function he).1)
  | argument new' found stuck ih =>
    exact .argument (hstays _ he (.argument new' found stuck)) (hfound _ _ found) (ih (hb.argument he).1)

/-- Finding the type of any block leaves stuck what is stuck. -/
theorem Finds.keeps_stuck {c : Expr} (h : Finds w c f) (hb : Pool blocks) (hc : c ∈ blocks)
    (hw : w.InOrder Z) (hin : c.Within Z w.store) (hstuck : Stuck w d e) (he : e ∈ blocks) :
    Stuck f.workspace d e := by
  induction h with
  | kept found => exact hstuck
  | value new => exact hstuck.keep hw.wellFormed hb he hc new not_stuck_value _
  | @ident w n name sig new =>
    have hext := Store.instantiate_extends w.store sig
    have hlater : Stuck { w with store := (w.store.instantiate sig).2 } d e :=
      hstuck.evolves hw.wellFormed (.single (hext.move (P := Z.cells))) rfl
    exact hlater.keep (hext.wellFormed hw.wellFormed) hb he hc new not_stuck_ident _
  | function new _ ihf => exact ihf (hb.function hc).1 hw hin.2.1 hstuck
  | argument new function _ ihf ihx =>
    have hf := function.fair hw hin.2.1
    exact ihx (hb.argument hc).1 hf.inOrder (hin.2.2.grows hf.evolves.grows)
      (ihf (hb.function hc).1 hw hin.2.1 hstuck)
  | clash new function argument failed ihf ihx =>
    have hf := function.fair hw hin.2.1
    have hx := argument.fair hf.inOrder (hin.2.2.grows hf.evolves.grows)
    have hparts := ihx (hb.argument hc).1 hf.inOrder (hin.2.2.grows hf.evolves.grows)
      (ihf (hb.function hc).1 hw hin.2.1 hstuck)
    exact hparts.evolves hx.inOrder.wellFormed (hf.meet hx none).2.1 rfl
  | @apply w w₁ w₂ n g x log₁ log₂ tf tx new function argument met ihf ihx =>
    have hf := function.fair hw hin.2.1
    have hx := argument.fair hf.inOrder (hin.2.2.grows hf.evolves.grows)
    have hparts := ihx (hb.argument hc).1 hf.inOrder (hin.2.2.grows hf.evolves.grows)
      (ihf (hb.function hc).1 hw hin.2.1 hstuck)
    obtain ⟨-, hev, hunified⟩ := hf.meet hx none
    have hs := hev.wellFormed hx.inOrder.wellFormed
    have hnew := Finds.new_after_parts hb hc new function argument
    have htf := argument.mono hb (hb.argument hc).1 (function.found rfl)
    have htx := argument.found rfl
    have hmet : Stuck { w₂ with store := (w₂.meet tf tx).store } d e :=
      hparts.evolves hx.inOrder.wellFormed hev rfl
    refine hmet.keep hs hb he hc hnew (fun hstuck' => ?_) _
    -- The application has got a type, so its parts have theirs, and these fit.
    cases hstuck' with
    | here impasse =>
      obtain ⟨-, tf', tx', htf', htx', hunfit⟩ := impasse
      obtain rfl : tf = tf' := Option.some.inj (htf.symm.trans htf')
      obtain rfl : tx = tx' := Option.some.inj (htx.symm.trans htx')
      have hσ := Store.solves_spread_var hs
      exact hunfit _ _ _ hσ _ (hunified.solved.sound met hσ)
    | function _ stuck => exact absurd (htf.symm.trans stuck.new) (by simp)
    | argument _ _ stuck => exact absurd (htx.symm.trans stuck.new) (by simp)

/-! ## Where finding fails -/

/-- The types of the parts of an application are found, and it fails when they meet. -/
structure Clashes (w : Workspace) (f x : Expr) (tf tx : Ty) (cause : Cause) : Prop where
  inOrder : w.InOrder .all
  function : w.found? f.node = some tf
  argument : w.found? x.node = some tx
  failed : (w.meet tf tx).failure = some (.type cause)

/-- When finding fails, it is at an application in the expression. Before the types of its parts met, it
was stuck there, and what it leaves is what their meeting has left. -/
theorem Finds.exists_stuck (h : Finds w e f) (hb : Pool blocks) (he : e ∈ blocks)
    (hw : w.InOrder .all) (hin : e.Within .all w.store) {fault : Fault}
    (hfault : f.result = .error fault) :
    ∃ m n g x tf tx cause, Clashes m g x tf tx cause ∧ Stuck m (.apply n g x) e ∧
      f.workspace = { m with store := (m.meet tf tx).store } ∧
      fault = .type (cause.error (m.meet tf tx).store (some (.apply n g x))) := by
  induction h with
  | kept found => cases hfault
  | value new => cases hfault
  | ident new => cases hfault
  | function new function ihf =>
    obtain ⟨hmem, hlt⟩ := hb.function he
    obtain ⟨m, n, g, x, tf, tx, cause, hclash, hstuck, hm, hcause⟩ := ihf hmem hw hin.2.1 hfault
    have hnew := (function.above hb hmem hlt).trans new
    rw [hm] at hnew
    exact ⟨m, n, g, x, tf, tx, cause, hclash, .function hnew hstuck, hm, hcause⟩
  | argument new function argument ihf ihx =>
    obtain ⟨hmem, hlt⟩ := hb.argument he
    have hf := function.fair hw hin.2.1
    obtain ⟨m, n, g, x, tf, tx, cause, hclash, hstuck, hm, hcause⟩ :=
      ihx hmem hf.inOrder (hin.2.2.grows hf.evolves.grows) hfault
    have hnew := Finds.new_after_parts hb he new function argument
    have hfound := argument.mono hb hmem (function.found rfl)
    rw [hm] at hfound
    subst hm
    exact ⟨m, n, g, x, tf, tx, cause, hclash, .argument hnew hfound hstuck, rfl, hcause⟩
  | @clash w w₁ w₂ n g x log₁ log₂ tf tx failure new function argument failed ihf ihx =>
    have hf := function.fair hw hin.2.1
    have hx := argument.fair hf.inOrder (hin.2.2.grows hf.evolves.grows)
    have hnew := Finds.new_after_parts hb he new function argument
    have htf := argument.mono hb (hb.argument he).1 (function.found rfl)
    have htx := argument.found rfl
    obtain ⟨cause, rfl⟩ : ∃ cause, failure = .type cause := by
      rcases (hf.meet hx none).2.2.failure_cases with hnone | ⟨cause, hcause⟩
      · exact absurd (failed.symm.trans hnone) (by simp)
      · exact ⟨cause, Option.some.inj (failed.symm.trans hcause)⟩
    have hunfit := (hx.inOrder.unfit_iff (hx.inOrder.found _ _ trivial htf)
      (hx.inOrder.found _ _ trivial htx)).2 ⟨cause, failed⟩
    cases hfault
    exact ⟨w₂, n, g, x, tf, tx, cause, ⟨hx.inOrder, htf, htx, failed⟩,
      .here ⟨hnew, tf, tx, htf, htx, hunfit⟩, rfl, rfl⟩
  | apply => cases hfault

/-- Where an expression is stuck, finding its type comes down to that application, and fails. -/
theorem Stuck.findType_eq (h : Stuck w d e) (hw : w.InOrder .all) :
    ∃ n g x tf tx cause, d = .apply n g x ∧ Clashes w g x tf tx cause ∧
      w.findType e = w.conclude n d (w.meet tf tx) := by
  induction h with
  | here impasse =>
    cases d with
    | value => exact impasse.elim
    | ident => exact impasse.elim
    | apply n g x =>
      obtain ⟨new, tf, tx, htf, htx, hunfit⟩ := impasse
      have hf := hw.found _ _ trivial htf
      have hx := hw.found _ _ trivial htx
      obtain ⟨cause, hcause⟩ := (hw.unfit_iff hf hx).1 hunfit
      refine ⟨n, g, x, tf, tx, cause, rfl, ⟨hw, htf, htx, hcause⟩, ?_⟩
      rw [findType_apply new, findType_kept htf, Finding.ok, Finding.andThen_ok, findType_kept htx,
        Finding.ok, Finding.andThen_ok]
      rfl
  | function new stuck ih =>
    obtain ⟨n, g, x, tf, tx, cause, hd, hclash, heq⟩ := ih
    refine ⟨n, g, x, tf, tx, cause, hd, hclash, ?_⟩
    rw [findType_apply new, heq, conclude_failed hclash.failed]
    rfl
  | argument new found stuck ih =>
    obtain ⟨n, g, x, tf, tx, cause, hd, hclash, heq⟩ := ih
    refine ⟨n, g, x, tf, tx, cause, hd, hclash, ?_⟩
    rw [findType_apply new, findType_kept found, Finding.ok, Finding.andThen_ok, heq,
      conclude_failed hclash.failed]
    rfl

/-- So it fails with an error at that application. -/
theorem Stuck.findType_failed (h : Stuck w d e) (hw : w.InOrder .all) :
    ∃ error, (w.findType e).result = .error (.type error) ∧ error.expression = some d := by
  obtain ⟨n, g, x, tf, tx, cause, rfl, hclash, heq⟩ := h.findType_eq hw
  rw [heq, conclude_failed hclash.failed]
  exact ⟨_, rfl, rfl⟩

/-! ## Trying again at once -/

/-- What the types have done to the store when they met frees nothing. -/
theorem Stuck.after_clash {g x : Expr} {cause : Cause} (h : Stuck w d e)
    (hclash : Clashes w g x tf tx cause) : Stuck { w with store := (w.meet tf tx).store } d e := by
  have hf := hclash.inOrder.found _ _ trivial hclash.function
  have hx := hclash.inOrder.found _ _ trivial hclash.argument
  exact h.evolves hclash.inOrder.wellFormed (hclash.inOrder.meet_evolves hf hx) rfl

theorem Clashes.again {g x : Expr} {cause : Cause} (h : Clashes w g x tf tx cause) :
    ∃ cause', Clashes { w with store := (w.meet tf tx).store } g x tf tx cause' ∧
      cause'.kind = cause.kind ∧
      (w.meet tf tx).store.Extends ({ w with store := (w.meet tf tx).store }.meet tf tx).store := by
  have hf := h.inOrder.found _ _ trivial h.function
  have hx := h.inOrder.found _ _ trivial h.argument
  have hu : Store.Unifies _ tf _ (w.meet tf tx).store (some cause) :=
    (Store.unify_iff (h.inOrder.meet_ready hf hx).prepared).2 ⟨rfl, h.failed⟩
  obtain ⟨s₂, cause', hu', hkind, hext⟩ := hu.retry h.inOrder.wellFormed hf.inStore hx.inStore
  have hev := h.inOrder.meet_evolves hf hx
  have hw' := h.inOrder.evolves hev
  obtain ⟨hstore, hfailed⟩ :=
    (Store.unify_iff (hw'.meet_ready (hf.grows hev.grows) (hx.grows hev.grows)).prepared).1 hu'
  exact ⟨cause', ⟨hw', h.function, h.argument, hfailed⟩, hkind, hstore ▸ hext⟩

/-- When finding has failed, a second attempt fails with an error of the same kind at the same
application, keeps no type and leaves the cells that there are as they are. -/
theorem findType_retry (hb : Pool blocks) (he : e ∈ blocks) (hw : w.InOrder .all)
    (hin : e.Within .all w.store) {error : TypeError}
    (failed : (w.findType e).result = .error (.type error)) :
    ∃ error', ((w.findType e).workspace.findType e).result = .error (.type error') ∧
      error'.kind = error.kind ∧
      (w.findType e).workspace.store.Extends ((w.findType e).workspace.findType e).workspace.store ∧
      ((w.findType e).workspace.findType e).workspace.found = (w.findType e).workspace.found := by
  obtain ⟨m, n, g, x, tf, tx, cause, hclash, hstuck, hm, hcause⟩ :=
    (w.findType_finds e).exists_stuck hb he hw hin failed
  obtain ⟨cause', hclash', hkind, hext⟩ := hclash.again
  obtain ⟨n', g', x', tf', tx', cause'', heq, hclash'', hfind⟩ :=
    (hstuck.after_clash hclash).findType_eq hclash'.inOrder
  cases heq
  obtain rfl : tf' = tf := Option.some.inj (hclash''.function.symm.trans hclash'.function)
  obtain rfl : tx' = tx := Option.some.inj (hclash''.argument.symm.trans hclash'.argument)
  rw [hm, hfind, conclude_failed hclash'.failed]
  cases hcause
  exact ⟨_, rfl, hkind, hext, rfl⟩

end Workspace

end BlockTypes
