import BlockTypes.Proofs.Check.Kept

/-!
# Typings

A typing gives every block of an expression one type: values get their declared types under one
substitution for all of them, each reference an instance of its signature, and an applied function the
arrow from the type of the argument to the type of the application. Finding the type of an expression
finds a typing (`Consistent.typing`), and it does so whenever there is one: a solution of the store that
agrees with the typing on the blocks found so far can be carried through every step
(`Finds.complete`).
-/

namespace BlockTypes

variable {ν : Type} {κ : ν → ConstraintSet}

/-- The types `τ` of blocks are a typing of the expression. Its variables have the constraints `κ`, and
those of declared types and signatures what they have in the store. -/
structure Typing (κ : ν → ConstraintSet) (s : Store) (e : Expr) (τ : NodeId → TypeExpr ν) : Prop where
  values : ∃ θ : CellId → TypeExpr ν, ∀ n t text, .value n t text ∈ e.walk →
    s.Respects κ t θ ∧ τ n = s.substitute t θ
  idents : ∀ n name sig, .ident n name sig ∈ e.walk →
    ∃ θ : CellId → TypeExpr ν, s.Respects κ sig θ ∧ τ n = s.substitute sig θ
  applies : ∀ n f x, .apply n f x ∈ e.walk → τ f.node = .arrow (τ x.node) (τ n)

/-- A store outside of a zone, which therefore stays as it is. -/
structure Zone.Leaves (Z : Zone) (base : Store) : Prop where
  wellFormed : base.WellFormed
  region : Store.Region Z.cells base
  outside : ∀ c, c < base.size → ¬ Z.cells c

theorem Zone.Leaves.agrees {Z : Zone} {base s : Store} (h : Z.Leaves base)
    (hev : Store.Evolves Z.cells base s) : ∀ c, c < base.size → base.Agrees s c :=
  fun c hc => hev.outside h.region hc (h.outside c hc)

/-- What was made since a workspace was as it is. -/
def Zone.since (w : Workspace) : Zone := ⟨fun c => w.store.size ≤ c, fun n => w.nodes ≤ n⟩

theorem Zone.leaves_since {w : Workspace} (hw : w.store.WellFormed) :
    (Zone.since w).Leaves w.store where
  wellFormed := hw
  region :=
    { root := fun c => by
        show w.store.size ≤ _ ↔ w.store.size ≤ _
        rw [← Nat.not_lt, ← Nat.not_lt, Store.root_lt_iff]
      bound := fun c t hc ht => absurd (Store.lt_of_bound ht) (Nat.not_lt.2 hc) }
  outside c hc := Nat.not_le.2 hc

/-- The typing as a solution sees it: what it gives the variables of values is in the solution, and the
signatures are those of a store that does not change. -/
def Expr.Meets (κ : ν → ConstraintSet) (base : Store) (σ : CellId → TypeExpr ν)
    (τ : NodeId → TypeExpr ν) : Expr → Prop
  | .value n t _ => t.image σ = τ n
  | .ident n _ sig => base.Over sig ∧
      ∃ θ : CellId → TypeExpr ν, base.Respects κ sig θ ∧ base.substitute sig θ = τ n
  | .apply n f x => f.Meets κ base σ τ ∧ x.Meets κ base σ τ ∧ τ f.node = .arrow (τ x.node) (τ n)

theorem Expr.Meets.congr {Z : Zone} {s base : Store} {e : Expr} {σ σ' : CellId → TypeExpr ν}
    {τ : NodeId → TypeExpr ν} (h : e.Meets κ base σ τ) (he : e.Within Z s)
    (hσ : ∀ c, c < s.size → σ' c = σ c) : e.Meets κ base σ' τ := by
  induction e with
  | value n t text => exact (TypeExpr.image_congr fun v hv => hσ _ (he.2 v hv).1).trans h
  | ident n name sig => exact h
  | apply n f x ihf ihx => exact ⟨ihf h.1 he.2.1, ihx h.2.1 he.2.2, h.2.2⟩

namespace Workspace

variable {w w' : Workspace} {Z : Zone} {e : Expr} {f : Finding Ty} {base : Store}
  {σ : CellId → TypeExpr ν} {τ : NodeId → TypeExpr ν}

/-! ## Completeness -/

/-- If a solution makes the type of the function an arrow from the type of the argument, the two meet,
and the solution goes on with what is on the right of the arrow for the new variable. -/
theorem InOrder.meet_complete (h : w.InOrder Z) {tf tx : Ty} (hf : w.store.Within Z.cells tf)
    (hx : w.store.Within Z.cells tx) (hσ : Store.Solves κ w.store σ) {r : TypeExpr ν}
    (heq : tf.image σ = .arrow (tx.image σ) r) :
    (w.meet tf tx).failure = none ∧
      ∃ σ', Store.Solves κ (w.meet tf tx).store σ' ∧ (∀ c, c < w.store.size → σ' c = σ c) ∧
        σ' w.result.cell = r := by
  have hold : ∀ c, c < w.store.size → Function.update σ w.store.size r c = σ c :=
    fun c hc => Function.update_of_ne (Nat.ne_of_lt hc) _ _
  have hnew : Function.update σ w.store.size r w.result.cell = r := Function.update_self _ _ _
  have hsolves : Store.Solves κ (w.store.fresh "t" ∅).2 (Function.update σ w.store.size r) :=
    hσ.update_push h.wellFormed (fun hne => absurd rfl hne) _
  have heq' : tf.image (Function.update σ w.store.size r) =
      (TypeExpr.arrow tx (.var w.result)).image (Function.update σ w.store.size r) := by
    rw [TypeExpr.image_arrow, TypeExpr.image_var, hnew,
      TypeExpr.image_congr fun v hv => hold _ (hf.inStore v hv),
      TypeExpr.image_congr fun v hv => hold _ (hx.inStore v hv), heq]
  have hunified := h.meet hf hx
  obtain ⟨hσ', hcause⟩ := hunified.solved.complete hsolves heq'
  refine ⟨?_, _, hσ', hold, hnew⟩
  rcases hunified.failure_cases with hnone | ⟨cause, hfailed⟩
  · exact hnone
  · exact absurd hfailed (hcause cause)

/-- The same for the parts of an application, each with a solution that gives it its type. -/
theorem Fair.meet_complete {w₁ w₂ : Workspace} {log₁ log₂ : List Log.Entry} {tf tx : Ty}
    (hf : Fair Z w ⟨w₁, log₁, .ok tf⟩) (hx : Fair Z w₁ ⟨w₂, log₂, .ok tx⟩)
    {σ₁ σ₂ : CellId → TypeExpr ν} (hσ₂ : Store.Solves κ w₂.store σ₂)
    (hold : ∀ c, c < w₁.store.size → σ₂ c = σ₁ c) {r : TypeExpr ν}
    (heq : tf.image σ₁ = .arrow (tx.image σ₂) r) :
    (w₂.meet tf tx).failure = none ∧
      ∃ σ', Store.Solves κ (w₂.meet tf tx).store σ' ∧ (∀ c, c < w₂.store.size → σ' c = σ₂ c) ∧
        σ' w₂.result.cell = r := by
  have htf := hf.type tf rfl
  refine hx.inOrder.meet_complete (htf.grows hx.evolves.grows) (hx.type tx rfl) hσ₂ ?_
  rw [← heq]
  exact TypeExpr.image_congr fun v hv => hold _ (htf v hv).1

/-- The solution gives the blocks of the zone the types of the typing, as far as they are found. -/
def Matches (Z : Zone) (w : Workspace) (σ : CellId → TypeExpr ν) (τ : NodeId → TypeExpr ν) : Prop :=
  ∀ n t, Z.nodes n → w.found? n = some t → t.image σ = τ n

theorem Matches.later {σ' : CellId → TypeExpr ν} (h : w.Matches Z σ τ) (hw : w.InOrder Z)
    (hσ : ∀ c, c < w.store.size → σ' c = σ c) (hfound : w'.found = w.found) :
    w'.Matches Z σ' τ := by
  intro n t hn ht
  unfold found? at ht
  rw [hfound] at ht
  rw [← h n t hn ht]
  exact TypeExpr.image_congr fun v hv => hσ _ (hw.found n t hn ht v hv).1

theorem Matches.keep (h : w.Matches Z σ τ) {n : NodeId} {t : Ty} (ht : t.image σ = τ n) :
    (w.keep n t).Matches Z σ τ := by
  intro m u hm hu
  rw [found?_keep] at hu
  split at hu
  · rename_i hmn
    cases hu
    rw [hmn, ht]
  · exact h m u hm hu

/-- Finding a type succeeds where there is a typing, and leaves a store with a solution that gives every
block found what the typing gives it. -/
theorem Finds.complete (h : Finds w e f) (hw : w.InOrder Z) (hin : e.Within Z w.store)
    (hbase : Z.Leaves base) (hev : Store.Evolves Z.cells base w.store)
    (hσ : Store.Solves κ w.store σ) (hfound : w.Matches Z σ τ) (hmeets : e.Meets κ base σ τ) :
    ∃ t σ', f.result = .ok t ∧ Store.Solves κ f.workspace.store σ' ∧
      (∀ c, c < w.store.size → σ' c = σ c) ∧ f.workspace.Matches Z σ' τ := by
  induction h generalizing σ with
  | @kept w e t found => exact ⟨t, σ, rfl, hσ, fun _ _ => rfl, hfound⟩
  | @value w n t text new => exact ⟨t, σ, rfl, hσ, fun _ _ => rfl, hfound.keep hmeets⟩
  | @ident w n name sig new =>
    obtain ⟨hover, θ, hrespects, hτ⟩ := hmeets
    -- The signature is copied from the present store, where it still is what it was.
    have hagrees := hbase.agrees hev
    rw [← Store.respects_of_agrees hbase.wellFormed hw.wellFormed hagrees hover] at hrespects
    rw [← Store.substitute_of_agrees hbase.wellFormed hw.wellFormed hagrees hover] at hτ
    obtain ⟨σ', hσ', hold, himage⟩ := Store.exists_solves_instantiate hw.wellFormed hσ sig hrespects
    exact ⟨_, σ', rfl, hσ', hold, (hfound.later hw hold rfl).keep (himage.trans hτ)⟩
  | function new _ ihf =>
    -- Where a part has failed, it had no typing, and so the whole has none.
    obtain ⟨_, _, hr, -⟩ := ihf hw hin.2.1 hev hσ hfound hmeets.1
    cases hr
  | argument new function _ ihf ihx =>
    obtain ⟨_, σ₁, -, hσ₁, hold₁, hfound₁⟩ := ihf hw hin.2.1 hev hσ hfound hmeets.1
    have hf := function.fair hw hin.2.1
    obtain ⟨_, _, hr, -⟩ := ihx hf.inOrder (hin.2.2.grows hf.evolves.grows) (hev.trans hf.evolves) hσ₁
      hfound₁ (hmeets.2.1.congr hin.2.2 hold₁)
    cases hr
  | clash new function argument failed ihf ihx =>
    obtain ⟨_, σ₁, -, hσ₁, hold₁, hfound₁⟩ := ihf hw hin.2.1 hev hσ hfound hmeets.1
    have hf := function.fair hw hin.2.1
    have hin₁ := hin.2.2.grows hf.evolves.grows
    obtain ⟨_, σ₂, -, hσ₂, hold₂, hfound₂⟩ := ihx hf.inOrder hin₁ (hev.trans hf.evolves) hσ₁ hfound₁
      (hmeets.2.1.congr hin.2.2 hold₁)
    have hx := argument.fair hf.inOrder hin₁
    have htf := hfound₁ _ _ hin.2.1.node (function.found rfl)
    have htx := hfound₂ _ _ hin.2.2.node (argument.found rfl)
    have hmet := (hf.meet_complete hx hσ₂ hold₂ (by rw [htf, htx, hmeets.2.2])).1
    rw [hmet] at failed
    cases failed
  | @apply w w₁ w₂ n f x log₁ log₂ tf tx new function argument met ihf ihx =>
    obtain ⟨_, σ₁, -, hσ₁, hold₁, hfound₁⟩ := ihf hw hin.2.1 hev hσ hfound hmeets.1
    have hf := function.fair hw hin.2.1
    have hin₁ := hin.2.2.grows hf.evolves.grows
    obtain ⟨_, σ₂, -, hσ₂, hold₂, hfound₂⟩ := ihx hf.inOrder hin₁ (hev.trans hf.evolves) hσ₁ hfound₁
      (hmeets.2.1.congr hin.2.2 hold₁)
    have hx := argument.fair hf.inOrder hin₁
    have htf := hfound₁ _ _ hin.2.1.node (function.found rfl)
    have htx := hfound₂ _ _ hin.2.2.node (argument.found rfl)
    obtain ⟨-, σ₃, hσ₃, hold₃, hnew⟩ :=
      hf.meet_complete hx hσ₂ hold₂ (by rw [htf, htx, hmeets.2.2])
    refine ⟨_, σ₃, rfl, hσ₃, fun c hc => ?_, (hfound₂.later hx.inOrder hold₃ rfl).keep hnew⟩
    have hc₁ := hc.trans_le hf.evolves.grows.size
    rw [hold₃ c (hc₁.trans_le hx.evolves.grows.size), hold₂ c hc₁, hold₁ c hc]

/-! ## Soundness -/

variable {blocks : List Expr}

/-- With a block, all blocks that it is built from have types. -/
theorem Consistent.found_walk {P : CellId → Prop} (h : w.Consistent P base blocks) (hb : Pool blocks)
    (he : e ∈ blocks) {t : Ty} (ht : w.found? e.node = some t) :
    ∀ d ∈ e.walk, ∃ u, w.found? d.node = some u := by
  induction e generalizing t with
  | value n u text => simpa [Expr.walk] using ⟨t, ht⟩
  | ident n name sig => simpa [Expr.walk] using ⟨t, ht⟩
  | apply n f x ihf ihx =>
    intro d hd
    obtain ⟨tf, tx, hf, hx, -⟩ := h _ he t ht
    rcases List.mem_cons.1 hd with rfl | hd
    · exact ⟨t, ht⟩
    rcases List.mem_append.1 hd with hd | hd
    · exact ihf (hb.function he).1 hf d hd
    · exact ihx (hb.argument he).1 hx d hd

/-- The types found, as they are in the present store: the variables are its unbound classes. -/
def types (w : Workspace) (n : NodeId) : TypeExpr CellId :=
  match w.found? n with
  | some t => w.store.classes (w.store.resolve t)
  | none => .con ""

theorem types_of_found (hw : w.store.WellFormed) {n : NodeId} {t : Ty} (ht : w.found? n = some t) :
    w.types n = t.image (w.store.spread .var) := by
  unfold types
  rw [ht, Store.image_spread_var hw]

/-- The types found are a typing, seen from any store on the way to the present one. -/
theorem Consistent.typing (h : w.Consistent Z.cells base blocks) (hb : Pool blocks)
    (hbase : Z.Leaves base) (hover : ∀ n name sig, .ident n name sig ∈ blocks → base.Over sig)
    {s : Store} (hs : Store.Evolves Z.cells base s) (hev : Store.Evolves Z.cells s w.store)
    (he : e ∈ blocks) {t : Ty} (ht : w.found? e.node = some t) :
    Typing w.store.constraints s e w.types := by
  have hswf := hs.wellFormed hbase.wellFormed
  have hwf := hev.wellFormed hswf
  have hwalk : ∀ d ∈ e.walk, d ∈ blocks ∧ ∃ u, w.found? d.node = some u :=
    fun d hd => ⟨hb.walk he d hd, h.found_walk hb he ht d hd⟩
  -- Every class stands for itself; that solves all stores on the way.
  have hσ := Store.solves_spread_var hwf
  have hσs := hσ.of_grows hev.grows hwf
  refine ⟨⟨w.store.spread .var, fun n t text hmem => ?_⟩, fun n name sig hmem => ?_,
    fun n f x hmem => ?_⟩
  · obtain ⟨hd, u, hu⟩ := hwalk _ hmem
    obtain rfl : u = t := h _ hd u hu
    have himage := hσs.image_eq_substitute hswf u
    exact ⟨hσs.respects hswf u, (types_of_found hwf hu).trans himage⟩
  · obtain ⟨hd, u, hu⟩ := hwalk _ hmem
    obtain ⟨s₁, hs₁, rfl, hev₁⟩ := h _ hd u hu
    have hs₁wf := hs₁.wellFormed hbase.wellFormed
    have hsig := hover n name sig hd
    obtain ⟨θ, hrespects, himage⟩ :=
      Store.instance_of_instantiate sig (hσ.of_grows hev₁.grows hwf)
    rw [Store.respects_of_agrees hbase.wellFormed hs₁wf (hbase.agrees hs₁) hsig,
      ← Store.respects_of_agrees hbase.wellFormed hswf (hbase.agrees hs) hsig] at hrespects
    rw [Store.substitute_of_agrees hbase.wellFormed hs₁wf (hbase.agrees hs₁) hsig,
      ← Store.substitute_of_agrees hbase.wellFormed hswf (hbase.agrees hs) hsig] at himage
    exact ⟨θ, hrespects, (types_of_found hwf hu).trans himage⟩
  · obtain ⟨hd, u, hu⟩ := hwalk _ hmem
    obtain ⟨tf, tx, hf, hx, heq⟩ := h _ hd u hu
    have hn : w.types n = _ := types_of_found hwf hu
    rw [hn, types_of_found hwf hf, types_of_found hwf hx]
    exact heq CellId _ _ hσ

end Workspace

end BlockTypes
