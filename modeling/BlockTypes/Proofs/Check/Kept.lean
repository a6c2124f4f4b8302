import BlockTypes.Proofs.Check.FindType

/-!
# Kept types

The type of a block is kept once it is found. It is never replaced (`Finds.mono`), and it is explained
by its block (`Finds.consistent`): the type of a value is the declared one, that of a reference a copy
of the signature, and under every solution of the store the type of an applied function is the arrow
from the type of the argument to the type of the application. Solutions only get fewer as the store
evolves, so that an explanation holds for good.
-/

namespace BlockTypes

/-- The blocks of a program: with a block there are its parts, which were made before it, and no two
blocks have one node. -/
structure Pool (blocks : List Expr) : Prop where
  parts : ∀ e ∈ blocks, ∀ d ∈ e.children, d ∈ blocks ∧ d.node < e.node
  one : ∀ d ∈ blocks, ∀ e ∈ blocks, d.node = e.node → d = e

namespace Pool

variable {blocks : List Expr} {n : NodeId} {f x : Expr}

/-- A block that is made of blocks that there are. -/
theorem add {e : Expr} (h : Pool blocks) (below : ∀ d ∈ blocks, d.node < e.node)
    (parts : ∀ d ∈ e.children, d ∈ blocks) : Pool (e :: blocks) := by
  refine ⟨fun d hd y hy => ?_, fun d hd y hy hnode => ?_⟩
  · rcases List.mem_cons.1 hd with rfl | hd
    · exact ⟨List.mem_cons_of_mem _ (parts y hy), below y (parts y hy)⟩
    · obtain ⟨hmem, hlt⟩ := h.parts d hd y hy
      exact ⟨List.mem_cons_of_mem _ hmem, hlt⟩
  · rcases List.mem_cons.1 hd with hde | hold <;> rcases List.mem_cons.1 hy with hye | hold'
    · rw [hde, hye]
    · exact absurd (hde ▸ hnode).symm (Nat.ne_of_lt (below y hold'))
    · exact absurd (hye ▸ hnode) (Nat.ne_of_lt (below d hold))
    · exact h.one d hold y hold' hnode

theorem congr {blocks' : List Expr} (h : Pool blocks) (hmem : ∀ e, e ∈ blocks' ↔ e ∈ blocks) :
    Pool blocks' := by
  refine ⟨fun e he d hd => ?_, fun d hd e he => ?_⟩
  · rw [hmem] at he ⊢
    exact h.parts e he d hd
  · rw [hmem] at hd he
    exact h.one d hd e he

theorem function (h : Pool blocks) (he : .apply n f x ∈ blocks) : f ∈ blocks ∧ f.node < n :=
  h.parts _ he f (by simp [Expr.children])

theorem argument (h : Pool blocks) (he : .apply n f x ∈ blocks) : x ∈ blocks ∧ x.node < n :=
  h.parts _ he x (by simp [Expr.children])

theorem walk {e : Expr} (h : Pool blocks) (he : e ∈ blocks) : ∀ d ∈ e.walk, d ∈ blocks := by
  induction e with
  | value n t text => simpa [Expr.walk] using he
  | ident n name sig => simpa [Expr.walk] using he
  | apply n f x ihf ihx =>
    intro d hd
    rcases List.mem_cons.1 hd with rfl | hd
    · exact he
    rcases List.mem_append.1 hd with hd | hd
    · exact ihf (h.function he).1 d hd
    · exact ihx (h.argument he).1 d hd

end Pool

namespace Workspace

variable {w w' : Workspace} {P : CellId → Prop} {Z : Zone} {e : Expr} {f : Finding Ty}
  {blocks : List Expr}

/-! ## Types are not replaced -/

theorem found?_keep_of_new {n m : NodeId} {t u : Ty} (new : w.found? n = none)
    (hm : w.found? m = some u) : (w.keep n t).found? m = some u := by
  rw [found?_keep, if_neg]
  · exact hm
  · rintro rfl
    rw [new] at hm
    cases hm

/-- Blocks made after an expression are not looked at when its type is found. -/
theorem Finds.above (h : Finds w e f) (hb : Pool blocks) (he : e ∈ blocks) {m : NodeId}
    (hm : e.node < m) : f.workspace.found? m = w.found? m := by
  induction h with
  | kept found => rfl
  | value new => exact (found?_keep _ _ _ _).trans (if_neg (Nat.ne_of_gt hm))
  | ident new => exact (found?_keep _ _ _ _).trans (if_neg (Nat.ne_of_gt hm))
  | function new _ ihf =>
    obtain ⟨hf, hlt⟩ := hb.function he
    exact ihf hf (hlt.trans hm)
  | argument new _ _ ihf ihx =>
    obtain ⟨hf, hltf⟩ := hb.function he
    obtain ⟨hx, hltx⟩ := hb.argument he
    exact (ihx hx (hltx.trans hm)).trans (ihf hf (hltf.trans hm))
  | clash new _ _ failed ihf ihx =>
    obtain ⟨hf, hltf⟩ := hb.function he
    obtain ⟨hx, hltx⟩ := hb.argument he
    exact (ihx hx (hltx.trans hm)).trans (ihf hf (hltf.trans hm))
  | apply new _ _ met ihf ihx =>
    obtain ⟨hf, hltf⟩ := hb.function he
    obtain ⟨hx, hltx⟩ := hb.argument he
    refine (found?_keep _ _ _ _).trans ((if_neg (Nat.ne_of_gt hm)).trans ?_)
    exact (ihx hx (hltx.trans hm)).trans (ihf hf (hltf.trans hm))

/-- When the parts of an application have their types, it has none yet. -/
theorem Finds.new_after_parts {w₁ w₂ : Workspace} {n : NodeId} {d x : Expr}
    {log₁ log₂ : List Log.Entry} {r₁ r₂ : Except Fault Ty} (hb : Pool blocks)
    (he : .apply n d x ∈ blocks) (new : w.found? n = none) (function : Finds w d ⟨w₁, log₁, r₁⟩)
    (argument : Finds w₁ x ⟨w₂, log₂, r₂⟩) : w₂.found? n = none := by
  obtain ⟨hf, hltf⟩ := hb.function he
  obtain ⟨hx, hltx⟩ := hb.argument he
  rw [← new, ← function.above hb hf hltf]
  exact argument.above hb hx hltx

/-- Types that were found stay as they are. -/
theorem Finds.mono (h : Finds w e f) (hb : Pool blocks) (he : e ∈ blocks) {m : NodeId} {t : Ty}
    (hm : w.found? m = some t) : f.workspace.found? m = some t := by
  induction h with
  | kept found => exact hm
  | value new => exact found?_keep_of_new new hm
  | ident new => exact found?_keep_of_new new hm
  | function new _ ihf => exact ihf (hb.function he).1 hm
  | argument new _ _ ihf ihx => exact ihx (hb.argument he).1 (ihf (hb.function he).1 hm)
  | clash new _ _ failed ihf ihx => exact ihx (hb.argument he).1 (ihf (hb.function he).1 hm)
  | apply new function argument met ihf ihx =>
    have hnew := Finds.new_after_parts hb he new function argument
    exact found?_keep_of_new hnew (ihx (hb.argument he).1 (ihf (hb.function he).1 hm))

/-- A type that was given is kept. -/
theorem Finds.found (h : Finds w e f) {t : Ty} (ht : f.result = .ok t) :
    f.workspace.found? e.node = some t := by
  cases h with
  | kept found =>
    cases ht
    exact found
  | value new =>
    cases ht
    exact (found?_keep _ _ _ _).trans (if_pos rfl)
  | ident new =>
    cases ht
    exact (found?_keep _ _ _ _).trans (if_pos rfl)
  | function new _ => cases ht
  | argument new _ _ => cases ht
  | clash new _ _ failed => cases ht
  | apply new _ _ met =>
    cases ht
    exact (found?_keep _ _ _ _).trans (if_pos rfl)

/-! ## Types are explained -/

variable {base : Store}

/-- Why a block has its type: it was declared, it was copied from the signature in a store that `base`
had evolved to, or it is what the type of the function gives for the type of the argument. -/
def Explains (P : CellId → Prop) (base : Store) (w : Workspace) (t : Ty) : Expr → Prop
  | .value _ u _ => t = u
  | .ident _ _ sig => ∃ s, Store.Evolves P base s ∧ t = (s.instantiate sig).1 ∧
      Store.Evolves P (s.instantiate sig).2 w.store
  | .apply _ f x => ∃ tf tx, w.found? f.node = some tf ∧ w.found? x.node = some tx ∧
      ∀ (ν : Type) (κ : ν → ConstraintSet) (σ : CellId → TypeExpr ν), Store.Solves κ w.store σ →
        tf.image σ = .arrow (tx.image σ) (t.image σ)

/-- The types of all blocks are explained, as far as they are found. -/
def Consistent (P : CellId → Prop) (base : Store) (blocks : List Expr) (w : Workspace) : Prop :=
  ∀ d ∈ blocks, ∀ t, w.found? d.node = some t → w.Explains P base t d

theorem Explains.later {t : Ty} (h : w.Explains P base t e) (hs : w.store.WellFormed)
    (hev : Store.Evolves P w.store w'.store)
    (hfound : ∀ m u, w.found? m = some u → w'.found? m = some u) : w'.Explains P base t e := by
  cases e with
  | value n u text => exact h
  | ident n name sig =>
    obtain ⟨s, hbase, ht, hw⟩ := h
    exact ⟨s, hbase, ht, hw.trans hev⟩
  | apply n f x =>
    obtain ⟨tf, tx, hf, hx, heq⟩ := h
    refine ⟨tf, tx, hfound _ _ hf, hfound _ _ hx, fun ν κ σ hσ => ?_⟩
    exact heq ν κ σ (hσ.of_grows hev.grows (hev.wellFormed hs))

theorem Consistent.evolves (h : w.Consistent P base blocks) (hs : w.store.WellFormed) {s : Store}
    (hev : Store.Evolves P w.store s) : { w with store := s }.Consistent P base blocks :=
  fun d hd t ht => (h d hd t ht).later hs hev fun _ _ hm => hm

theorem Consistent.keep (h : w.Consistent P base blocks) (hs : w.store.WellFormed) (hb : Pool blocks)
    (he : e ∈ blocks) (new : w.found? e.node = none) {t : Ty}
    (ht : (w.keep e.node t).Explains P base t e) : (w.keep e.node t).Consistent P base blocks := by
  intro d hd u hu
  rw [found?_keep] at hu
  split at hu
  · rename_i hnode
    cases hu
    obtain rfl := hb.one d hd e he hnode
    exact ht
  · exact (h d hd u hu).later hs .refl fun m v hm => found?_keep_of_new new hm

theorem Finds.consistent (h : Finds w e f) (hb : Pool blocks) (he : e ∈ blocks) (hw : w.InOrder Z)
    (hin : e.Within Z w.store) (hbase : Store.Evolves Z.cells base w.store)
    (hc : w.Consistent Z.cells base blocks) : f.workspace.Consistent Z.cells base blocks := by
  induction h with
  | kept found => exact hc
  | value new => exact hc.keep hw.wellFormed hb he new rfl
  | @ident w n name sig new =>
    have hext := Store.instantiate_extends w.store sig
    have hc' := hc.evolves hw.wellFormed (.single hext.move)
    exact hc'.keep (hext.wellFormed hw.wellFormed) hb he new ⟨w.store, hbase, rfl, .refl⟩
  | function new _ ihf => exact ihf (hb.function he).1 hw hin.2.1 hbase hc
  | argument new function _ ihf ihx =>
    have hf := function.fair hw hin.2.1
    have hcf := ihf (hb.function he).1 hw hin.2.1 hbase hc
    exact ihx (hb.argument he).1 hf.inOrder (hin.2.2.grows hf.evolves.grows) (hbase.trans hf.evolves) hcf
  | @clash w w₁ w₂ n f x log₁ log₂ tf tx failure new function argument failed ihf ihx =>
    have hf := function.fair hw hin.2.1
    have hx := argument.fair hf.inOrder (hin.2.2.grows hf.evolves.grows)
    have hcf := ihf (hb.function he).1 hw hin.2.1 hbase hc
    have hcx := ihx (hb.argument he).1 hf.inOrder (hin.2.2.grows hf.evolves.grows)
      (hbase.trans hf.evolves) hcf
    exact hcx.evolves hx.inOrder.wellFormed (hf.meet hx none).2.1
  | @apply w w₁ w₂ n f x log₁ log₂ tf tx new function argument met ihf ihx =>
    have hf := function.fair hw hin.2.1
    have hx := argument.fair hf.inOrder (hin.2.2.grows hf.evolves.grows)
    have hcf := ihf (hb.function he).1 hw hin.2.1 hbase hc
    have hcx := ihx (hb.argument he).1 hf.inOrder (hin.2.2.grows hf.evolves.grows)
      (hbase.trans hf.evolves) hcf
    obtain ⟨-, hev, hunified⟩ := hf.meet hx none
    -- The parts were made before the application, so none of them can have been it.
    have hnew := Finds.new_after_parts hb he new function argument
    refine (hcx.evolves hx.inOrder.wellFormed hev).keep (hev.wellFormed hx.inOrder.wellFormed) hb he
      hnew ⟨tf, tx, ?_, ?_, fun ν κ σ hσ => hunified.solved.sound met hσ⟩
    · exact found?_keep_of_new hnew (argument.mono hb (hb.argument he).1 (function.found rfl))
    · exact found?_keep_of_new hnew (argument.found rfl)

end Workspace

end BlockTypes
