import BlockTypes.Proofs.Check.Typing
import BlockTypes.Proofs.Session.Basic

/-!
# Principal types

An expression that was just built from a catalogue passes the check exactly if it has a typing, and the
type it is given is the principal one: every other typing comes from it by a substitution that respects
constraints (`check_principal`). The part of the workspace from before the expression was built is left
alone by the check. A typing need not give anything to the variables of that part, nor are there always
types that would fit them, so it is first completed with the variables themselves
(`Typing.exists_solves`).
-/

namespace BlockTypes

variable {ν : Type} {κ : ν → ConstraintSet}

/-! ## Graphs of new blocks -/

/-- The workspace and the blocks after references, values and applications were made one by one, as the
catalogue has them. A block may be used in several applications. -/
inductive Built (c : Catalog) (w₀ : Workspace) : Workspace → List Expr → Prop
  | start : Built c w₀ w₀ []
  | ident {w w' : Workspace} {blocks : List Expr} {e : Expr} (name : String)
      (built : Built c w₀ w blocks) (made : c.ident w name = .ok (e, w')) : Built c w₀ w' (e :: blocks)
  | value {w w' : Workspace} {blocks : List Expr} {e : Expr} (typeText text : String)
      (built : Built c w₀ w blocks) (made : c.value w typeText text = .ok (e, w')) :
      Built c w₀ w' (e :: blocks)
  | apply {w : Workspace} {blocks : List Expr} {f x : Expr} (built : Built c w₀ w blocks)
      (function : f ∈ blocks) (argument : x ∈ blocks) :
      Built c w₀ (w.apply f x).2 ((w.apply f x).1 :: blocks)

/-- The blocks and the cells of their values are new, and the signatures are older. -/
structure NewBlocks (w₀ w : Workspace) (blocks : List Expr) : Prop where
  store : w₀.store.Extends w.store
  found : w.found = w₀.found
  nodes : w₀.nodes ≤ w.nodes
  pool : Pool blocks
  below : ∀ e ∈ blocks, e.node < w.nodes
  within : ∀ e ∈ blocks, e.Within (.since w₀) w.store
  signatures : ∀ n name sig, .ident n name sig ∈ blocks → w₀.store.Over sig

namespace NewBlocks

variable {w₀ w w' : Workspace} {blocks : List Expr} {e : Expr}

theorem add (h : NewBlocks w₀ w blocks) (store : w.store.Extends w'.store) (found : w'.found = w.found)
    (nodes : w'.nodes = w.nodes + 1) (node : e.node = w.nodes) (within : e.Within (.since w₀) w'.store)
    (parts : ∀ d ∈ e.children, d ∈ blocks)
    (signature : ∀ n name sig, e = .ident n name sig → w₀.store.Over sig) :
    NewBlocks w₀ w' (e :: blocks) where
  store := h.store.trans store
  found := found.trans h.found
  nodes := nodes ▸ h.nodes.trans (Nat.le_succ _)
  pool := h.pool.add (fun d hd => node ▸ h.below d hd) parts
  below d hd := by
    rw [nodes]
    rcases List.mem_cons.1 hd with rfl | hd
    · exact node ▸ Nat.lt_succ_self _
    · exact Nat.lt_succ_of_lt (h.below d hd)
  within d hd := by
    rcases List.mem_cons.1 hd with rfl | hd
    · exact within
    · exact (h.within d hd).grows store.grows
  signatures n name sig hmem := by
    rcases List.mem_cons.1 hmem with rfl | hmem
    · exact signature n name sig rfl
    · exact h.signatures n name sig hmem

end NewBlocks

theorem Built.newBlocks {c : Catalog} {w₀ w : Workspace} {blocks : List Expr}
    (h : Built c w₀ w blocks) (hc : c.Over w₀.store) : NewBlocks w₀ w blocks := by
  induction h with
  | start =>
    exact ⟨.refl _, rfl, Nat.le_refl _, ⟨fun e he => (by cases he), fun e he => (by cases he)⟩,
      fun e he => (by cases he), fun e he => (by cases he), fun _ _ _ he => (by cases he)⟩
  | @ident w w' blocks e name _ made ih =>
    obtain ⟨f, hf, hmade⟩ := Catalog.ident_ok made
    cases hmade
    have hsig : w₀.store.Over f.signature := hc f hf
    refine ih.add (.refl _) rfl rfl rfl ⟨ih.nodes, hsig.grows ih.store.grows⟩
      (fun d hd => (by cases hd)) fun n name sig he => ?_
    cases he
    exact hsig
  | @value w w' blocks e typeText text _ made ih =>
    obtain ⟨t, s, hsig, hmade⟩ := Catalog.value_ok made
    cases hmade
    obtain ⟨hext, hnew⟩ := Store.ofSignature_new hsig
    refine ih.add hext rfl rfl rfl ⟨ih.nodes, fun v hv => ⟨(hnew v hv).2, ?_⟩⟩
      (fun d hd => (by cases hd)) fun n name sig he => (by cases he)
    exact ih.store.size.trans (hnew v hv).1
  | @apply w blocks f x _ function argument ih =>
    refine ih.add (.refl _) rfl rfl rfl ⟨ih.nodes, ih.within f function, ih.within x argument⟩
      (fun d hd => ?_) fun n name sig he => (by cases he)
    rcases List.mem_pair.1 hd with rfl | rfl
    · exact function
    · exact argument

/-! ## Typings and solutions -/

/-- A typing extends to a solution of the whole store, if variables of the store may stand for
themselves where the typing says nothing. -/
theorem Typing.exists_solves {s : Store} {e : Expr} {τ : NodeId → TypeExpr ν} (h : Typing κ s e τ)
    (hs : s.WellFormed) :
    ∃ σ : CellId → TypeExpr (ν ⊕ CellId), Store.Solves (Sum.elim κ s.constraints) s σ ∧
      ∀ n t text, .value n t text ∈ e.walk → t.image σ = (τ n).map .inl := by
  classical
  obtain ⟨θ, hθ⟩ := h.values
  -- Only the variables of values get what the typing says; all others stand for themselves.
  let used : CellId → Prop := fun r =>
    ∃ n t text, .value n t text ∈ e.walk ∧ ∃ v ∈ (s.resolve t).vars, s.root v.cell = r
  let θ' : CellId → TypeExpr (ν ⊕ CellId) := fun r =>
    if used r then (θ r).map .inl else .var (.inr r)
  refine ⟨s.spread θ', Store.solves_spread hs fun c hc => ?_, fun n t text hmem => ?_⟩
  · by_cases hused : used (s.root c)
    · obtain ⟨n, t, text, hmem, v, hv, hvc⟩ := hused
      have hfits := (hθ n t text hmem).1 v hv
      rw [Store.constraints_congr hvc, hvc] at hfits
      rw [show θ' (s.root c) = (θ (s.root c)).map .inl from if_pos ⟨n, t, text, hmem, v, hv, hvc⟩]
      exact hfits.inl s.constraints
    · rw [show θ' (s.root c) = .var (.inr (s.root c)) from if_neg hused]
      intro _
      refine .inr ⟨_, rfl, fun k hk => ?_⟩
      rwa [Sum.elim_inr, Store.constraints_congr (Store.root_root s c)]
  · rw [Store.image_spread hs, (hθ n t text hmem).2, Store.substitute, TypeExpr.map_bind]
    exact TypeExpr.bind_congr fun v hv => if_pos ⟨n, t, text, hmem, v, hv, rfl⟩

theorem Expr.meets_of_walk {e : Expr} {base : Store} {σ : CellId → TypeExpr ν} {τ : NodeId → TypeExpr ν}
    (values : ∀ n t text, .value n t text ∈ e.walk → t.image σ = τ n)
    (idents : ∀ n name sig, .ident n name sig ∈ e.walk → base.Over sig ∧
      ∃ θ : CellId → TypeExpr ν, base.Respects κ sig θ ∧ base.substitute sig θ = τ n)
    (applies : ∀ n f x, .apply n f x ∈ e.walk → τ f.node = .arrow (τ x.node) (τ n)) :
    e.Meets κ base σ τ := by
  induction e with
  | value n t text => exact values n t text (List.mem_singleton_self _)
  | ident n name sig => exact idents n name sig (List.mem_singleton_self _)
  | apply n f x ihf ihx =>
    have hf : ∀ d ∈ f.walk, d ∈ (Expr.apply n f x).walk := fun d hd =>
      List.mem_cons_of_mem _ (List.mem_append_left _ hd)
    have hx : ∀ d ∈ x.walk, d ∈ (Expr.apply n f x).walk := fun d hd =>
      List.mem_cons_of_mem _ (List.mem_append_right _ hd)
    refine ⟨ihf ?_ ?_ ?_, ihx ?_ ?_ ?_, applies n f x List.mem_cons_self⟩
    · exact fun m t text hm => values m t text (hf _ hm)
    · exact fun m name sig hm => idents m name sig (hf _ hm)
    · exact fun m g y hm => applies m g y (hf _ hm)
    · exact fun m t text hm => values m t text (hx _ hm)
    · exact fun m name sig hm => idents m name sig (hx _ hm)
    · exact fun m g y hm => applies m g y (hx _ hm)

/-- A solution that gives a type nothing but variables on the left gives it by a substitution that
respects constraints. -/
theorem Store.Solves.exists_respects {μ : Type} {ι : μ → ConstraintSet} {s : Store}
    {σ : CellId → TypeExpr (ν ⊕ μ)} (hσ : Solves (Sum.elim κ ι) s σ) (hs : s.WellFormed) {t : Ty}
    {u : TypeExpr ν} (h : t.image σ = u.map .inl) :
    ∃ θ : CellId → TypeExpr ν, s.Respects κ t θ ∧ s.substitute t θ = u := by
  have himage := hσ.image_eq_substitute hs t
  refine ⟨fun c => (σ c).left, fun v hv => ?_, ?_⟩
  · refine (hσ.respects hs t v hv).left fun y hy => ?_
    have hmem : Sum.inr y ∈ (s.substitute t σ).vars := TypeExpr.mem_vars_bind.2 ⟨v, hv, hy⟩
    rw [← himage, h] at hmem
    exact TypeExpr.inr_notMem_map_inl u y hmem
  · have hleft : (s.substitute t σ).left = u := by rw [← himage, h, TypeExpr.left_map_inl]
    rw [← hleft]
    exact (TypeExpr.bind_bind _ _ _).symm

/-! ## The check of new blocks -/

namespace NewBlocks

variable {w₀ w : Workspace} {blocks : List Expr} {e : Expr}

theorem evolves (h : NewBlocks w₀ w blocks) :
    Store.Evolves (Zone.since w₀).cells w₀.store w.store :=
  .single h.store.move

theorem found?_eq_none (h : NewBlocks w₀ w blocks)
    (unseen : ∀ n, w₀.nodes ≤ n → w₀.found? n = none) {n : NodeId} (hn : w₀.nodes ≤ n) :
    w.found? n = none := by
  rw [← unseen n hn, Workspace.found?, Workspace.found?, h.found]

theorem inOrder (h : NewBlocks w₀ w blocks) (hw : w₀.store.WellFormed)
    (unseen : ∀ n, w₀.nodes ≤ n → w₀.found? n = none) : w.InOrder (.since w₀) where
  wellFormed := h.store.wellFormed hw
  region := h.store.region (Zone.leaves_since hw).region
  new _ hc := h.store.size.trans hc
  found n t hn ht := by
    rw [h.found?_eq_none unseen hn] at ht
    cases ht

/-- What is found is a typing, and the one that it gives the expression is the type found. -/
theorem sound (h : NewBlocks w₀ w blocks) (hw : w₀.store.WellFormed)
    (unseen : ∀ n, w₀.nodes ≤ n → w₀.found? n = none) (he : e ∈ blocks) {t : Ty}
    (ht : (w.findType e).result = .ok t) :
    Typing (w.findType e).workspace.store.constraints w.store e (w.findType e).workspace.types ∧
      (w.findType e).workspace.types e.node =
        (w.findType e).workspace.store.classes ((w.findType e).workspace.store.resolve t) := by
  have hinOrder := h.inOrder hw unseen
  have hfinds := w.findType_finds e
  have hfair := hfinds.fair hinOrder (h.within e he)
  have hnone : w.Consistent (Zone.since w₀).cells w₀.store blocks := by
    intro d hd u hu
    rw [h.found?_eq_none unseen (h.within d hd).node] at hu
    cases hu
  have hc := hfinds.consistent h.pool he hinOrder (h.within e he) h.evolves hnone
  refine ⟨hc.typing h.pool (Zone.leaves_since hw) h.signatures h.evolves hfair.evolves he
    (hfinds.found ht), ?_⟩
  rw [Workspace.types_of_found hfair.inOrder.wellFormed (hfinds.found ht),
    Store.image_spread_var hfair.inOrder.wellFormed]

/-- Where there is a typing a type is found, and the typing gives the expression an instance of it. -/
theorem complete (h : NewBlocks w₀ w blocks) (hw : w₀.store.WellFormed)
    (unseen : ∀ n, w₀.nodes ≤ n → w₀.found? n = none) (he : e ∈ blocks)
    {τ : NodeId → TypeExpr ν} (htyping : Typing κ w.store e τ) :
    ∃ t, (w.findType e).result = .ok t ∧ ∃ θ : CellId → TypeExpr ν,
      (w.findType e).workspace.store.Respects κ t θ ∧
      (w.findType e).workspace.store.substitute t θ = τ e.node := by
  have hinOrder := h.inOrder hw unseen
  have hleaves := Zone.leaves_since hw
  have hfinds := w.findType_finds e
  have hfair := hfinds.fair hinOrder (h.within e he)
  have hagrees := hleaves.agrees h.evolves
  -- From here on a type of the typing is one over the sum, with no variable on the right.
  obtain ⟨σ, hσ, hvalues⟩ := htyping.exists_solves hinOrder.wellFormed
  have hmeets : e.Meets (Sum.elim κ w.store.constraints) w₀.store σ fun n => (τ n).map .inl := by
    refine Expr.meets_of_walk hvalues (fun n name sig hmem => ?_) fun n f x hmem => ?_
    · have hsig := h.signatures n name sig (h.pool.walk he _ hmem)
      obtain ⟨θ, hrespects, hτ⟩ := htyping.idents n name sig hmem
      rw [Store.respects_of_agrees hw hinOrder.wellFormed hagrees hsig] at hrespects
      rw [Store.substitute_of_agrees hw hinOrder.wellFormed hagrees hsig] at hτ
      refine ⟨hsig, fun c => (θ c).map .inl, fun v hv => (hrespects v hv).inl _, ?_⟩
      rw [hτ, Store.substitute, Store.substitute, TypeExpr.map_bind]
    · rw [htyping.applies n f x hmem]
      rfl
  have hnone : w.Matches (.since w₀) σ fun n => (τ n).map .inl := by
    intro n t hn ht
    rw [h.found?_eq_none unseen hn] at ht
    cases ht
  obtain ⟨t, σ', ht, hσ', -, hmatches⟩ :=
    hfinds.complete hinOrder (h.within e he) hleaves h.evolves hσ hnone hmeets
  have himage := hmatches e.node t (h.within e he).node (hfinds.found ht)
  exact ⟨t, ht, hσ'.exists_respects hfair.inOrder.wellFormed himage⟩

end NewBlocks

/-- An expression that was just built from a catalogue, after any session, passes the check exactly if
it has a typing, and fails with a type error if not. The type it passes with is the one of a typing, and
every typing gives the expression an instance of it. -/
theorem check_principal (ops : List Op) (legal : Session.start.Legal ops) (c : Catalog)
    (hc : c ∈ (Session.start.run ops).catalogs) (w : Workspace) (blocks : List Expr)
    (built : Built c (Session.start.run ops).workspace w blocks) (e : Expr) (he : e ∈ blocks) :
    ((∃ t, (w.check e).result = .ok (.passed t)) ↔
      ∃ (ν : Type) (κ : ν → ConstraintSet) (τ : NodeId → TypeExpr ν), Typing κ w.store e τ) ∧
    ((∃ t, (w.check e).result = .ok (.passed t)) ∨ ∃ error, (w.check e).result = .ok (.failed error)) ∧
    ∀ t, (w.check e).result = .ok (.passed t) →
      (∃ τ : NodeId → TypeExpr CellId,
        Typing (w.check e).workspace.store.constraints w.store e τ ∧
        τ e.node = (w.check e).workspace.store.classes t) ∧
      ∀ (ν : Type) (κ : ν → ConstraintSet) (τ : NodeId → TypeExpr ν), Typing κ w.store e τ →
        ∃ θ : CellId → TypeExpr ν,
          (∀ v ∈ t.vars, (w.check e).workspace.store.bound? v.cell = none ∧
            Store.Fits κ ((w.check e).workspace.store.constraints v.cell)
              (θ ((w.check e).workspace.store.root v.cell))) ∧
          t.bind (fun v => θ ((w.check e).workspace.store.root v.cell)) = τ e.node := by
  have hproper := Session.proper_start.run legal
  have hw₀ := hproper.inOrder.wellFormed
  have hnew := built.newBlocks (hproper.catalogs c hc)
  have hfair := (w.findType_finds e).fair (hnew.inOrder hw₀ hproper.unseen) (hnew.within e he)
  have hwf := hfair.inOrder.wellFormed
  refine ⟨⟨?_, ?_⟩, ?_, ?_⟩
  · rintro ⟨t, ht⟩
    obtain ⟨u, hu, -⟩ := Workspace.check_passed_iff.1 ht
    exact ⟨_, _, _, (hnew.sound hw₀ hproper.unseen he hu).1⟩
  · rintro ⟨ν, κ, τ, htyping⟩
    obtain ⟨u, hu, -⟩ := hnew.complete hw₀ hproper.unseen he htyping
    exact ⟨_, Workspace.check_passed_iff.2 ⟨u, hu, rfl⟩⟩
  · cases hr : (w.findType e).result with
    | ok u => exact .inl ⟨_, Workspace.check_passed_iff.2 ⟨u, hr, rfl⟩⟩
    | error fault =>
      obtain ⟨error, rfl⟩ := hfair.typeError fault hr
      exact .inr ⟨error, Workspace.check_failed hr⟩
  · intro t ht
    obtain ⟨u, hu, rfl⟩ := Workspace.check_passed_iff.1 ht
    rw [Workspace.check_workspace]
    refine ⟨⟨_, hnew.sound hw₀ hproper.unseen he hu⟩, fun ν κ τ htyping => ?_⟩
    obtain ⟨u', hu', θ, hrespects, hτ⟩ := hnew.complete hw₀ hproper.unseen he htyping
    obtain rfl : u = u' := by simpa [hu] using hu'
    exact ⟨θ, fun v hv => ⟨hwf.unbound_of_mem_resolve u v hv, hrespects v hv⟩, hτ⟩

/-- A value that stands in two places of a call. Its type is a variable with a constraint, and so is the
type of the call: no typing gives it anything that does not fit the constraint. -/
theorem check_principal_shared :
    let ops : List Op := [.loadCatalog [
      (.text "classes", .map [(.text "Num", .list [.scalar (.text "Int"), .scalar (.text "Float")])]),
      (.text "functions", .map [(.text "Math", .map [(.text "add",
        .scalar (.text "Num a => a -> a -> a"))])])]]
    let num : TypeClass := ⟨"Num", .ofList ["Int", "Float"]⟩
    let a : Ty := .var ⟨"a", 0⟩
    let add : Ty := .arrow a (.arrow a a)
    let c : Catalog := ⟨[(.text "Num", num)], [⟨.text "add", .text "Math", add⟩]⟩
    let w₀ := (Session.start.run ops).workspace
    let x : Expr := .value 0 (.var ⟨"b", 1⟩) "x"
    let f : Expr := .ident 1 "add" add
    let g : Expr := .apply 2 f x
    let e : Expr := .apply 3 g x
    let w : Workspace := ⟨w₀.store.push (.ofList [num]), 4, []⟩
    Session.start.Legal ops ∧ c ∈ (Session.start.run ops).catalogs ∧ Built c w₀ w [e, g, f, x] ∧
      (w.check e).result = .ok (.passed (.var ⟨"t2", 4⟩)) ∧
      ∀ (ν : Type) (κ : ν → ConstraintSet) (τ : NodeId → TypeExpr ν), Typing κ w.store e τ →
        Store.Fits κ (.ofList [num]) (τ e.node) := by
  intro ops num a add c w₀ x f g e w
  have legal : Session.start.Legal ops := by decide +kernel
  have hc : c ∈ (Session.start.run ops).catalogs := by decide +kernel
  have hx : c.value w₀ "Num b => b" "x" = .ok (x, { w with nodes := 1 }) := by decide +kernel
  have hf : c.ident { w with nodes := 1 } "add" = .ok (f, { w with nodes := 2 }) := by decide +kernel
  have parts : Built c w₀ { w with nodes := 2 } [f, x] :=
    .ident "add" (.value "Num b => b" "x" .start hx) hf
  have inner : Built c w₀ { w with nodes := 3 } [g, f, x] := .apply parts (by decide) (by decide)
  have built : Built c w₀ w [e, g, f, x] := .apply inner (by decide) (by decide)
  have hpassed : (w.check e).result = .ok (.passed (.var ⟨"t2", 4⟩)) := by decide +kernel
  have hcs : (w.check e).workspace.store.constraints 4 = .ofList [num] := by decide +kernel
  refine ⟨legal, hc, built, hpassed, fun ν κ τ htyping => ?_⟩
  obtain ⟨-, -, hprincipal⟩ := check_principal ops legal c hc w _ built e (by decide)
  obtain ⟨θ, hfits, hτ⟩ := (hprincipal _ hpassed).2 ν κ τ htyping
  rw [← hτ, ← hcs]
  exact (hfits ⟨"t2", 4⟩ (by simp [TypeExpr.vars])).2

end BlockTypes
