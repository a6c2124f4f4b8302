import BlockTypes.Proofs.Check.Bench
import BlockTypes.Proofs.Check.Twin
import BlockTypes.Proofs.Session.Basic

/-!
# Checks do not interfere

Since signatures are not touched, a workspace that was worked in is a twin of the one it has come from, as
far as new blocks are concerned (`Tended.twin`). The same acts keep two benches twins (`Twin.run`), so an
expression that is made anew is checked as if nothing had been made or checked before it
(`checks_independent`).
-/

namespace BlockTypes.Bench

/-- The workspaces are twins, and the blocks of the one are copies of those of the other. -/
structure Twin (ρ : CellId → CellId) (δ : Nat) (Z : Zone) (b b' : Bench) : Prop where
  workspace : Workspace.Twin ρ δ Z b.workspace b'.workspace
  blocks : List.Forall₂ (Expr.Copy ρ δ) b.blocks b'.blocks

variable {ρ : CellId → CellId} {δ : Nat} {Z : Zone} {c : Catalog} {w₀ : Workspace} {b b' : Bench}
  {e e' : Expr}

theorem Twin.add (h : Twin ρ δ Z b b') {s s' : Store} (hs : Store.Twin ρ s s')
    (he : e.Copy ρ δ e') :
    Twin ρ δ Z (b.add (e, { b.workspace with store := s, nodes := b.workspace.nodes + 1 }))
      (b'.add (e', { b'.workspace with store := s', nodes := b'.workspace.nodes + 1 })) where
  workspace :=
    { store := hs
      nodes := (congrArg (· + 1) h.workspace.nodes).trans (Nat.add_right_comm _ _ _)
      found := h.workspace.found }
  blocks := List.rel_append h.blocks (.cons he .nil)

theorem Twin.findType (h : Twin ρ δ (.since w₀) b b') (ht : Tended w₀ b) (ht' : Tended w₀ b')
    (hmem : e ∈ b.blocks) (hmem' : e' ∈ b'.blocks) (he : e.Copy ρ δ e') :
    Twin ρ δ (.since w₀) (b.adopt (b.workspace.findType e)) (b'.adopt (b'.workspace.findType e')) :=
  ⟨(h.workspace.findType he ht.inOrder ht'.inOrder (ht.within e hmem) (ht'.within e' hmem')).1, h.blocks⟩

theorem Twin.perform (h : Twin ρ δ (.since w₀) b b') (ht : Tended w₀ b) (ht' : Tended w₀ b')
    (hc : ∀ f ∈ c.functions, Renamed ρ f.signature f.signature) (act : Act) :
    Twin ρ δ (.since w₀) (b.perform c act) (b'.perform c act) := by
  unfold Bench.perform
  cases act with
  | ident name =>
    dsimp only [Catalog.ident]
    cases hlookup : c.lookup name with
    | error err => exact h
    | ok f =>
      refine h.add h.workspace.store ?_
      rw [h.workspace.nodes]
      exact .ident name (hc f (Catalog.lookup_mem hlookup))
  | value typeText text =>
    dsimp only [Catalog.value, Store.ofSignature]
    cases Signature.readWide c.signatureClasses typeText with
    | error err => exact h
    | ok sig =>
      obtain ⟨hstore, htype⟩ := sig.build_twin h.workspace.store
      refine h.add hstore ?_
      dsimp only
      rw [h.workspace.nodes]
      exact .value text htype
  | apply i j =>
    rcases getElem?_cases h.blocks i with ⟨f, f', hf, hf', hcopy⟩ | ⟨hf, hf'⟩
    · rcases getElem?_cases h.blocks j with ⟨x, x', hx, hx', hcopy'⟩ | ⟨hx, hx'⟩
      · simp only [hf, hf', hx, hx']
        refine h.add h.workspace.store ?_
        rw [h.workspace.nodes]
        exact .apply hcopy hcopy'
      · simp only [hf, hf', hx, hx']
        exact h
    · simp only [hf, hf']
      exact h
  | findType i =>
    rcases getElem?_cases h.blocks i with ⟨e, e', he, he', hcopy⟩ | ⟨he, he'⟩
    · simp only [he, he']
      exact h.findType ht ht' (List.mem_of_getElem? he) (List.mem_of_getElem? he') hcopy
    · simp only [he, he']
      exact h
  | check i =>
    rcases getElem?_cases h.blocks i with ⟨e, e', he, he', hcopy⟩ | ⟨he, he'⟩
    · simp only [he, he', adopt_check]
      exact h.findType ht ht' (List.mem_of_getElem? he) (List.mem_of_getElem? he') hcopy
    · simp only [he, he']
      exact h

/-! ## Working on from a bench -/

theorem Twin.run (h : Twin ρ δ (.since w₀) b b') (ht : Tended w₀ b) (ht' : Tended w₀ b')
    (hover : c.Over w₀.store) (hc : ∀ f ∈ c.functions, Renamed ρ f.signature f.signature)
    (acts : List Act) : Twin ρ δ (.since w₀) (b.run c acts) (b'.run c acts) := by
  induction acts generalizing b b' with
  | nil => exact h
  | cons act acts ih => exact ih (h.perform ht ht' hc act) (ht.perform hover act) (ht'.perform hover act)

theorem Twin.checksAlike (h : Twin ρ δ (.since w₀) b b') (ht : Tended w₀ b) (ht' : Tended w₀ b') :
    List.Forall₂ (Workspace.ChecksAlike b.workspace b'.workspace) b.blocks b'.blocks := by
  refine List.forall₂_iff_get.2 ⟨h.blocks.length_eq, fun i hi hi' => ?_⟩
  have hmem := List.get_mem b.blocks ⟨i, hi⟩
  have hmem' := List.get_mem b'.blocks ⟨i, hi'⟩
  exact h.workspace.check (h.blocks.get hi hi') ht.inOrder ht'.inOrder (ht.within _ hmem)
    (ht'.within _ hmem') ht.pool ht'.pool hmem hmem'

/-- The workspace of a bench is a twin of the one it was started in: the cells and nodes that will be made
are only shifted. -/
theorem Tended.twin (h : Tended w₀ b) (hw : w₀.store.WellFormed)
    (unseen : ∀ n, w₀.nodes ≤ n → w₀.found? n = none) :
    Twin (Store.shift w₀.store.size (b.workspace.store.size - w₀.store.size))
      (b.workspace.nodes - w₀.nodes) (.since w₀) (Bench.start w₀) (Bench.start b.workspace) := by
  have hnodes := h.nodes
  refine ⟨⟨?_, (Nat.add_sub_cancel' hnodes).symm, fun n hn => ?_⟩, .nil⟩
  · exact Store.twin_of_agrees hw h.evolves.grows.size ((Zone.leaves_since hw).agrees h.evolves)
  · have hle : w₀.nodes ≤ n := hn
    have hlater : b.workspace.found? (n + (b.workspace.nodes - w₀.nodes)) = none :=
      h.unseen _ (by omega)
    rw [show (Bench.start w₀).workspace.found? n = none from unseen n hle,
      show (Bench.start b.workspace).workspace.found? _ = none from hlater]
    exact .none

/-- Whatever is built from a catalogue, found and checked, nothing in a signature of the catalogue changes,
not even for a moment. So what is built after that is checked as if nothing had been done before. -/
theorem checks_independent (ops : List Op) (legal : Session.start.Legal ops) (c : Catalog)
    (hc : c ∈ (Session.start.run ops).catalogs) (acts : List Act) :
    let w₀ := (Session.start.run ops).workspace
    let worked := (start w₀).run c acts
    (worked.history.head? = some w₀.store ∧ worked.history.getLast? = some worked.workspace.store ∧
      worked.history.IsChain (Store.Move fun k => w₀.store.size ≤ k) ∧
      ∀ m ∈ worked.history, ∀ f ∈ c.functions, ∀ k, w₀.store.Contains f.signature k →
        w₀.store.Agrees m k ∧ ∀ d, m.root d = m.root k ↔ w₀.store.root d = w₀.store.root k) ∧
    ∀ script : List Act,
      let fresh := (start w₀).run c script
      let later := (start worked.workspace).run c script
      List.Forall₂ (Workspace.ChecksAlike fresh.workspace later.workspace) fresh.blocks later.blocks := by
  intro w₀ worked
  have hproper := Session.proper_start.run legal
  have hw : w₀.store.WellFormed := hproper.inOrder.wellFormed
  have hover : c.Over w₀.store := hproper.catalogs c hc
  have hstart := Tended.start hw hproper.unseen
  have hworked : Tended w₀ worked := hstart.run hover acts
  refine ⟨⟨head?_run rfl acts, hworked.present, hworked.chain, fun m hm f hf k hk => ?_⟩, fun script => ?_⟩
  · exact hworked.untouched hw hm (lt_of_contains hw (hover f hf) hk)
  · have hsigs : ∀ f ∈ c.functions, Renamed (Store.shift w₀.store.size
        (worked.workspace.store.size - w₀.store.size)) f.signature f.signature :=
      fun f hf => .self fun v hv => Store.shift_of_lt (hover f hf v hv)
    have htwin := (hworked.twin hw hproper.unseen).run hstart hworked.restart hover hsigs script
    exact htwin.checksAlike (hstart.run hover script) (hworked.restart.run hover script)

/-- A call of `twice` with a value that is no function is refused, the next one binds the variable in the
copy of the signature, and the last one fails for it. Built again after that, the last call fails with the
same kind of error for the same input. -/
theorem checks_independent_after_failure :
    let ops : List Op := [.loadCatalog [(.text "functions", .map [(.text "Base", .map [
      (.text "twice", .scalar (.text "(a -> a) -> a -> a")),
      (.text "next", .scalar (.text "Int -> Int"))])])]]
    let a : Ty := .var ⟨"a", 0⟩
    let twice : FunctionInfo := ⟨.text "twice", .text "Base", .arrow (.arrow a a) (.arrow a a)⟩
    let next : FunctionInfo := ⟨.text "next", .text "Base", .arrow (.con "Int") (.con "Int")⟩
    let c : Catalog := ⟨[], [twice, next]⟩
    let acts : List Act := [.ident "twice", .value "Bool" "True", .apply 0 1, .check 2,
      .ident "next", .apply 0 3, .check 4, .apply 4 1, .check 5]
    let script : List Act := [.ident "twice", .ident "next", .apply 0 1, .value "Bool" "True", .apply 2 3]
    let worked := (start (Session.start.run ops).workspace).run c acts
    let later := (start worked.workspace).run c script
    Session.start.Legal ops ∧ c ∈ (Session.start.run ops).catalogs ∧
      worked.workspace.store.bound? 1 = some (.con "Int") ∧ (∀ m ∈ worked.history, m.bound? 0 = none) ∧
      ∃ e' error', later.blocks[4]? = some e' ∧
        (later.workspace.check e').result = .ok (.failed error') ∧ error'.kind = .mismatch ∧
        error'.site?.map (·.index) = some 1 := by
  intro ops a twice next c acts script worked later
  have legal : Session.start.Legal ops := by decide +kernel
  have hc : c ∈ (Session.start.run ops).catalogs := by decide +kernel
  obtain ⟨⟨-, -, -, untouched⟩, alike⟩ := checks_independent ops legal c hc acts
  refine ⟨legal, hc, by decide +kernel, fun m hm => ?_, ?_⟩
  · have hcell : (Session.start.run ops).store.Contains twice.signature 0 :=
      ⟨⟨"a", 0⟩, by decide, .inl rfl⟩
    exact (untouched m hm twice (by decide) 0 hcell).1.bound
  · let fresh := (start (Session.start.run ops).workspace).run c script
    let e : Expr := .apply 4 (.apply 2 (.ident 0 "twice" twice.signature) (.ident 1 "next" next.signature))
      (.value 3 (.con "Bool") "True")
    let error : TypeError := ⟨.mismatch, "Int ⊥ Bool", some e⟩
    have he : fresh.blocks[4]? = some e := by decide +kernel
    have hfailed : (fresh.workspace.check e).result = .ok (.failed error) := by decide +kernel
    rcases getElem?_cases (alike script) 4 with ⟨d, e', hd, he', -, report, report', hr, hr', same⟩ | hnone
    · obtain rfl : e = d := Option.some.inj (he.symm.trans hd)
      obtain rfl : report = .failed error := Except.ok.inj (hr.symm.trans hfailed)
      cases same with
      | failed kind left right inside place index => exact ⟨e', _, he', hr', kind, index⟩
    · exact absurd (he.symm.trans hnone.1) nofun

end BlockTypes.Bench
