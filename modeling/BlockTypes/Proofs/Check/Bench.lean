import BlockTypes.Proofs.Catalog
import BlockTypes.Proofs.Check.Kept
import BlockTypes.Proofs.Check.Typing

/-!
# Working with a catalogue

At a bench blocks are made from a catalogue, and their types are found and checked, in any order and with
any number of failures. All that is written is written to cells made at the bench (`Tended.run`): the
signatures of the catalogue are templates that nobody touches (`Tended.untouched`).
-/

namespace BlockTypes

/-- What is done at a bench. Blocks are named by their place in the order of making, and a call with several
arguments is made one application at a time. -/
inductive Act where
  | ident (name : String)
  | value (typeText text : String)
  | apply (function argument : Nat)
  | findType (block : Nat)
  | check (block : Nat)
deriving DecidableEq

/-- A workspace, the blocks that were made in it, in order, and all stores that it has passed. -/
structure Bench where
  workspace : Workspace
  blocks : List Expr
  history : List Store

namespace Bench

/-- A bench at which nothing is made yet. -/
def start (w : Workspace) : Bench := ⟨w, [], [w.store]⟩

/-- The bench with one more block. -/
def add (b : Bench) (made : Expr × Workspace) : Bench :=
  ⟨made.2, b.blocks ++ [made.1], b.history ++ [made.2.store]⟩

/-- The bench after a finding, whether it has failed or not. -/
def adopt {α : Type} (b : Bench) (f : Finding α) : Bench :=
  { b with workspace := f.workspace, history := b.history ++ f.trail }

/-- The bench after an act. An act with a name that the catalogue does not have, a type that cannot be read
or a block that is not there does nothing. -/
def perform (c : Catalog) (b : Bench) : Act → Bench
  | .ident name =>
    match c.ident b.workspace name with
    | .ok made => b.add made
    | .error _ => b
  | .value typeText text =>
    match c.value b.workspace typeText text with
    | .ok made => b.add made
    | .error _ => b
  | .apply i j =>
    match b.blocks[i]?, b.blocks[j]? with
    | some f, some x => b.add (b.workspace.apply f x)
    | _, _ => b
  | .findType i =>
    match b.blocks[i]? with
    | some e => b.adopt (b.workspace.findType e)
    | none => b
  | .check i =>
    match b.blocks[i]? with
    | some e => b.adopt (b.workspace.check e)
    | none => b

/-- The bench after acts. -/
def run (c : Catalog) (b : Bench) (acts : List Act) : Bench := acts.foldl (perform c) b

variable {c : Catalog} {w₀ : Workspace} {b b' : Bench} {e : Expr}

theorem adopt_check (b : Bench) (e : Expr) :
    b.adopt (b.workspace.check e) = b.adopt (b.workspace.findType e) := by
  unfold adopt
  rw [Workspace.check_workspace, Workspace.check_trail]

/-! ## What an act does -/

/-- What an act can do: a block is made of a function of the catalogue, of a new type or of blocks that
there are, or the type of a block is found. -/
inductive Effect (c : Catalog) (b : Bench) : Bench → Prop
  | nothing : Effect c b b
  | ident {name : String} {f : FunctionInfo} (known : f ∈ c.functions) :
      Effect c b (b.add (b.workspace.ident name f.signature))
  | value {text : String} {t : Ty} {s : Store} (grows : b.workspace.store.Extends s)
      (new : ∀ v ∈ t.vars, b.workspace.store.size ≤ v.cell ∧ v.cell < s.size) :
      Effect c b (b.add ({ b.workspace with store := s }.value t text))
  | apply {f x : Expr} (function : f ∈ b.blocks) (argument : x ∈ b.blocks) :
      Effect c b (b.add (b.workspace.apply f x))
  | find {e : Expr} (made : e ∈ b.blocks) : Effect c b (b.adopt (b.workspace.findType e))

theorem perform_effect (c : Catalog) (b : Bench) (act : Act) : Effect c b (b.perform c act) := by
  unfold perform
  cases act with
  | ident name =>
    dsimp only
    split
    · rename_i made hmade
      obtain ⟨f, hf, rfl⟩ := Catalog.ident_ok hmade
      exact .ident hf
    · exact .nothing
  | value typeText text =>
    dsimp only
    split
    · rename_i made hmade
      obtain ⟨t, s, hsig, rfl⟩ := Catalog.value_ok hmade
      obtain ⟨hext, hnew⟩ := Store.ofSignature_new hsig
      exact .value hext hnew
    · exact .nothing
  | apply i j =>
    dsimp only
    split
    · rename_i hf hx
      exact .apply (List.mem_of_getElem? hf) (List.mem_of_getElem? hx)
    · exact .nothing
  | findType i =>
    dsimp only
    split
    · rename_i he
      exact .find (List.mem_of_getElem? he)
    · exact .nothing
  | check i =>
    dsimp only
    split
    · rename_i he
      rw [adopt_check]
      exact .find (List.mem_of_getElem? he)
    · exact .nothing

theorem Effect.head? (h : Effect c b b') {s : Store} (hs : b.history.head? = some s) :
    b'.history.head? = some s := by
  cases h <;> simp [add, adopt, hs]

theorem head?_run {s : Store} (hs : b.history.head? = some s) (acts : List Act) :
    (b.run c acts).history.head? = some s := by
  induction acts generalizing b with
  | nil => exact hs
  | cons act acts ih => exact ih ((perform_effect c b act).head? hs)

/-! ## What holds at a bench -/

/-- All blocks and all cells of their types are made after `w₀`, and the store has come from that of `w₀`
by writes to cells made after it. -/
structure Tended (w₀ : Workspace) (b : Bench) : Prop where
  inOrder : b.workspace.InOrder (.since w₀)
  nodes : w₀.nodes ≤ b.workspace.nodes
  pool : Pool b.blocks
  below : ∀ e ∈ b.blocks, e.node < b.workspace.nodes
  within : ∀ e ∈ b.blocks, e.Within (.since w₀) b.workspace.store
  unseen : ∀ n, b.workspace.nodes ≤ n → b.workspace.found? n = none
  passed : ∀ m ∈ b.history, Store.Evolves (Zone.since w₀).cells w₀.store m
  chain : b.history.IsChain (Store.Move (Zone.since w₀).cells)
  present : b.history.getLast? = some b.workspace.store

namespace Tended

theorem evolves (h : Tended w₀ b) : Store.Evolves (Zone.since w₀).cells w₀.store b.workspace.store :=
  h.passed _ (List.mem_of_getLast? h.present)

/-- A bench with no blocks, in a workspace that may have been worked in. -/
theorem ofWorkspace {w : Workspace} (inOrder : w.InOrder (.since w₀)) (nodes : w₀.nodes ≤ w.nodes)
    (unseen : ∀ n, w.nodes ≤ n → w.found? n = none)
    (evolves : Store.Evolves (Zone.since w₀).cells w₀.store w.store) : Tended w₀ (start w) where
  inOrder := inOrder
  nodes := nodes
  pool := ⟨fun e he => (by cases he), fun e he => (by cases he)⟩
  below e he := by cases he
  within e he := by cases he
  unseen := unseen
  passed m hm := by
    rw [List.mem_singleton.1 hm]
    exact evolves
  chain := .singleton _
  present := rfl

theorem start (hw : w₀.store.WellFormed) (unseen : ∀ n, w₀.nodes ≤ n → w₀.found? n = none) :
    Tended w₀ (start w₀) := by
  refine ofWorkspace ⟨hw, (Zone.leaves_since hw).region, fun _ hc => hc, fun n t hn ht => ?_⟩
    (Nat.le_refl _) unseen .refl
  rw [unseen n hn] at ht
  cases ht

theorem restart (h : Tended w₀ b) : Tended w₀ (Bench.start b.workspace) :=
  ofWorkspace h.inOrder h.nodes h.unseen h.evolves

/-- The stores that were passed, and then further ones. -/
theorem history_append (h : Tended w₀ b) {l : List Store}
    (hl : Store.Passes (Zone.since w₀).cells b.workspace.store l) :
    (∀ m ∈ b.history ++ l, Store.Evolves (Zone.since w₀).cells w₀.store m) ∧
      (b.history ++ l).IsChain (Store.Move (Zone.since w₀).cells) := by
  refine ⟨fun m hm => ?_, List.isChain_append.2 ⟨h.chain, hl.chain, fun x hx y hy => ?_⟩⟩
  · rcases List.mem_append.1 hm with hm | hm
    · exact h.passed m hm
    · exact h.evolves.trans (hl.evolves m hm)
  · rw [h.present] at hx
    cases hx
    exact (hl.first y hy).move

/-- A block that is new and made of blocks that there are; its type may have new cells. -/
theorem add (h : Tended w₀ b) {s : Store} (hext : b.workspace.store.Extends s)
    (node : e.node = b.workspace.nodes) (within : e.Within (.since w₀) s)
    (parts : ∀ d ∈ e.children, d ∈ b.blocks) :
    Tended w₀ (b.add (e, { b.workspace with store := s, nodes := b.workspace.nodes + 1 })) := by
  obtain ⟨passed, chain⟩ := h.history_append (hext.passes_single)
  have hmoved := h.inOrder.evolves (.single hext.move)
  refine ⟨{ hmoved with }, h.nodes.trans (Nat.le_succ _), ?_, fun d hd => ?_, fun d hd => ?_,
    fun n hn => h.unseen n ((Nat.le_succ _).trans hn), passed, chain, by simp [Bench.add]⟩
  · refine (h.pool.add (fun d hd => node ▸ h.below d hd) parts).congr fun d => ?_
    simp [Bench.add, or_comm]
  · rcases List.mem_append.1 hd with hd | hd
    · exact Nat.lt_succ_of_lt (h.below d hd)
    · obtain rfl := List.mem_singleton.1 hd
      exact node ▸ Nat.lt_succ_self _
  · rcases List.mem_append.1 hd with hd | hd
    · exact (h.within d hd).grows hext.grows
    · obtain rfl := List.mem_singleton.1 hd
      exact within

theorem findType (h : Tended w₀ b) (he : e ∈ b.blocks) :
    Tended w₀ (b.adopt (b.workspace.findType e)) := by
  have hfinds := b.workspace.findType_finds e
  have hfair := hfinds.fair h.inOrder (h.within e he)
  obtain ⟨passed, chain⟩ := h.history_append hfair.passes
  refine ⟨hfair.inOrder, hfair.nodes ▸ h.nodes, h.pool, fun d hd => hfair.nodes ▸ h.below d hd,
    fun d hd => (h.within d hd).grows hfair.evolves.grows, fun n hn => ?_, passed, chain,
    by simp [adopt, Finding.trail]⟩
  rw [show (b.adopt (b.workspace.findType e)).workspace.nodes = _ from hfair.nodes] at hn
  exact (hfinds.above h.pool he ((h.below e he).trans_le hn)).trans (h.unseen n hn)

theorem effect (h : Tended w₀ b) (hc : c.Over w₀.store) (heffect : Effect c b b') : Tended w₀ b' := by
  cases heffect with
  | nothing => exact h
  | @ident name f known =>
    have hsig := (hc f known).grows h.evolves.grows
    exact h.add (.refl _) rfl ⟨h.nodes, hsig⟩ fun d hd => by cases hd
  | @value text t s grows new =>
    refine h.add grows rfl ⟨h.nodes, fun v hv => ⟨(new v hv).2, ?_⟩⟩ fun d hd => by cases hd
    exact h.evolves.grows.size.trans (new v hv).1
  | @apply f x function argument =>
    refine h.add (.refl _) rfl ⟨h.nodes, h.within f function, h.within x argument⟩ fun d hd => ?_
    rcases List.mem_pair.1 hd with rfl | rfl
    · exact function
    · exact argument
  | find made => exact h.findType made

theorem perform (h : Tended w₀ b) (hc : c.Over w₀.store) (act : Act) : Tended w₀ (b.perform c act) :=
  h.effect hc (perform_effect c b act)

theorem run (h : Tended w₀ b) (hc : c.Over w₀.store) (acts : List Act) : Tended w₀ (b.run c acts) := by
  induction acts generalizing b with
  | nil => exact h
  | cons act acts ih => exact ih (h.perform hc act)

end Tended

/-! ## Templates -/

/-- Nothing at a bench changes what was there before: neither what is known of a class, nor which cells
are in it. -/
theorem Tended.untouched (h : Tended w₀ b) (hw : w₀.store.WellFormed) {m : Store} (hm : m ∈ b.history)
    {k : CellId} (hk : k < w₀.store.size) :
    w₀.store.Agrees m k ∧ ∀ d, m.root d = m.root k ↔ w₀.store.root d = w₀.store.root k := by
  have hleaves := Zone.leaves_since hw
  have hev := h.passed m hm
  have hagrees := hleaves.agrees hev
  refine ⟨hagrees k hk, fun d => ?_⟩
  rw [(hagrees k hk).root]
  by_cases hd : d < w₀.store.size
  · rw [(hagrees d hd).root]
  · -- A cell made at the bench has a root made at the bench.
    have hnew : w₀.store.size ≤ m.root d := ((hev.region hleaves.region).root d).2 (Nat.not_lt.1 hd)
    have hroot := Store.root_lt hk
    refine iff_of_false (Nat.ne_of_gt (hroot.trans_le hnew)) ?_
    rw [Store.root_of_size_le (Nat.not_lt.1 hd)]
    exact Nat.ne_of_gt (hroot.trans_le (Nat.not_lt.1 hd))

theorem lt_of_contains {s : Store} (hs : s.WellFormed) {t : Ty} (ht : s.Over t) {k : CellId}
    (h : s.Contains t k) : k < s.size := by
  have hregion : Store.Region (· < s.size) s :=
    ⟨fun _ => Store.root_lt_iff, fun c t _ hb => hs.inStore c t hb⟩
  exact hregion.contains ht h

end Bench

end BlockTypes
