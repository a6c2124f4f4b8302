import BlockTypes.Proofs.Catalog
import BlockTypes.Proofs.Check.Kept

/-!
# Sessions

A session is a workspace with all that was done to it: variables are made, types are built, copied,
merged and unified, catalogues are loaded, blocks are made, and types of blocks are found, in any order
and whether an operation fails or not. It keeps the variables that were handed out, the catalogues, the
blocks, and every store that was passed, also in the middle of an operation. `Effect` lists what an
operation can do to a session in order, wherever that session has started. `Proper` is what all of this
amounts to for a session that has started from nothing, and `Proper.run` says that it holds after every
sequence of operations.
-/

namespace BlockTypes

open Config (Scalar Data)

/-- One operation of a session. -/
inductive Op where
  | newVar (name : String) (cs : ConstraintSet)
  | freshVar (stem : String) (cs : ConstraintSet)
  | signature (classes : Signature.Classes) (text : WideText)
  | instantiate (t : Ty)
  | merge (v w : TypeVar)
  | unify (context : Option Expr) (a b : Ty)
  | loadCatalog (entries : List (Scalar × Data))
  | addFunction (c : Catalog) (name category : Scalar) (text : Data)
  | value (t : Ty) (text : String)
  | ident (name : String) (sig : Ty)
  | apply (f x : Expr)
  | findType (e : Expr)
  | check (e : Expr)

/-- A workspace, the variables handed out with the constraints they were made with, the catalogues and
the blocks made, and the stores passed, the present one last. -/
structure Session where
  workspace : Workspace
  handles : List (TypeVar × ConstraintSet)
  catalogs : List Catalog
  blocks : List Expr
  history : List Store

/-- The class of the cell still answers for the constraints `cs`: it is unbound and has all of them, or
it stands for a constructor that they admit, if there are any. -/
def Store.Keeps (s : Store) (cs : ConstraintSet) (c : CellId) : Prop :=
  match s.bound? c with
  | none => ∀ k ∈ cs, k ∈ s.constraints c
  | some t => cs ≠ ∅ → ∃ name, t = .con name ∧ cs.Admits name

namespace Session

/-- The session in which nothing was done yet. -/
def start : Session := ⟨∅, [], [], [], [∅]⟩

/-- The present store. -/
def store (s : Session) : Store := s.workspace.store

/-! ## Operations -/

/-- Goes on to another store, where variables were handed out. -/
def move (s : Session) (store : Store) (made : List (TypeVar × ConstraintSet)) : Session :=
  { s with
    workspace := { s.workspace with store }
    handles := s.handles ++ made
    history := s.history ++ [store] }

/-- Goes on to another store, where types were made. -/
def moveTo (s : Session) (types : List Ty) (store : Store) : Session :=
  s.move store (types.flatMap fun t => t.vars.map fun v => (v, store.constraints v.cell))

/-- Adds a catalogue that was made, whose signatures were made with it. -/
def addCatalog (s : Session) (types : List Ty) (c : Catalog) (store : Store) : Session :=
  { s.moveTo types store with catalogs := s.catalogs ++ [c] }

/-- Goes on through all stores of a finding. -/
def adopt {α : Type} (s : Session) (f : Finding α) : Session :=
  { s with workspace := f.workspace, history := s.history ++ f.trail }

/-- Adds a block that was made. -/
def addBlock (s : Session) (made : Expr × Workspace) : Session :=
  { s with workspace := made.2, blocks := made.1 :: s.blocks }

/-- The session after one operation. What fails leaves what it did before it failed. -/
def perform (s : Session) : Op → Session
  | .newVar name cs => s.move (s.store.newVar name cs).2 [((s.store.newVar name cs).1, cs)]
  | .freshVar stem cs => s.move (s.store.fresh stem cs).2 [((s.store.fresh stem cs).1, cs)]
  | .signature classes text =>
    match s.store.ofSignature classes text with
    | .ok (t, store) => s.moveTo [t] store
    | .error _ => s
  | .instantiate t => s.moveTo [(s.store.instantiate t).1] (s.store.instantiate t).2
  | .merge v w =>
    match s.store.merge v w with
    | .ok store => s.move store []
    | .error _ => s
  | .unify context a b => s.adopt (s.workspace.unify context a b)
  | .loadCatalog entries =>
    match Catalog.ofEntries s.store entries with
    | .ok (c, store) => s.addCatalog (c.functions.map (·.signature)) c store
    | .error _ => s
  | .addFunction c name category text =>
    match c.add s.store name category text with
    | .ok (f, c, store) => s.addCatalog [f.signature] c store
    | .error _ => s
  | .value t text => s.addBlock (s.workspace.value t text)
  | .ident name sig => s.addBlock (s.workspace.ident name sig)
  | .apply f x => s.addBlock (s.workspace.apply f x)
  | .findType e => s.adopt (s.workspace.findType e)
  | .check e => s.adopt (s.workspace.check e)

/-- The session after a sequence of operations. -/
def run (s : Session) (ops : List Op) : Session := ops.foldl perform s

/-- The operation speaks only of variables, catalogues and blocks that there are. -/
def Allows (s : Session) : Op → Prop
  | .newVar _ _ => True
  | .freshVar _ _ => True
  | .signature _ _ => True
  | .instantiate t => s.store.Over t
  | .merge v w => v.cell < s.store.size ∧ w.cell < s.store.size
  | .unify _ a b => s.store.Over a ∧ s.store.Over b
  | .loadCatalog _ => True
  | .addFunction c _ _ _ => c ∈ s.catalogs
  | .value t _ => s.store.Over t
  | .ident _ sig => s.store.Over sig
  | .apply f x => f ∈ s.blocks ∧ x ∈ s.blocks
  | .findType e => e ∈ s.blocks
  | .check e => e ∈ s.blocks

instance (s : Session) : (op : Op) → Decidable (s.Allows op)
  | .newVar _ _ => inferInstanceAs (Decidable True)
  | .freshVar _ _ => inferInstanceAs (Decidable True)
  | .signature _ _ => inferInstanceAs (Decidable True)
  | .instantiate t => inferInstanceAs (Decidable (s.store.Over t))
  | .merge v w => inferInstanceAs (Decidable (v.cell < s.store.size ∧ w.cell < s.store.size))
  | .unify _ a b => inferInstanceAs (Decidable (s.store.Over a ∧ s.store.Over b))
  | .loadCatalog _ => inferInstanceAs (Decidable True)
  | .addFunction c _ _ _ => inferInstanceAs (Decidable (c ∈ s.catalogs))
  | .value t _ => inferInstanceAs (Decidable (s.store.Over t))
  | .ident _ sig => inferInstanceAs (Decidable (s.store.Over sig))
  | .apply f x => inferInstanceAs (Decidable (f ∈ s.blocks ∧ x ∈ s.blocks))
  | .findType e => inferInstanceAs (Decidable (e ∈ s.blocks))
  | .check e => inferInstanceAs (Decidable (e ∈ s.blocks))

/-- All operations of the sequence are allowed when their turn comes. -/
def Legal : Session → List Op → Prop
  | _, [] => True
  | s, op :: ops => s.Allows op ∧ (s.perform op).Legal ops

instance decidableLegal : (s : Session) → (ops : List Op) → Decidable (s.Legal ops)
  | _, [] => inferInstanceAs (Decidable True)
  | s, op :: ops =>
    have := decidableLegal (s.perform op) ops
    inferInstanceAs (Decidable (s.Allows op ∧ (s.perform op).Legal ops))

theorem run_append (s : Session) (ops more : List Op) :
    s.run (ops ++ more) = (s.run ops).run more :=
  List.foldl_append

theorem legal_append {s : Session} {ops more : List Op} :
    s.Legal (ops ++ more) ↔ s.Legal ops ∧ (s.run ops).Legal more := by
  induction ops generalizing s with
  | nil => simp [Legal, run]
  | cons op ops ih =>
    show s.Allows op ∧ (s.perform op).Legal (ops ++ more) ↔ _
    rw [ih, ← and_assoc]
    rfl

end Session

/-! ## Constraints are kept -/

namespace Store

variable {s s' : Store} {c d : CellId} {cs : ConstraintSet}

theorem Keeps.grows (h : s.Keeps cs c) (hg : s.Grows s') (hs' : s'.WellFormed) : s'.Keeps cs c := by
  unfold Keeps at h ⊢
  cases hb : s.bound? c with
  | some t =>
    rw [hb] at h
    rw [hg.bound c t hb]
    exact h
  | none =>
    rw [hb] at h
    cases hb' : s'.bound? c with
    | none => exact fun k hk => hg.constraints c k (h k hk)
    | some t =>
      -- The class was bound since, with all its constraints, and `cs` is among them.
      intro hcs
      obtain ⟨k, hk⟩ := exists_mem_of_ne_empty hcs
      have hne := ne_empty_of_mem (hg.constraints c k (h k hk))
      obtain ⟨name, rfl, hname⟩ := hs'.admitted c t hb' hne
      exact ⟨name, rfl, fun k hk => hname k (hg.constraints c k (h k hk))⟩

theorem WellFormed.keeps (hs : s.WellFormed) (c : CellId) : s.Keeps (s.constraints c) c := by
  unfold Keeps
  cases hb : s.bound? c with
  | none => exact fun k hk => hk
  | some t => exact hs.admitted c t hb

theorem Keeps.congr (h : s.Keeps cs c) (hcd : s.root c = s.root d) : s.Keeps cs d := by
  unfold Keeps at h ⊢
  rwa [← bound?_congr hcd, ← constraints_congr hcd]

/-- A new variable has the constraints it was made with. -/
theorem keeps_push (hs : s.WellFormed) (cs : ConstraintSet) : (s.push cs).Keeps cs s.size := by
  have h := ((extends_push s cs).wellFormed hs).keeps s.size
  rwa [constraints_push, if_pos rfl] at h

/-- What a checked merge does is at most one write. -/
theorem merge_move {v w : TypeVar} (hv : v.cell < s.size) (hw : w.cell < s.size)
    (h : s.merge v w = .ok s') : s.Move (fun _ => True) s' := by
  obtain ⟨-, rfl⟩ | ⟨hne, left, right, rfl⟩ := merge_cases h
  · exact (Extends.refl s').move
  · exact (Write.merge ⟨hne, hv, hw⟩ left right trivial trivial).move

end Store

/-! ## What an operation does -/

namespace Session

variable {s s' : Session}

/-- The store is well-formed, and the catalogues, the blocks and their types belong to it. No two blocks
have one node, nor will a new block have the node of one that there is. -/
structure Orderly (s : Session) : Prop where
  inOrder : s.workspace.InOrder .all
  catalogs : ∀ c ∈ s.catalogs, c.Over s.store
  pool : Pool s.blocks
  below : ∀ e ∈ s.blocks, e.node < s.workspace.nodes
  within : ∀ e ∈ s.blocks, e.Within .all s.store

/-- What an operation can do to a session. -/
inductive Effect (s : Session) : Session → Prop
  | nothing : Effect s s
  | move {store : Store} {made : List (TypeVar × ConstraintSet)}
      (moves : s.store.Move (fun _ => True) store)
      (kept : ∀ v cs, (v, cs) ∈ made → store.Keeps cs v.cell) : Effect s (s.move store made)
  | catalog {types : List Ty} {c : Catalog} {store : Store} (grows : s.store.Extends store)
      (inStore : c.Over store) : Effect s (s.addCatalog types c store)
  | block {e : Expr} (node : e.node = s.workspace.nodes) (within : e.Within .all s.store)
      (parts : ∀ d ∈ e.children, d ∈ s.blocks) :
      Effect s (s.addBlock (e, { s.workspace with nodes := s.workspace.nodes + 1 }))
  | unify {context : Option Expr} {a b : Ty} (left : s.store.Over a) (right : s.store.Over b) :
      Effect s (s.adopt (s.workspace.unify context a b))
  | find {e : Expr} (made : e ∈ s.blocks) : Effect s (s.adopt (s.workspace.findType e))

/-- The variables of types that were just made have the constraints they were made with. -/
theorem keeps_of_made (hs : s.store.WellFormed) {store : Store} (hext : s.store.Extends store)
    (types : List Ty) :
    ∀ v cs, (v, cs) ∈ types.flatMap (fun t => t.vars.map fun v => (v, store.constraints v.cell)) →
      store.Keeps cs v.cell := by
  intro v cs hv
  obtain ⟨t, -, hv⟩ := List.mem_flatMap.1 hv
  obtain ⟨u, -, hu⟩ := List.mem_map.1 hv
  cases hu
  exact (hext.wellFormed hs).keeps v.cell

/-- For the session it makes no difference whether a type is found or checked. -/
theorem adopt_check (s : Session) (e : Expr) :
    s.adopt (s.workspace.check e) = s.adopt (s.workspace.findType e) := by
  unfold adopt
  rw [Workspace.check_workspace, Workspace.check_trail]

theorem Orderly.effect (h : s.Orderly) {op : Op} (allowed : s.Allows op) :
    Effect s (s.perform op) := by
  have hs := h.inOrder.wellFormed
  cases op with
  | newVar name cs =>
    refine .move (Store.extends_push s.store cs).move fun v ds hv => ?_
    cases List.mem_singleton.1 hv
    exact Store.keeps_push hs cs
  | freshVar stem cs =>
    refine .move (Store.fresh_extends s.store stem cs).move fun v ds hv => ?_
    cases List.mem_singleton.1 hv
    exact Store.keeps_push hs cs
  | signature classes text =>
    rw [perform]
    split
    · have hext := (Store.ofSignature_new ‹_›).1
      exact .move hext.move (keeps_of_made hs hext _)
    · exact .nothing
  | instantiate t =>
    have hext := Store.instantiate_extends s.store t
    exact .move hext.move (keeps_of_made hs hext _)
  | merge v w =>
    rw [perform]
    split
    · exact .move (Store.merge_move allowed.1 allowed.2 ‹_›) fun v cs hv => by cases hv
    · exact .nothing
  | unify context a b => exact .unify allowed.1 allowed.2
  | loadCatalog entries =>
    rw [perform]
    split
    · obtain ⟨hext, hc⟩ := Catalog.ofEntries_new ‹_›
      exact .catalog hext hc
    · exact .nothing
  | addFunction c name category text =>
    rw [perform]
    split
    · obtain ⟨hext, hc⟩ := Catalog.add_new (h.catalogs c allowed) ‹_›
      exact .catalog hext hc
    · exact .nothing
  | value t text => exact .block rfl ⟨trivial, allowed.within⟩ fun d hd => by cases hd
  | ident name sig => exact .block rfl ⟨trivial, allowed⟩ fun d hd => by cases hd
  | apply f x =>
    refine .block rfl ⟨trivial, h.within f allowed.1, h.within x allowed.2⟩ fun d hd => ?_
    rcases List.mem_pair.1 hd with rfl | rfl
    · exact allowed.1
    · exact allowed.2
  | findType e => exact .find allowed
  | check e =>
    rw [perform, adopt_check]
    exact .find allowed

theorem Effect.evolves (h : Effect s s') (hs : s.Orderly) :
    Store.Evolves (fun _ => True) s.store s'.store := by
  cases h with
  | nothing => exact .refl
  | move moves => exact .single moves
  | catalog grows => exact .single grows.move
  | block => exact .refl
  | unify left right =>
    have hunified := Store.unify_unified (hs.inOrder.ready left.within right.within)
    exact hunified.passes.evolves _ (List.mem_append_right _ (List.mem_singleton.2 rfl))
  | @find e made => exact ((s.workspace.findType_finds e).fair hs.inOrder (hs.within e made)).evolves

/-- A session whose blocks stay as they are, while the store moves on. -/
theorem Orderly.later (h : s.Orderly) (inOrder : s'.workspace.InOrder .all)
    (nodes : s'.workspace.nodes = s.workspace.nodes) (blocks : s'.blocks = s.blocks)
    (evolves : Store.Evolves (fun _ => True) s.store s'.store)
    (catalogs : ∀ c ∈ s'.catalogs, c ∈ s.catalogs ∨ c.Over s'.store) : s'.Orderly where
  inOrder := inOrder
  catalogs c hc := (catalogs c hc).elim (fun hc => (h.catalogs c hc).grows evolves.grows) id
  pool := blocks ▸ h.pool
  below := by
    rw [blocks, nodes]
    exact h.below
  within := by
    rw [blocks]
    exact fun e he => (h.within e he).grows evolves.grows

theorem Effect.orderly (h : Effect s s') (hs : s.Orderly) : s'.Orderly := by
  have hev := h.evolves hs
  have hmoved := hs.inOrder.evolves hev
  cases h with
  | nothing => exact hs
  | move moves => exact hs.later hmoved rfl rfl hev fun c hc => .inl hc
  | catalog grows inStore =>
    refine hs.later hmoved rfl rfl hev fun c hc => ?_
    rcases List.mem_append.1 hc with hc | hc
    · exact .inl hc
    · obtain rfl := List.mem_singleton.1 hc
      exact .inr inStore
  | @block e node within parts =>
    refine ⟨{ hs.inOrder with }, hs.catalogs, ?_, fun d hd => ?_, fun d hd => ?_⟩
    · exact hs.pool.add (fun d hd => node ▸ hs.below d hd) parts
    · rcases List.mem_cons.1 hd with rfl | hd
      · exact node ▸ Nat.lt_succ_self _
      · exact Nat.lt_succ_of_lt (hs.below d hd)
    · rcases List.mem_cons.1 hd with rfl | hd
      · exact within
      · exact hs.within d hd
  | unify left right => exact hs.later hmoved rfl rfl hev fun c hc => .inl hc
  | @find e made =>
    have hfair := (s.workspace.findType_finds e).fair hs.inOrder (hs.within e made)
    exact hs.later hfair.inOrder hfair.nodes rfl hev fun c hc => .inl hc

theorem Orderly.perform (h : s.Orderly) {op : Op} (allowed : s.Allows op) : (s.perform op).Orderly :=
  (h.effect allowed).orderly h

theorem Orderly.run (h : s.Orderly) {ops : List Op} (legal : s.Legal ops) : (s.run ops).Orderly := by
  induction ops generalizing s with
  | nil => exact h
  | cons op ops ih => exact ih (h.perform legal.1) legal.2

theorem Orderly.evolves_run (h : s.Orderly) {ops : List Op} (legal : s.Legal ops) :
    Store.Evolves (fun _ => True) s.store (s.run ops).store := by
  induction ops generalizing s with
  | nil => exact .refl
  | cons op ops ih => exact ((h.effect legal.1).evolves h).trans (ih (h.perform legal.1) legal.2)

/-! ## What holds in a session from the start -/

/-- The store is in order and all stores before it led there, the catalogues, the blocks and their types
belong to it, and the variables handed out have kept their constraints. -/
structure Proper (s : Session) : Prop where
  inOrder : s.workspace.InOrder .all
  catalogs : ∀ c ∈ s.catalogs, c.Over s.store
  pool : Pool s.blocks
  below : ∀ e ∈ s.blocks, e.node < s.workspace.nodes
  within : ∀ e ∈ s.blocks, e.Within .all s.store
  unseen : ∀ n, s.workspace.nodes ≤ n → s.workspace.found? n = none
  consistent : s.workspace.Consistent (fun _ => True) ∅ s.blocks
  handles : ∀ v cs, (v, cs) ∈ s.handles → s.store.Keeps cs v.cell
  chain : s.history.IsChain (Store.Move fun _ => True)
  first : s.history.head? = some ∅
  present : s.history.getLast? = some s.store

theorem Proper.orderly (h : s.Proper) : s.Orderly :=
  ⟨h.inOrder, h.catalogs, h.pool, h.below, h.within⟩

theorem proper_start : start.Proper where
  inOrder :=
    { wellFormed := Store.wellFormed_empty
      region := ⟨fun _ => Iff.rfl, fun _ _ _ _ _ _ => trivial⟩
      new := fun _ _ => trivial
      found := fun n t _ h => by cases h }
  catalogs c hc := by cases hc
  pool := ⟨fun e he => (by cases he), fun d hd => (by cases hd)⟩
  below e he := by cases he
  within e he := by cases he
  unseen _ _ := rfl
  consistent d hd := by cases hd
  handles v cs h := by cases h
  chain := .singleton _
  first := rfl
  present := rfl

/-- Every store of the history leads to the present one. -/
theorem Proper.evolves (h : s.Proper) : Store.Evolves (fun _ => True) ∅ s.store := by
  obtain ⟨rest, hrest⟩ : ∃ rest, s.history = ∅ :: rest := by
    cases hl : s.history with
    | nil => simpa [hl] using h.first
    | cons x rest => exact ⟨rest, by simpa [hl] using h.first⟩
  have hchain : (∅ :: rest).IsChain (Store.Evolves fun _ => True) :=
    hrest ▸ h.chain.imp fun _ _ hm => .single hm
  have hmem : s.store ∈ ∅ :: rest := hrest ▸ List.mem_of_getLast? h.present
  rcases List.mem_cons.1 hmem with hmem | hmem
  · rw [hmem]
  · exact List.rel_of_pairwise_cons (List.isChain_iff_pairwise.1 hchain) hmem

/-- Whatever goes on from the present store, and leaves the blocks as they are. -/
theorem Proper.goOn (h : s.Proper) (made : List (TypeVar × ConstraintSet)) {w : Workspace}
    {l : List Store} (inOrder : w.InOrder .all) (nodes : w.nodes = s.workspace.nodes)
    (unseen : ∀ n, s.workspace.nodes ≤ n → w.found? n = none)
    (consistent : w.Consistent (fun _ => True) ∅ s.blocks)
    (evolves : Store.Evolves (fun _ => True) s.store w.store)
    (kept : ∀ v cs, (v, cs) ∈ made → w.store.Keeps cs v.cell)
    (first : ∀ m ∈ l.head?, s.store.Move (fun _ => True) m)
    (chain : l.IsChain (Store.Move fun _ => True)) (present : l.getLast? = some w.store) :
    Proper ⟨w, s.handles ++ made, s.catalogs, s.blocks, s.history ++ l⟩ where
  inOrder := inOrder
  catalogs c hc := (h.catalogs c hc).grows evolves.grows
  pool := h.pool
  below e he := nodes ▸ h.below e he
  within e he := (h.within e he).grows evolves.grows
  unseen n hn := unseen n (nodes ▸ hn)
  consistent := consistent
  handles v cs hv := by
    rcases List.mem_append.1 hv with hv | hv
    · exact (h.handles v cs hv).grows evolves.grows inOrder.wellFormed
    · exact kept v cs hv
  chain := by
    refine List.isChain_append.2 ⟨h.chain, chain, fun x hx y hy => ?_⟩
    rw [h.present] at hx
    cases hx
    exact first y hy
  first := by simp [List.head?_append, h.first]
  present := by simp [List.getLast?_append, present, store]

theorem Proper.move (h : s.Proper) {store : Store} (hm : s.store.Move (fun _ => True) store)
    {made : List (TypeVar × ConstraintSet)} (kept : ∀ v cs, (v, cs) ∈ made → store.Keeps cs v.cell) :
    (s.move store made).Proper := by
  have hev : Store.Evolves (fun _ => True) s.store store := .single hm
  refine h.goOn made (h.inOrder.evolves hev) rfl h.unseen
    (h.consistent.evolves h.inOrder.wellFormed hev) hev kept (fun m hm' => ?_) (.singleton _) rfl
  cases hm'
  exact hm

theorem Proper.addCatalog (h : s.Proper) (types : List Ty) {c : Catalog} {store : Store}
    (hext : s.store.Extends store) (hc : c.Over store) : (s.addCatalog types c store).Proper := by
  have hmoved := h.move hext.move (keeps_of_made h.inOrder.wellFormed hext types)
  refine { hmoved with catalogs := fun d hd => ?_ }
  rcases List.mem_append.1 hd with hd | hd
  · exact (h.catalogs d hd).grows hext.grows
  · obtain rfl := List.mem_singleton.1 hd
    exact hc

theorem Proper.adopt {α : Type} (h : s.Proper) {f : Finding α}
    (inOrder : f.workspace.InOrder .all) (nodes : f.workspace.nodes = s.workspace.nodes)
    (unseen : ∀ n, s.workspace.nodes ≤ n → f.workspace.found? n = none)
    (consistent : f.workspace.Consistent (fun _ => True) ∅ s.blocks)
    (passes : Store.Passes (fun _ => True) s.store f.trail) : (s.adopt f).Proper := by
  have hmem : f.workspace.store ∈ f.trail := by simp [Finding.trail]
  have hproper := h.goOn [] inOrder nodes unseen consistent (passes.evolves _ hmem)
    (fun v cs hv => by cases hv) (fun m hm => (passes.first m hm).move) passes.chain
    (by simp [Finding.trail])
  rwa [List.append_nil] at hproper

/-- A block that is new and made of blocks that there are. -/
theorem Proper.addBlock (h : s.Proper) {e : Expr} (node : e.node = s.workspace.nodes)
    (within : e.Within .all s.store) (parts : ∀ d ∈ e.children, d ∈ s.blocks) :
    (s.addBlock (e, { s.workspace with nodes := s.workspace.nodes + 1 })).Proper where
  inOrder := { h.inOrder with }
  catalogs := h.catalogs
  pool := h.pool.add (fun d hd => node ▸ h.below d hd) parts
  below d hd := by
    rcases List.mem_cons.1 hd with rfl | hd
    · exact node ▸ Nat.lt_succ_self _
    · exact Nat.lt_succ_of_lt (h.below d hd)
  within d hd := by
    rcases List.mem_cons.1 hd with rfl | hd
    · exact within
    · exact h.within d hd
  unseen n hn := h.unseen n ((Nat.le_succ _).trans hn)
  consistent d hd t ht := by
    rcases List.mem_cons.1 hd with rfl | hd
    · have hnone := h.unseen d.node (Nat.le_of_eq node.symm)
      rw [show s.workspace.found? d.node = some t from ht] at hnone
      cases hnone
    · exact (h.consistent d hd t ht).later h.inOrder.wellFormed .refl fun _ _ hm => hm
  handles := h.handles
  chain := h.chain
  first := h.first
  present := h.present

theorem Proper.findType (h : s.Proper) {e : Expr} (he : e ∈ s.blocks) :
    (s.adopt (s.workspace.findType e)).Proper := by
  have hfinds := s.workspace.findType_finds e
  have hfair := hfinds.fair h.inOrder (h.within e he)
  refine h.adopt hfair.inOrder hfair.nodes (fun n hn => ?_) ?_ hfair.passes
  · rw [hfinds.above h.pool he ((h.below e he).trans_le hn)]
    exact h.unseen n hn
  · exact hfinds.consistent h.pool he h.inOrder (h.within e he) h.evolves h.consistent

theorem Proper.unify (h : s.Proper) (context : Option Expr) {a b : Ty} (ha : s.store.Over a)
    (hb : s.store.Over b) : (s.adopt (s.workspace.unify context a b)).Proper := by
  have hunified := Store.unify_unified (h.inOrder.ready ha.within hb.within)
  have hpasses := hunified.passes
  have hev := hpasses.evolves (s.workspace.store.unify a b).store (by simp [Outcome.trail])
  refine h.adopt (h.inOrder.evolves hev) rfl h.unseen
    (h.consistent.evolves h.inOrder.wellFormed hev) ?_
  rw [Workspace.unify, Workspace.adopt_trail]
  exact hpasses

theorem Proper.perform (h : s.Proper) {op : Op} (allowed : s.Allows op) : (s.perform op).Proper := by
  have heffect := h.orderly.effect allowed
  generalize s.perform op = s' at heffect ⊢
  cases heffect with
  | nothing => exact h
  | move moves kept => exact h.move moves kept
  | catalog grows inStore => exact h.addCatalog _ grows inStore
  | block node within parts => exact h.addBlock node within parts
  | unify left right => exact h.unify _ left right
  | find made => exact h.findType made

theorem Proper.run (h : s.Proper) {ops : List Op} (legal : s.Legal ops) : (s.run ops).Proper := by
  induction ops generalizing s with
  | nil => exact h
  | cons op ops ih => exact ih (h.perform legal.1) legal.2

end Session

end BlockTypes
