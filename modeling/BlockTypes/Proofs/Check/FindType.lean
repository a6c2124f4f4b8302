import BlockTypes.Proofs.Store.Copy
import BlockTypes.Proofs.Unify.MostGeneral

/-!
# Finding types

`Finds` lists what finding the type of an expression can do; all that is said about it comes from this
list by induction. A check is a finding whose type errors are results (`check_workspace`,
`check_passed_iff`). `Finds.fair` is about the store: whatever fails, it is passed on in order, from one
store to the next by at most one write and new cells, nothing outside of the zone of the expression is
touched, and no failure is other than a type error.
-/

namespace BlockTypes

/-- The stores noted in a log. -/
def Log.stores (log : List Log.Entry) : List Store :=
  log.filterMap fun
    | .unifier _ note => some note.store
    | _ => none

/-- The stores of a finding in order: those it noted, and the one it left. -/
def Finding.trail {α : Type} (f : Finding α) : List Store := Log.stores f.log ++ [f.workspace.store]

theorem Finding.andThen_ok {α β : Type} (w : Workspace) (log : List Log.Entry) (a : α)
    (next : Workspace → α → Finding β) :
    (⟨w, log, .ok a⟩ : Finding α).andThen next =
      ⟨(next w a).workspace, log ++ (next w a).log, (next w a).result⟩ := rfl

@[simp] theorem Log.stores_append (l l' : List Log.Entry) :
    Log.stores (l ++ l') = Log.stores l ++ Log.stores l' :=
  List.filterMap_append

@[simp] theorem Log.stores_unifier (context : Option Expr) (notes : List Note) :
    Log.stores (notes.map (.unifier context)) = notes.map (·.store) := by
  unfold stores
  rw [List.filterMap_map]
  exact List.filterMap_eq_map' (f := fun n : Note => n.store) ▸ rfl

/-- A part of a workspace: some of the cells and some of the blocks. -/
structure Zone where
  cells : CellId → Prop
  nodes : NodeId → Prop

/-- The whole workspace. -/
abbrev Zone.all : Zone := ⟨fun _ => True, fun _ => True⟩

/-- All blocks of the expression are in the zone. The values have types over cells of the store in the
zone, and the references have signatures over any cells of the store. -/
def Expr.Within (Z : Zone) (s : Store) : Expr → Prop
  | .value n t _ => Z.nodes n ∧ s.Within Z.cells t
  | .ident n _ sig => Z.nodes n ∧ s.Over sig
  | .apply n f x => Z.nodes n ∧ f.Within Z s ∧ x.Within Z s

theorem Expr.Within.node {Z : Zone} {e : Expr} {s : Store} (h : e.Within Z s) : Z.nodes e.node := by
  cases e <;> exact h.1

theorem Expr.Within.grows {Z : Zone} {e : Expr} {s s' : Store} (h : e.Within Z s)
    (hg : s.Grows s') : e.Within Z s' := by
  induction e with
  | value n t text => exact ⟨h.1, h.2.grows hg⟩
  | ident n name sig => exact ⟨h.1, h.2.grows hg⟩
  | apply n f x ihf ihx => exact ⟨h.1, ihf h.2.1, ihx h.2.2⟩

namespace Workspace

variable {w w' : Workspace} {Z : Zone} {e : Expr}

theorem found?_keep (w : Workspace) (n m : NodeId) (t : Ty) :
    (w.keep n t).found? m = if m = n then some t else w.found? m := by
  unfold found? keep
  rw [List.lookup_cons]
  by_cases h : m = n
  · simp [h]
  · rw [if_neg h, beq_false_of_ne h]

theorem adopt_trail (w : Workspace) (context : Option Expr) (o : Outcome) :
    (w.adopt context o).trail = o.trail := by
  unfold Finding.trail adopt Outcome.trail
  rw [Log.stores_unifier]

/-! ## What finding does -/

/-- The variable that an application makes for its own type. -/
def result (w : Workspace) : TypeVar := (w.store.fresh "t" ∅).1

/-- What an application does once the types of its parts are found. -/
def meet (w : Workspace) (functionType argumentType : Ty) : Outcome :=
  (w.store.fresh "t" ∅).2.unify functionType (.arrow argumentType (.var w.result))

/-- What comes of it: the type of the application is kept, if there was no failure. -/
def conclude (w : Workspace) (n : NodeId) (context : Expr) (o : Outcome) : Finding Ty :=
  (w.adopt (some context) o).andThen fun w' _ => .ok (w'.keep n (.var w.result)) (.var w.result)

theorem findType_kept {t : Ty} (h : w.found? e.node = some t) : w.findType e = .ok w t := by
  cases e with
  | value n u text => rw [findType, show w.found? n = some t from h]
  | ident n name sig => rw [findType, show w.found? n = some t from h]
  | apply n g x => rw [findType, show w.found? n = some t from h]

theorem findType_apply {n : NodeId} {f x : Expr} (new : w.found? n = none) :
    w.findType (.apply n f x) =
      (w.findType f).andThen fun w tf =>
      (w.findType x).andThen fun w tx => w.conclude n (.apply n f x) (w.meet tf tx) := by
  rw [findType, new]
  rfl

theorem conclude_failed {n : NodeId} {context : Expr} {o : Outcome} {failure : Failure}
    (h : o.failure = some failure) :
    w.conclude n context o =
      ⟨{ w with store := o.store }, o.notes.map (.unifier (some context)),
        .error (fault (some context) o.store failure)⟩ := by
  unfold conclude adopt
  rw [h]
  rfl

theorem conclude_met {n : NodeId} {context : Expr} {o : Outcome} (h : o.failure = none) :
    w.conclude n context o =
      ⟨{ w with store := o.store }.keep n (.var w.result), o.notes.map (.unifier (some context)),
        .ok (.var w.result)⟩ := by
  unfold conclude adopt
  rw [h, Finding.andThen_ok]
  simp [Finding.ok]

/-- What finding the type of an expression can do. -/
inductive Finds : Workspace → Expr → Finding Ty → Prop
  | kept {w : Workspace} {e : Expr} {t : Ty} (found : w.found? e.node = some t) :
      Finds w e (.ok w t)
  | value {w : Workspace} {n : NodeId} {t : Ty} {text : String} (new : w.found? n = none) :
      Finds w (.value n t text) (.ok (w.keep n t) t)
  | ident {w : Workspace} {n : NodeId} {name : String} {sig : Ty} (new : w.found? n = none) :
      Finds w (.ident n name sig) (.ok
        ({ w with store := (w.store.instantiate sig).2 }.keep n (w.store.instantiate sig).1)
        (w.store.instantiate sig).1)
  | function {w w' : Workspace} {n : NodeId} {f x : Expr} {log : List Log.Entry} {fault : Fault}
      (new : w.found? n = none) (function : Finds w f ⟨w', log, .error fault⟩) :
      Finds w (.apply n f x) ⟨w', log, .error fault⟩
  | argument {w w₁ w₂ : Workspace} {n : NodeId} {f x : Expr} {log₁ log₂ : List Log.Entry} {tf : Ty}
      {fault : Fault} (new : w.found? n = none) (function : Finds w f ⟨w₁, log₁, .ok tf⟩)
      (argument : Finds w₁ x ⟨w₂, log₂, .error fault⟩) :
      Finds w (.apply n f x) ⟨w₂, log₁ ++ log₂, .error fault⟩
  | clash {w w₁ w₂ : Workspace} {n : NodeId} {f x : Expr} {log₁ log₂ : List Log.Entry} {tf tx : Ty}
      {failure : Failure} (new : w.found? n = none) (function : Finds w f ⟨w₁, log₁, .ok tf⟩)
      (argument : Finds w₁ x ⟨w₂, log₂, .ok tx⟩) (failed : (w₂.meet tf tx).failure = some failure) :
      Finds w (.apply n f x)
        ⟨{ w₂ with store := (w₂.meet tf tx).store },
          log₁ ++ (log₂ ++ (w₂.meet tf tx).notes.map (.unifier (some (.apply n f x)))),
          .error (fault (some (.apply n f x)) (w₂.meet tf tx).store failure)⟩
  | apply {w w₁ w₂ : Workspace} {n : NodeId} {f x : Expr} {log₁ log₂ : List Log.Entry} {tf tx : Ty}
      (new : w.found? n = none) (function : Finds w f ⟨w₁, log₁, .ok tf⟩)
      (argument : Finds w₁ x ⟨w₂, log₂, .ok tx⟩) (met : (w₂.meet tf tx).failure = none) :
      Finds w (.apply n f x)
        ⟨{ w₂ with store := (w₂.meet tf tx).store }.keep n (.var w₂.result),
          log₁ ++ (log₂ ++ (w₂.meet tf tx).notes.map (.unifier (some (.apply n f x)))),
          .ok (.var w₂.result)⟩

theorem findType_finds (w : Workspace) (e : Expr) : Finds w e (w.findType e) := by
  induction e generalizing w with
  | value n t text =>
    unfold findType
    split
    · exact .kept ‹_›
    · exact .value ‹_›
  | ident n name sig =>
    unfold findType
    split
    · exact .kept ‹_›
    · exact .ident ‹_›
  | apply n f x ihf ihx =>
    cases new : w.found? n with
    | some t =>
      unfold findType
      rw [new]
      exact .kept new
    | none =>
      rw [findType_apply new]
      have hf := ihf w
      generalize w.findType f = gf at hf ⊢
      obtain ⟨w₁, log₁, _ | tf⟩ := gf
      · exact .function new hf
      have hx := ihx w₁
      rw [Finding.andThen_ok]
      generalize w₁.findType x = gx at hx ⊢
      obtain ⟨w₂, log₂, _ | tx⟩ := gx
      · exact .argument new hf hx
      rw [Finding.andThen_ok]
      cases hm : (w₂.meet tf tx).failure with
      | some failure =>
        rw [conclude_failed hm]
        exact .clash new hf hx hm
      | none =>
        rw [conclude_met hm]
        exact .apply new hf hx hm

/-! ## Checking -/

theorem check_workspace (w : Workspace) (e : Expr) :
    (w.check e).workspace = (w.findType e).workspace := by
  unfold check
  dsimp only
  split <;> rfl

theorem check_trail (w : Workspace) (e : Expr) : (w.check e).trail = (w.findType e).trail := by
  unfold Finding.trail
  rw [check_workspace]
  unfold check
  dsimp only
  split
  · rfl
  · simp [Log.stores]
  · rfl

/-- A check passes with the resolved type if there is one. -/
theorem check_passed_iff {t : Ty} :
    (w.check e).result = .ok (.passed t) ↔
      ∃ u, (w.findType e).result = .ok u ∧ t = (w.check e).workspace.store.resolve u := by
  rw [check_workspace]
  unfold check
  dsimp only
  split
  · rename_i u hu
    simp [hu, eq_comm]
  · rename_i hu
    simp [hu]
  · rename_i hu
    simp [hu]

theorem check_failed {error : TypeError} (h : (w.findType e).result = .error (.type error)) :
    (w.check e).result = .ok (.failed error) := by
  unfold check
  dsimp only
  rw [h]

/-! ## The store -/

/-- The store is well-formed, all cells that will be made are in the zone, and so are the cells of the
types found for blocks in the zone. -/
structure InOrder (Z : Zone) (w : Workspace) : Prop where
  wellFormed : w.store.WellFormed
  region : Store.Region Z.cells w.store
  new : ∀ c, w.store.size ≤ c → Z.cells c
  found : ∀ n t, Z.nodes n → w.found? n = some t → w.store.Within Z.cells t

theorem InOrder.evolves (h : w.InOrder Z) {s : Store} (hev : Store.Evolves Z.cells w.store s) :
    { w with store := s }.InOrder Z where
  wellFormed := hev.wellFormed h.wellFormed
  region := hev.region h.region
  new c hc := h.new c (hev.grows.size.trans hc)
  found n t hn ht := (h.found n t hn ht).grows hev.grows

theorem InOrder.keep (h : w.InOrder Z) {t : Ty} (ht : w.store.Within Z.cells t) (n : NodeId) :
    (w.keep n t).InOrder Z := by
  refine { h with found := fun m u hm hu => ?_ }
  rw [found?_keep] at hu
  split at hu
  · cases hu
    exact ht
  · exact h.found m u hm hu

theorem InOrder.ready (h : w.InOrder Z) {a b : Ty} (ha : w.store.Within Z.cells a)
    (hb : w.store.Within Z.cells b) : Store.Ready Z.cells w.store a b :=
  ⟨h.wellFormed, h.region, ha, hb⟩

/-- The type of the function meets the arrow in the store that has the new variable. -/
theorem InOrder.meet_ready (h : w.InOrder Z) {tf tx : Ty} (hf : w.store.Within Z.cells tf)
    (hx : w.store.Within Z.cells tx) :
    Store.Ready Z.cells (w.store.fresh "t" ∅).2 tf (.arrow tx (.var w.result)) := by
  have hext := Store.fresh_extends w.store "t" ∅
  have h' := h.evolves (.single hext.move)
  refine h'.ready (hf.grows hext.grows) fun v hv => ?_
  rcases List.mem_append.1 hv with hv | hv
  · exact (hx.grows hext.grows) v hv
  · obtain rfl : v = w.result := by simpa [TypeExpr.vars] using hv
    exact ⟨by rw [Store.size_fresh]; exact Nat.lt_succ_self _, h.new _ (Nat.le_refl _)⟩

theorem InOrder.meet (h : w.InOrder Z) {tf tx : Ty} (hf : w.store.Within Z.cells tf)
    (hx : w.store.Within Z.cells tx) :
    Store.Unified Z.cells (w.store.fresh "t" ∅).2 tf (.arrow tx (.var w.result)) (w.meet tf tx) :=
  Store.unify_unified (h.meet_ready hf hx)

theorem InOrder.meet_passes (h : w.InOrder Z) {tf tx : Ty} (hf : w.store.Within Z.cells tf)
    (hx : w.store.Within Z.cells tx) : Store.Passes Z.cells w.store (w.meet tf tx).trail :=
  (Store.fresh_extends w.store "t" ∅).passes (h.meet hf hx).passes

theorem InOrder.meet_evolves (h : w.InOrder Z) {tf tx : Ty} (hf : w.store.Within Z.cells tf)
    (hx : w.store.Within Z.cells tx) : Store.Evolves Z.cells w.store (w.meet tf tx).store :=
  (h.meet_passes hf hx).evolves _ (by simp [Outcome.trail])

/-- The store was passed on in order, and a failure is a type error. -/
structure Fair (Z : Zone) (w : Workspace) (f : Finding Ty) : Prop where
  passes : Store.Passes Z.cells w.store f.trail
  inOrder : f.workspace.InOrder Z
  type : ∀ t, f.result = .ok t → f.workspace.store.Within Z.cells t
  typeError : ∀ fault, f.result = .error fault → ∃ error, fault = .type error
  nodes : f.workspace.nodes = w.nodes

theorem Fair.evolves {f : Finding Ty} (h : Fair Z w f) :
    Store.Evolves Z.cells w.store f.workspace.store :=
  h.passes.evolves _ (by simp [Finding.trail])

theorem Fair.kept (hw : w.InOrder Z) {t : Ty} (ht : w.store.Within Z.cells t) (n : NodeId) :
    Fair Z w (.ok (w.keep n t) t) where
  passes := (Store.Extends.refl w.store).passes_single
  inOrder := hw.keep ht n
  type u hu := by
    cases hu
    exact ht
  typeError fault hf := by cases hf
  nodes := rfl

/-- The parts of an application, and then the meeting of their types. -/
theorem Fair.meet {w₁ w₂ : Workspace} {log₁ log₂ : List Log.Entry} {tf tx : Ty}
    (hf : Fair Z w ⟨w₁, log₁, .ok tf⟩) (hx : Fair Z w₁ ⟨w₂, log₂, .ok tx⟩) (context : Option Expr) :
    Store.Passes Z.cells w.store
      (Log.stores (log₁ ++ (log₂ ++ (w₂.meet tf tx).notes.map (.unifier context))) ++
        [(w₂.meet tf tx).store]) ∧
    Store.Evolves Z.cells w₂.store (w₂.meet tf tx).store ∧
    Store.Unified Z.cells (w₂.store.fresh "t" ∅).2 tf (.arrow tx (.var w₂.result)) (w₂.meet tf tx) := by
  have htf := (hf.type tf rfl).grows hx.evolves.grows
  have htx := hx.type tx rfl
  refine ⟨?_, hx.inOrder.meet_evolves htf htx, hx.inOrder.meet htf htx⟩
  rw [Log.stores_append, Log.stores_append, Log.stores_unifier, List.append_assoc, List.append_assoc]
  exact hf.passes.append (hx.passes.append (hx.inOrder.meet_passes htf htx))

theorem Finds.fair {f : Finding Ty} (h : Finds w e f) (hw : w.InOrder Z) (he : e.Within Z w.store) :
    Fair Z w f := by
  induction h with
  | kept found =>
    refine ⟨(Store.Extends.refl _).passes_single, hw, fun t ht => ?_, fun _ hf => (by cases hf), rfl⟩
    cases ht
    exact hw.found _ _ he.node found
  | value new => exact .kept hw he.2 _
  | @ident w n name sig new =>
    have hext := Store.instantiate_extends w.store sig
    have hw' := hw.evolves (.single hext.move)
    -- A copy has new variables only, so that it is in the zone wherever the signature is.
    have hcopy : (w.store.instantiate sig).2.Within Z.cells (w.store.instantiate sig).1 := by
      intro v hv
      obtain ⟨hlow, hhigh⟩ := Store.instantiate_new w.store sig v hv
      exact ⟨hhigh, hw.new _ hlow⟩
    exact { Fair.kept hw' hcopy n with passes := hext.passes_single }
  | function new _ ihf =>
    have hf := ihf hw he.2.1
    exact ⟨hf.passes, hf.inOrder, fun _ ht => (by cases ht), hf.typeError, hf.nodes⟩
  | @argument w w₁ w₂ n f x log₁ log₂ tf fault new _ _ ihf ihx =>
    have hf := ihf hw he.2.1
    have hx := ihx hf.inOrder (he.2.2.grows hf.evolves.grows)
    refine ⟨?_, hx.inOrder, fun _ ht => (by cases ht), hx.typeError, hx.nodes.trans hf.nodes⟩
    have hpasses := hf.passes.append hx.passes
    rwa [Finding.trail, ← List.append_assoc, ← Log.stores_append] at hpasses
  | @clash w w₁ w₂ n f x log₁ log₂ tf tx failure new _ _ failed ihf ihx =>
    have hf := ihf hw he.2.1
    have hx := ihx hf.inOrder (he.2.2.grows hf.evolves.grows)
    obtain ⟨hpasses, hev, hunified⟩ := hf.meet hx (some (.apply n f x))
    refine ⟨hpasses, hx.inOrder.evolves hev, fun _ ht => (by cases ht), fun fault hfault => ?_,
      hx.nodes.trans hf.nodes⟩
    -- What clashes is types: no variable is misused, and the bound on the depth is not reached.
    rcases hunified.failure_cases with hnone | ⟨cause, hcause⟩
    · rw [hnone] at failed
      cases failed
    · rw [hcause] at failed
      cases failed
      cases hfault
      exact ⟨_, rfl⟩
  | @apply w w₁ w₂ n f x log₁ log₂ tf tx new _ _ met ihf ihx =>
    have hf := ihf hw he.2.1
    have hx := ihx hf.inOrder (he.2.2.grows hf.evolves.grows)
    obtain ⟨hpasses, hev, hunified⟩ := hf.meet hx (some (.apply n f x))
    have hresult : (w₂.meet tf tx).store.Within Z.cells (.var w₂.result) := by
      intro v hv
      obtain rfl : v = w₂.result := by simpa [TypeExpr.vars] using hv
      refine ⟨?_, hx.inOrder.new _ (Nat.le_refl _)⟩
      rw [Store.Writes.size_eq hunified.runs.writes, Store.size_fresh]
      exact Nat.lt_succ_self _
    have hkept := Fair.kept (hx.inOrder.evolves hev) hresult n
    exact ⟨hpasses, hkept.inOrder, hkept.type, hkept.typeError, hx.nodes.trans hf.nodes⟩

end Workspace

end BlockTypes
