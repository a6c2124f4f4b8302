import BlockTypes.Proofs.Session.Basic
import BlockTypes.Proofs.Unify.Derivation

/-!
# What no session breaks

Two properties of every session, whatever was done in it and whatever failed. The stores it passed are
sound (`sound_run`): no variable stands for a variable, bindings do not run in a circle, and a variable
answers for every constraint that it was made with or met when it was merged. `Merges` says which operations
merge two variables, and they stay in one class from there on. And the types of blocks
that it kept fit together (`kept_types_fit`), and are never replaced.
-/

namespace BlockTypes

/-! ## Merged variables -/

namespace Store

variable {s s' : Store} {v w : TypeVar}

theorem root_eq_of_merge (hv : v.cell < s.size) (hw : w.cell < s.size) (h : s.merge v w = .ok s') :
    s'.root v.cell = s'.root w.cell := by
  obtain ⟨heq, rfl⟩ | ⟨hne, -, -, rfl⟩ := merge_cases h
  · exact heq
  · exact (root_join_eq_iff ⟨hne, hv, hw⟩).2 (.inr ⟨.inl rfl, .inr rfl⟩)

/-- Variables that stand for no type are merged where they are unified. -/
theorem Unifies.root_eq (h : Unifies s (.var v) (.var w) s' none) (hv : s.bound? v.cell = none)
    (hw : s.bound? w.cell = none) : s'.root v.cell = s'.root w.cell := by
  cases h with
  | same same => simpa [Same, classes, TypeExpr.map] using same
  | right concrete => exact absurd rfl (concrete v)
  | follow differ clear bound =>
    rw [hv] at bound
    cases bound
  | followOther differ clear unbound bound =>
    rw [hw] at bound
    cases bound
  | merge clear unbound other apart => exact (root_join_eq_iff apart).2 (.inr ⟨.inr rfl, .inl rfl⟩)
  | bind concrete => exact absurd rfl (concrete w)
  | second differ pair => cases pair

end Store

namespace Session

open Relation

variable {s : Session}

/-! ## Stores -/

/-- From a store of the history to a later one. -/
theorem Proper.between (h : s.Proper) {i j : Nat} {m m' : Store} (hij : i ≤ j)
    (hi : s.history[i]? = some m) (hj : s.history[j]? = some m') :
    Store.Evolves (fun _ => True) m m' := by
  rcases Nat.eq_or_lt_of_le hij with rfl | hlt
  · rw [hi] at hj
    cases hj
    exact .refl
  · obtain ⟨hli, rfl⟩ := List.getElem?_eq_some_iff.1 hi
    obtain ⟨hlj, rfl⟩ := List.getElem?_eq_some_iff.1 hj
    have hchain : s.history.IsChain (Store.Evolves fun _ => True) := h.chain.imp fun _ _ hm => .single hm
    exact List.pairwise_iff_getElem.1 (List.isChain_iff_pairwise.1 hchain) i j hli hlj hlt

theorem Proper.wellFormed_of_mem (h : s.Proper) {m : Store} (hm : m ∈ s.history) : m.WellFormed := by
  obtain ⟨i, hi⟩ := List.mem_iff_getElem?.1 hm
  have hfirst : s.history[0]? = some ∅ := by rw [← List.head?_eq_getElem?, h.first]
  exact (h.between (Nat.zero_le i) hfirst hi).wellFormed Store.wellFormed_empty

/-- In no store that was passed does a variable stand for a variable or for a type that contains it,
and variables answer for their constraints: those handed out for what they were made with, and every
variable for what any variable of its class has had, since the two were made or merged. No store is
left out: between one and the next there is at most one write. -/
structure Sound (s : Session) : Prop where
  noVariable : ∀ m ∈ s.history, ∀ c v, m.bound? c ≠ some (.var v)
  acyclic : ∀ m ∈ s.history, ∀ c, ¬ TransGen m.Leads c c
  made : ∀ v cs, (v, cs) ∈ s.handles → s.store.Keeps cs v.cell
  merged : ∀ (i j k : Nat) (m m' m'' : Store), i ≤ j → j ≤ k → s.history[i]? = some m →
    s.history[j]? = some m' → s.history[k]? = some m'' →
      ∀ c d, m'.root c = m'.root d → m''.Keeps (m.constraints c) d
  steps : s.history.IsChain (Store.Move fun _ => True)
  present : s.history.getLast? = some s.store

theorem Proper.sound (h : s.Proper) : s.Sound := by
  refine ⟨fun m hm c v hb => ?_, fun m hm => (h.wellFormed_of_mem hm).acyclic, h.handles, ?_, h.chain,
    h.present⟩
  · exact (h.wellFormed_of_mem hm).concrete c _ hb v rfl
  · intro i j k m m' m'' hij hjk hi hj hk c d hcd
    have hm := h.wellFormed_of_mem (List.mem_of_getElem? hi)
    have hm' := h.wellFormed_of_mem (List.mem_of_getElem? hj)
    have hm'' := h.wellFormed_of_mem (List.mem_of_getElem? hk)
    have hkept := (hm.keeps c).grows (h.between hij hi hj).grows hm'
    exact (hkept.congr hcd).grows (h.between hjk hj hk).grows hm''

/-- The operation puts the two variables in one class: it merges them, or unifies them while neither stands
for a type, and does not fail. -/
inductive Merges (s : Session) (v w : TypeVar) : Op → Prop
  | merge {m : Store} (done : s.store.merge v w = .ok m) : Merges s v w (.merge v w)
  | unify {context : Option Expr} (left : s.store.bound? v.cell = none) (right : s.store.bound? w.cell = none)
      (done : (s.workspace.unify context (.var v) (.var w)).result = .ok ()) :
      Merges s v w (.unify context (.var v) (.var w))

theorem Orderly.root_eq_of_merges (h : s.Orderly) {op : Op} {v w : TypeVar} (allowed : s.Allows op)
    (merges : s.Merges v w op) : (s.perform op).store.root v.cell = (s.perform op).store.root w.cell := by
  cases merges with
  | @merge m done =>
    have hstore : (s.perform (.merge v w)).store = m := by
      rw [Session.perform, done]
      rfl
    rw [hstore]
    exact Store.root_eq_of_merge allowed.1 allowed.2 done
  | @unify context left right done =>
    have hprepared := Store.Prepared.ofOver h.inOrder.wellFormed.grounded allowed.1 allowed.2
    have hu : Store.Unifies s.store (.var v) (.var w) (s.store.unify (.var v) (.var w)).store none :=
      (Store.unify_iff hprepared).2 ⟨rfl, Workspace.adopt_result_ok.1 done⟩
    exact hu.root_eq left right

/-- Every session is sound. Variables that one of its operations has merged are in one class ever since, and
each answers for the constraints that the other one had. -/
theorem sound_run (ops : List Op) (legal : start.Legal ops) :
    (start.run ops).Sound ∧
    ∀ before op after v w, ops = before ++ op :: after → (start.run before).Merges v w op →
      let m := (start.run before).store
      let m' := (start.run ops).store
      m'.root v.cell = m'.root w.cell ∧ m'.Keeps (m.constraints v.cell) w.cell ∧
        m'.Keeps (m.constraints w.cell) v.cell := by
  refine ⟨(proper_start.run legal).sound, ?_⟩
  rintro before op after v w rfl merges m m'
  obtain ⟨first, rest⟩ := legal_append.1 legal
  have hbefore := (proper_start.run first).orderly
  have hlater : m' = ((start.run before).run (op :: after)).store := congrArg store (run_append _ _ _)
  have hgrows : m.Grows m' := by
    rw [hlater]
    exact (hbefore.evolves_run rest).grows
  have hroot : m'.root v.cell = m'.root w.cell := by
    rw [hlater]
    exact ((hbefore.perform rest.1).evolves_run rest.2).grows.root _ _
      (hbefore.root_eq_of_merges rest.1 merges)
  have hm : m.WellFormed := hbefore.inOrder.wellFormed
  have hm' : m'.WellFormed := (proper_start.run legal).inOrder.wellFormed
  exact ⟨hroot, ((hm.keeps v.cell).grows hgrows hm').congr hroot,
    ((hm.keeps w.cell).grows hgrows hm').congr hroot.symm⟩

/-- A variable without constraints is merged with one that has some. A unification that fails later
binds both, and a further one fails at once. -/
theorem sound_run_failing :
    let num : ConstraintSet := .ofList [⟨"Num", .ofList ["Int"]⟩]
    let a : TypeVar := ⟨"a", 0⟩
    let b : TypeVar := ⟨"b", 1⟩
    let ops : List Op := [.newVar "a" num, .newVar "b" ∅, .merge b a,
      .unify none (.arrow (.var b) (.con "Bool")) (.arrow (.con "Int") (.con "Char")),
      .unify none (.var a) (.con "Bool")]
    start.Legal ops ∧ (start.run ops).store.bound? b.cell = some (.con "Int") ∧
      (start.run ops).Sound ∧ (start.run ops).store.root b.cell = (start.run ops).store.root a.cell := by
  intro num a b ops
  have legal : start.Legal ops := by decide +kernel
  obtain ⟨hsound, hmerged⟩ := sound_run ops legal
  let before : List Op := [.newVar "a" num, .newVar "b" ∅]
  obtain ⟨m, hm⟩ : ∃ m, (start.run before).store.merge b a = .ok m :=
    Catalog.exists_of_isOk (by decide +kernel)
  exact ⟨legal, by decide +kernel, hsound, (hmerged before (.merge b a) (ops.drop 3) b a rfl (.merge hm)).1⟩

/-! ## Kept types -/

theorem Effect.found {s' : Session} (h : Effect s s') (hs : s.Orderly) {n : NodeId} {t : Ty}
    (ht : s.workspace.found? n = some t) : s'.workspace.found? n = some t := by
  cases h with
  | nothing => exact ht
  | move moves => exact ht
  | catalog grows => exact ht
  | block node => exact ht
  | unify left right => exact ht
  | find made => exact (s.workspace.findType_finds _).mono hs.pool made ht

theorem Proper.found_run (h : s.Proper) {ops : List Op} (legal : s.Legal ops) {n : NodeId} {t : Ty}
    (ht : s.workspace.found? n = some t) : (s.run ops).workspace.found? n = some t := by
  induction ops generalizing s with
  | nil => exact ht
  | cons op ops ih =>
    exact ih (h.perform legal.1) legal.2 ((h.orderly.effect legal.1).found h.orderly ht)

/-- The type kept for an application fits those of its parts, as they are in the present store. -/
theorem Proper.fits (h : s.Proper) {n : NodeId} {f x : Expr} (he : .apply n f x ∈ s.blocks) {t : Ty}
    (ht : s.workspace.found? n = some t) :
    ∃ tf tx, s.workspace.found? f.node = some tf ∧ s.workspace.found? x.node = some tx ∧
      s.store.Same (s.store.resolve tf) (.arrow (s.store.resolve tx) (s.store.resolve t)) := by
  obtain ⟨tf, tx, hf, hx, heq⟩ := h.consistent _ he t ht
  refine ⟨tf, tx, hf, hx, ?_⟩
  have hs := h.inOrder.wellFormed
  -- The solution that lets every class stand for itself turns the equation into one of classes.
  have hclasses := heq CellId _ _ (Store.solves_spread_var hs)
  rw [Store.image_spread_var hs, Store.image_spread_var hs, Store.image_spread_var hs] at hclasses
  exact hclasses

/-- After any operations `ops` and `more`, every application whose type is kept has the types of its
parts kept, and the type of the function is the arrow from the type of the argument to its own; and
every type kept after `ops` is kept still. -/
theorem kept_types_fit (ops more : List Op) (legal : start.Legal (ops ++ more)) :
    (∀ n f x, .apply n f x ∈ (start.run (ops ++ more)).blocks →
      ∀ t, (start.run (ops ++ more)).workspace.found? n = some t →
        ∃ tf tx, (start.run (ops ++ more)).workspace.found? f.node = some tf ∧
          (start.run (ops ++ more)).workspace.found? x.node = some tx ∧
          (start.run (ops ++ more)).store.Same ((start.run (ops ++ more)).store.resolve tf)
            (.arrow ((start.run (ops ++ more)).store.resolve tx)
              ((start.run (ops ++ more)).store.resolve t))) ∧
    ∀ n t, (start.run ops).workspace.found? n = some t →
      (start.run (ops ++ more)).workspace.found? n = some t := by
  refine ⟨fun n f x he t ht => (proper_start.run legal).fits he ht, fun n t ht => ?_⟩
  obtain ⟨first, rest⟩ := legal_append.1 legal
  rw [run_append]
  exact (proper_start.run first).found_run rest ht

/-- A block stands in two places. Checking the outer application fails, but keeps the type of the inner
one, and so do a second attempt and a unification of the signature. -/
theorem kept_types_fit_shared :
    let a : TypeVar := ⟨"a", 0⟩
    let five : Expr := .value 0 (.con "Int") "5"
    let same : Expr := .ident 1 "id" (.arrow (.var a) (.var a))
    let inner : Expr := .apply 2 same five
    let outer : Expr := .apply 3 inner five
    let ops : List Op := [.newVar "a" ∅, .value (.con "Int") "5", .ident "id" (.arrow (.var a) (.var a)),
      .apply same five, .apply inner five, .check outer]
    let more : List Op := [.findType outer, .unify none (.var a) (.con "Bool")]
    let s := start.run (ops ++ more)
    start.Legal (ops ++ more) ∧ s.workspace.found? outer.node = none ∧
      ∃ t tf tx, s.workspace.found? inner.node = some t ∧ s.workspace.found? same.node = some tf ∧
        s.workspace.found? five.node = some tx ∧
        s.store.Same (s.store.resolve tf) (.arrow (s.store.resolve tx) (s.store.resolve t)) := by
  intro a five same inner outer ops more s
  have legal : start.Legal (ops ++ more) := by decide +kernel
  have hfound : (start.run ops).workspace.found? inner.node = some (.var ⟨"t1", 2⟩) := by decide +kernel
  obtain ⟨hfits, hkept⟩ := kept_types_fit ops more legal
  have hinner := hkept _ _ hfound
  obtain ⟨tf, tx, hf, hx, heq⟩ := hfits 2 same five (by decide +kernel) _ hinner
  exact ⟨legal, by decide +kernel, _, tf, tx, hinner, hf, hx, heq⟩

end Session

end BlockTypes
