import BlockTypes.Proofs.Unify.Again

/-!
# The order of equations

A list of equations is unified one after another. Different orders bind other variables first, merge
classes the other way round and meet constraints at other times, so the stores they leave differ. But
each leaves a store whose solutions are those of the first store that satisfy all equations
(`solves_unifyAll_iff`), and what can be asked of a store is settled by its solutions (`Equivalent`). So
the order does not matter (`unifyAll_perm`).
-/

namespace BlockTypes

/-- Two types that are to be made equal, and the expression they belong to. -/
structure Equation where
  context : Option Expr
  left : Ty
  right : Ty

namespace Equation

/-- The assignment makes the two types equal. -/
def Holds {ν : Type} (e : Equation) (σ : CellId → TypeExpr ν) : Prop := e.left.image σ = e.right.image σ

/-- Both types belong to the store. -/
def Over (e : Equation) (s : Store) : Prop := s.Over e.left ∧ s.Over e.right

instance (e : Equation) (s : Store) : Decidable (e.Over s) :=
  inferInstanceAs (Decidable (s.Over e.left ∧ s.Over e.right))

end Equation

namespace Workspace

/-- Makes the types of one equation after another equal. If all succeed there is a workspace after the
last. -/
def unifyAll (w : Workspace) : List Equation → Option Workspace
  | [] => some w
  | e :: es =>
    match (w.unify e.context e.left e.right).result with
    | .ok _ => (w.unify e.context e.left e.right).workspace.unifyAll es
    | .error _ => none

end Workspace

/-! ## Stores with the same solutions -/

namespace Store

variable {s s' : Store} {a b : Ty} {c : CellId}

/-- The stores have the same solutions. -/
def Equivalent (s s' : Store) : Prop :=
  ∀ (ν : Type) (κ : ν → ConstraintSet) (σ : CellId → TypeExpr ν), Solves κ s σ ↔ Solves κ s' σ

namespace Equivalent

theorem symm (h : s.Equivalent s') : s'.Equivalent s := fun ν κ σ => (h ν κ σ).symm

/-- In each store, every class may stand for itself, and this solves the other one too. -/
theorem solves_spread (h : s.Equivalent s') (hs' : s'.WellFormed) :
    Solves s'.constraints s (s'.spread .var) :=
  (h _ _ _).2 (solves_spread_var hs')

theorem unbound (h : s.Equivalent s') (hs : s.WellFormed) (hs' : s'.WellFormed)
    (hb : s'.bound? c = none) : s.bound? c = none := by
  cases hbound : s.bound? c with
  | none => rfl
  | some t =>
    -- A class that stands for itself is not given what a type other than a variable is.
    have heq := (h.solves_spread hs').bound c t hbound
    exact absurd heq (image_ne_of_unbound (v := ⟨"", c⟩) hs' hb (hs.concrete c t hbound))

theorem same_resolve (h : s.Equivalent s') (hs : s.WellFormed) (hs' : s'.WellFormed)
    (hsame : s.Same (s.resolve a) (s.resolve b)) : s'.Same (s'.resolve a) (s'.resolve b) := by
  rw [same_resolve_iff hs']
  have hσ := h.solves_spread hs'
  have heq := hσ.image_eq_of_same hsame
  rwa [hσ.image_resolve hs, hσ.image_resolve hs] at heq

theorem constraints_subset (h : s.Equivalent s') (hs : s.WellFormed) (hs' : s'.WellFormed)
    (hb : s'.bound? c = none) : ∀ k ∈ s.constraints c, k ∈ s'.constraints c := by
  intro k hk
  have hfits := (h.solves_spread hs').fits c (h.unbound hs hs' hb) (ne_empty_of_mem hk)
  rw [spread_of_unbound hs' hb] at hfits
  rcases hfits with ⟨name, hname, -⟩ | ⟨x, hx, hsub⟩
  · cases hname
  · cases hx
    have hmem := hsub k hk
    rwa [constraints_congr (root_root s' c)] at hmem

end Equivalent

/-- What a unification that succeeds does to the solutions. -/
theorem Unified.solves_iff {P : CellId → Prop} {o : Outcome} {ν : Type} {κ : ν → ConstraintSet}
    {σ : CellId → TypeExpr ν} (h : Unified P s a b o) (hs : s.WellFormed) (ok : o.failure = none) :
    Solves κ o.store σ ↔ Solves κ s σ ∧ a.image σ = b.image σ := by
  have hw := h.runs.writes
  constructor
  · intro hσ
    exact ⟨hσ.of_grows (Writes.grows hw) (Writes.wellFormed hw hs), h.solved.sound ok hσ⟩
  · rintro ⟨hσ, heq⟩
    exact (h.solved.complete hσ heq).1

end Store

/-! ## One equation after another -/

namespace Workspace

variable {w : Workspace} {e : Equation} {es : List Equation} {ν : Type} {κ : ν → ConstraintSet}
  {σ : CellId → TypeExpr ν}

/-- An equation that succeeds is one more condition on the solutions. -/
theorem unify_solves_iff (hw : w.store.WellFormed) (he : e.Over w.store)
    (ok : (w.unify e.context e.left e.right).result = .ok ()) :
    Store.Solves κ (w.unify e.context e.left e.right).workspace.store σ ↔
      Store.Solves κ w.store σ ∧ e.Holds σ :=
  (Store.unify_unified (.ofOver hw he.1 he.2)).solves_iff hw (adopt_result_ok.1 ok)

/-- An equation succeeds if there is a solution that makes its types equal. -/
theorem unify_ok_of_holds (hw : w.store.WellFormed) (he : e.Over w.store)
    (hσ : Store.Solves κ w.store σ) (holds : e.Holds σ) :
    (w.unify e.context e.left e.right).result = .ok () := by
  have h := Store.unify_unified (.ofOver hw he.1 he.2)
  rcases h.failure_cases with hf | ⟨cause, hf⟩
  · exact adopt_result_ok.2 hf
  · exact absurd hf ((h.solved.complete hσ holds).2 cause)

/-- The store after an equation is in order, and the other equations still belong to it. -/
theorem unify_writes (hw : w.store.WellFormed) (he : e.Over w.store) :
    Store.Writes (fun _ => True) w.store (w.unify e.context e.left e.right).workspace.store :=
  (Store.unify_unified (.ofOver hw he.1 he.2)).runs.writes

theorem over_unify (hw : w.store.WellFormed) (hes : ∀ d ∈ e :: es, d.Over w.store) :
    ∀ d ∈ es, d.Over (w.unify e.context e.left e.right).workspace.store := by
  intro d hd
  have hgrows := Store.Writes.grows (unify_writes hw (hes e List.mem_cons_self))
  obtain ⟨hleft, hright⟩ := hes d (List.mem_cons_of_mem e hd)
  exact ⟨hleft.grows hgrows, hright.grows hgrows⟩

theorem wellFormed_unifyAll {w' : Workspace} (hw : w.store.WellFormed) (hes : ∀ e ∈ es, e.Over w.store)
    (h : w.unifyAll es = some w') : w'.store.WellFormed := by
  induction es generalizing w with
  | nil =>
    cases h
    exact hw
  | cons e es ih =>
    unfold unifyAll at h
    split at h
    · exact ih (Store.Writes.wellFormed (unify_writes hw (hes e List.mem_cons_self)) hw)
        (over_unify hw hes) h
    · cases h

/-- If all equations succeed, the solutions are those that satisfied all of them from the start. -/
theorem solves_unifyAll_iff {w' : Workspace} (hw : w.store.WellFormed) (hes : ∀ e ∈ es, e.Over w.store)
    (h : w.unifyAll es = some w') :
    Store.Solves κ w'.store σ ↔ Store.Solves κ w.store σ ∧ ∀ e ∈ es, e.Holds σ := by
  induction es generalizing w with
  | nil =>
    cases h
    simp
  | cons e es ih =>
    have he := hes e List.mem_cons_self
    unfold unifyAll at h
    split at h
    · rename_i ok
      have hnext := Store.Writes.wellFormed (unify_writes hw he) hw
      rw [ih hnext (over_unify hw hes) h, unify_solves_iff hw he ok, and_assoc, List.forall_mem_cons]
    · cases h

/-- All equations succeed if there is a solution that satisfies all of them. -/
theorem exists_unifyAll (hw : w.store.WellFormed) (hes : ∀ e ∈ es, e.Over w.store)
    (hσ : Store.Solves κ w.store σ) (holds : ∀ e ∈ es, e.Holds σ) : ∃ w', w.unifyAll es = some w' := by
  induction es generalizing w with
  | nil => exact ⟨w, rfl⟩
  | cons e es ih =>
    have he := hes e List.mem_cons_self
    obtain ⟨holdsFirst, holdsRest⟩ := List.forall_mem_cons.1 holds
    have ok := unify_ok_of_holds hw he hσ holdsFirst
    have hnext := Store.Writes.wellFormed (unify_writes hw he) hw
    unfold unifyAll
    rw [ok]
    exact ih hnext (over_unify hw hes) ((unify_solves_iff hw he ok).2 ⟨hσ, holdsFirst⟩) holdsRest

/-! ## Permutations -/

theorem unifyAll_perm_ok {es' : List Equation} {w₁ : Workspace} (hw : w.store.WellFormed)
    (hes : ∀ e ∈ es, e.Over w.store) (perm : es.Perm es') (h : w.unifyAll es = some w₁) :
    ∃ w₂, w.unifyAll es' = some w₂ := by
  -- The store that the first order leaves has a solution, and it satisfies all equations in any order.
  have hσ := Store.solves_spread_var (wellFormed_unifyAll hw hes h)
  obtain ⟨hbefore, holds⟩ := (solves_unifyAll_iff hw hes h).1 hσ
  exact exists_unifyAll hw (fun e he => hes e (perm.mem_iff.2 he)) hbefore
    fun e he => holds e (perm.mem_iff.2 he)

theorem equivalent_of_perm {es' : List Equation} {w₁ w₂ : Workspace} (hw : w.store.WellFormed)
    (hes : ∀ e ∈ es, e.Over w.store) (perm : es.Perm es') (h₁ : w.unifyAll es = some w₁)
    (h₂ : w.unifyAll es' = some w₂) : w₁.store.Equivalent w₂.store := by
  intro ν κ σ
  rw [solves_unifyAll_iff hw hes h₁,
    solves_unifyAll_iff hw (fun e he => hes e (perm.mem_iff.2 he)) h₂]
  simp only [perm.mem_iff]

/-- A list of equations succeeds in every order or in none. The stores that two orders leave have the same
variables bound, any two types resolve to the same type in both or in neither, and variables that are
unbound have the same constraints in both. -/
theorem unifyAll_perm (w : Workspace) (es es' : List Equation) (hw : w.store.WellFormed)
    (hes : ∀ e ∈ es, e.Over w.store) (perm : es.Perm es') :
    ((w.unifyAll es).isSome ↔ (w.unifyAll es').isSome) ∧
    ∀ w₁ w₂, w.unifyAll es = some w₁ → w.unifyAll es' = some w₂ →
      (∀ c, (w₁.store.bound? c).isSome ↔ (w₂.store.bound? c).isSome) ∧
      (∀ a b, w₁.store.Same (w₁.store.resolve a) (w₁.store.resolve b) ↔
        w₂.store.Same (w₂.store.resolve a) (w₂.store.resolve b)) ∧
      ∀ c, w₁.store.bound? c = none → w₁.store.constraints c = w₂.store.constraints c := by
  have hes' : ∀ e ∈ es', e.Over w.store := fun e he => hes e (perm.mem_iff.2 he)
  constructor
  · simp only [Option.isSome_iff_exists]
    constructor
    · rintro ⟨w₁, h₁⟩
      exact unifyAll_perm_ok hw hes perm h₁
    · rintro ⟨w₂, h₂⟩
      exact unifyAll_perm_ok hw hes' perm.symm h₂
  · intro w₁ w₂ h₁ h₂
    have hs₁ := wellFormed_unifyAll hw hes h₁
    have hs₂ := wellFormed_unifyAll hw hes' h₂
    have heq := equivalent_of_perm hw hes perm h₁ h₂
    refine ⟨fun c => ?_, fun a b => ?_, fun c hb => ?_⟩
    · rw [← not_iff_not, Option.not_isSome_iff_eq_none, Option.not_isSome_iff_eq_none]
      exact ⟨heq.symm.unbound hs₂ hs₁, heq.unbound hs₁ hs₂⟩
    · exact ⟨heq.same_resolve hs₁ hs₂, heq.symm.same_resolve hs₂ hs₁⟩
    · have hb₂ := heq.symm.unbound hs₂ hs₁ hb
      exact SortedSet.ext fun k =>
        ⟨heq.constraints_subset hs₁ hs₂ hb₂ k, heq.symm.constraints_subset hs₂ hs₁ hb k⟩

/-- One order merges two variables and then binds both at once. The other binds one of them first, and
has to admit its type for the constraint of the other. -/
theorem unifyAll_perm_constrained :
    let num : ConstraintSet := .ofList [⟨"Num", .ofList ["Int"]⟩]
    let w : Workspace := ⟨(((∅ : Store).push num).push ∅).push ∅, 0, []⟩
    let a : Ty := .var ⟨"a", 0⟩
    let b : Ty := .var ⟨"b", 1⟩
    let c : Ty := .var ⟨"c", 2⟩
    let merging : Equation := ⟨none, a, b⟩
    let binding : Equation := ⟨none, .arrow b c, .arrow (.con "Int") (.listOf a)⟩
    (w.store.WellFormed ∧ ∀ e ∈ [merging, binding], e.Over w.store) ∧
      ∃ w₁ w₂, w.unifyAll [merging, binding] = some w₁ ∧ w.unifyAll [binding, merging] = some w₂ ∧
        w₁ ≠ w₂ ∧
        ∀ t u, w₁.store.Same (w₁.store.resolve t) (w₁.store.resolve u) ↔
          w₂.store.Same (w₂.store.resolve t) (w₂.store.resolve u) := by
  intro num w a b c merging binding
  have hw : w.store.WellFormed :=
    (Store.extends_push _ ∅).wellFormed ((Store.extends_push _ ∅).wellFormed
      ((Store.extends_push _ num).wellFormed Store.wellFormed_empty))
  have hes : ∀ e ∈ [merging, binding], e.Over w.store := by decide
  have perm : [merging, binding].Perm [binding, merging] := .swap _ _ _
  have differ : w.unifyAll [merging, binding] ≠ w.unifyAll [binding, merging] := by decide +kernel
  obtain ⟨hsome, hagree⟩ := unifyAll_perm w _ _ hw hes perm
  have ok : (w.unifyAll [merging, binding]).isSome := by decide +kernel
  obtain ⟨w₁, h₁⟩ := Option.isSome_iff_exists.1 ok
  obtain ⟨w₂, h₂⟩ := Option.isSome_iff_exists.1 (hsome.1 ok)
  refine ⟨⟨hw, hes⟩, w₁, w₂, h₁, h₂, ?_, (hagree w₁ w₂ h₁ h₂).2.1⟩
  rintro rfl
  exact differ (h₁.trans h₂.symm)

end Workspace

end BlockTypes
