import BlockTypes.Proofs.TypeExpr
import BlockTypes.Unify
import Mathlib.Data.Finset.Card
import Mathlib.Data.Finset.Range
import Mathlib.Logic.Relation

/-!
# The graph of bindings

A bound class leads to the classes of the variables in the type it stands for. In a grounded store
this graph has no cycle, so the number of bound classes below a cell (`rank`) falls along every
binding, and is never more than the number of cells. That makes the bounded recursions of
`BlockTypes.Store.Resolve` exact: `resolve` obeys its unbounded equations, and `occurs` answers
whether a class can be reached. `WellFormed.through` is the induction that both follow: on a type, and
through each bound variable on what it stands for. A well-formed store is grounded, and its bound
classes keep to their constraints as well.
-/

namespace BlockTypes.Store

open Relation

variable {s : Store} {c d e : CellId}

/-! ## Classes -/

theorem bound?_congr (h : s.root c = s.root d) : s.bound? c = s.bound? d := by
  rw [bound?, bound?, h]

theorem constraints_congr (h : s.root c = s.root d) : s.constraints c = s.constraints d := by
  rw [constraints, constraints, h]

theorem root_lt_of_bound {t : Ty} (h : s.bound? c = some t) : s.root c < s.size := by
  rw [bound?] at h
  split at h
  · rename_i hc
    exact (Array.getElem?_eq_some_iff.1 hc).1
  · cases h

theorem root_lt_iff : s.root c < s.size ↔ c < s.size := by
  refine ⟨fun h => ?_, root_lt⟩
  by_contra hc
  rw [root_of_size_le (Nat.not_lt.1 hc)] at h
  exact hc h

theorem lt_of_bound {t : Ty} (h : s.bound? c = some t) : c < s.size :=
  root_lt_iff.1 (root_lt_of_bound h)

theorem bound?_of_size_le (h : s.size ≤ c) : s.bound? c = none := by
  cases hc : s.bound? c with
  | none => rfl
  | some t => exact absurd (lt_of_bound hc) (Nat.not_lt.2 h)

theorem constraints_of_size_le (h : s.size ≤ c) : s.constraints c = ∅ := by
  rw [constraints, root_of_size_le h, Array.getElem?_eq_none h]

/-- All variables of the type have cells of the store. -/
def Over (s : Store) (t : Ty) : Prop := ∀ v ∈ t.vars, v.cell < s.size

instance (s : Store) (t : Ty) : Decidable (s.Over t) :=
  inferInstanceAs (Decidable (∀ v ∈ t.vars, v.cell < s.size))

/-- The class of `c` stands for a type that has a variable of the class of `d`. -/
def Leads (s : Store) (c d : CellId) : Prop :=
  ∃ t, s.bound? c = some t ∧ ∃ v ∈ t.vars, s.root v.cell = s.root d

/-- The class of `c` can be reached from the type, through parts of types and through bindings. -/
def Contains (s : Store) (t : Ty) (c : CellId) : Prop :=
  ∃ v ∈ t.vars, s.root v.cell = s.root c ∨ TransGen s.Leads v.cell c

/-- No variable stands for a variable, no class can be reached from itself, and a class with
constraints stands for a constructor that all of them admit. -/
structure WellFormed (s : Store) : Prop where
  inStore : ∀ c t, s.bound? c = some t → s.Over t
  concrete : ∀ c t, s.bound? c = some t → ∀ v, t ≠ .var v
  acyclic : ∀ c, ¬ TransGen s.Leads c c
  admitted : ∀ c t, s.bound? c = some t → s.constraints c ≠ ∅ →
    ∃ name, t = .con name ∧ (s.constraints c).Admits name

/-- No variable stands for a variable, and no class can be reached from itself, whatever constraints
the classes have. -/
structure Grounded (s : Store) : Prop where
  inStore : ∀ c t, s.bound? c = some t → s.Over t
  concrete : ∀ c t, s.bound? c = some t → ∀ v, t ≠ .var v
  acyclic : ∀ c, ¬ TransGen s.Leads c c

theorem WellFormed.grounded (hs : s.WellFormed) : s.Grounded :=
  ⟨hs.inStore, hs.concrete, hs.acyclic⟩

theorem Leads.congr_left (h : s.root c = s.root d) (hl : s.Leads c e) : s.Leads d e := by
  rw [Leads, ← bound?_congr h]
  exact hl

theorem Leads.congr_right (h : s.root c = s.root d) (hl : s.Leads e c) : s.Leads e d := by
  obtain ⟨t, ht, v, hv, hr⟩ := hl
  exact ⟨t, ht, v, hv, hr.trans h⟩

theorem leads_trans_congr_left (h : s.root c = s.root d) (ht : TransGen s.Leads c e) :
    TransGen s.Leads d e := by
  cases TransGen.head'_iff.1 ht with
  | intro x hx => exact TransGen.head' (hx.1.congr_left h) hx.2

theorem leads_trans_congr_right (h : s.root c = s.root d) (ht : TransGen s.Leads e c) :
    TransGen s.Leads e d := by
  cases TransGen.tail'_iff.1 ht with
  | intro x hx => exact TransGen.tail' hx.1 (hx.2.congr_right h)

/-- What can be reached from a cell in one step or more is what the type it stands for contains. -/
theorem leads_trans_iff : TransGen s.Leads c d ↔ ∃ t, s.bound? c = some t ∧ s.Contains t d := by
  constructor
  · intro h
    obtain ⟨x, ⟨t, ht, v, hv, hx⟩, hxd⟩ := TransGen.head'_iff.1 h
    refine ⟨t, ht, v, hv, ?_⟩
    rcases reflTransGen_iff_eq_or_transGen.1 hxd with rfl | hxd
    · exact .inl hx
    · exact .inr (leads_trans_congr_left hx.symm hxd)
  · rintro ⟨t, ht, v, hv, hvd | hvd⟩
    · exact .single ⟨t, ht, v, hv, hvd⟩
    · exact .head ⟨t, ht, v, hv, rfl⟩ hvd

theorem contains_var_iff {w : TypeVar} :
    s.Contains (.var w) c ↔ s.root w.cell = s.root c ∨ TransGen s.Leads w.cell c := by
  simp [Contains, TypeExpr.vars]

/-! ## Rank -/

open Classical in
/-- The number of bound classes that can be reached from a cell, its own among them. -/
noncomputable def rank (s : Store) (c : CellId) : Nat :=
  ((Finset.range s.size).filter fun r =>
    (s.bound? r).isSome ∧ s.root r = r ∧ (s.root c = r ∨ TransGen s.Leads c r)).card

theorem rank_le_size (s : Store) (c : CellId) : s.rank c ≤ s.size := by
  classical
  exact (Finset.card_filter_le _ _).trans (Finset.card_range _).le

theorem rank_pos {t : Ty} (h : s.bound? c = some t) : 0 < s.rank c := by
  classical
  refine Finset.card_pos.2 ⟨s.root c, Finset.mem_filter.2 ⟨?_, ?_, root_root s c, .inl rfl⟩⟩
  · exact Finset.mem_range.2 (root_lt_of_bound h)
  · rw [bound?_congr (root_root s c), h]
    rfl

theorem unbound_of_rank_le_zero (h : s.rank c ≤ 0) : s.bound? c = none := by
  cases hb : s.bound? c with
  | none => rfl
  | some t => exact absurd h (Nat.not_le.2 (rank_pos hb))

theorem Grounded.rank_lt (hs : s.Grounded) (h : s.Leads c d) : s.rank d < s.rank c := by
  classical
  refine Finset.card_lt_card (Finset.ssubset_iff_of_subset ?_ |>.2 ⟨s.root c, ?_, ?_⟩)
  · intro r hr
    obtain ⟨hin, hb, hroot, hr⟩ := Finset.mem_filter.1 hr
    refine Finset.mem_filter.2 ⟨hin, hb, hroot, .inr ?_⟩
    rcases hr with hr | hr
    · exact .single (h.congr_right (by rw [← hr, root_root]))
    · exact .head h hr
  · obtain ⟨t, ht, -⟩ := h
    refine Finset.mem_filter.2 ⟨Finset.mem_range.2 (root_lt_of_bound ht), ?_, root_root s c, .inl rfl⟩
    rw [bound?_congr (root_root s c), ht]
    rfl
  · intro hr
    obtain ⟨-, -, -, hr | hr⟩ := Finset.mem_filter.1 hr
    · exact hs.acyclic c (.single (h.congr_right hr))
    · exact hs.acyclic c (.head h (leads_trans_congr_right (root_root s c) hr))

theorem Grounded.rank_lt_of_mem (hs : s.Grounded) {t : Ty} (h : s.bound? c = some t)
    {v : TypeVar} (hv : v ∈ t.vars) : s.rank v.cell < s.rank c :=
  hs.rank_lt ⟨t, h, v, hv, rfl⟩

/-- Induction on a type and, at a bound variable, on what it stands for. -/
theorem WellFormed.through (hs : s.WellFormed) {motive : Ty → Prop}
    (unbound : ∀ v, s.bound? v.cell = none → motive (.var v))
    (bound : ∀ v t, s.bound? v.cell = some t → motive t → motive (.var v))
    (con : ∀ name, motive (.con name))
    (arrow : ∀ a b, motive a → motive b → motive (.arrow a b))
    (app : ∀ t a, motive t → motive a → motive (.app t a)) (t : Ty) : motive t := by
  have parts : ∀ t : Ty, (∀ v ∈ t.vars, motive (.var v)) → motive t := by
    intro t
    induction t with
    | var v => exact fun h => h v (by simp [TypeExpr.vars])
    | con name => exact fun _ => con name
    | arrow a b iha ihb =>
      intro h
      obtain ⟨ha, hb⟩ := TypeExpr.forall_vars_arrow.1 h
      exact arrow a b (iha ha) (ihb hb)
    | app t a iht iha =>
      intro h
      obtain ⟨ht, ha⟩ := TypeExpr.forall_vars_app.1 h
      exact app t a (iht ht) (iha ha)
  have vars : ∀ n v, s.rank v.cell = n → motive (.var v) := by
    intro n
    induction n using Nat.strong_induction_on with
    | _ n ih =>
      intro v hv
      cases hb : s.bound? v.cell with
      | none => exact unbound v hb
      | some u =>
        refine bound v u hb (parts u fun w hw => ih _ ?_ w rfl)
        exact hv ▸ hs.grounded.rank_lt_of_mem hb hw
  exact parts t fun v _ => vars _ v rfl

/-! ## Resolved types -/

theorem WellFormed.resolveWithin_stable (hs : s.WellFormed) {n m : Nat} {t : Ty}
    (h : ∀ v ∈ t.vars, s.rank v.cell ≤ n) (hm : n ≤ m) :
    s.resolveWithin m t = s.resolveWithin n t := by
  induction n generalizing t m with
  | zero =>
    cases m with
    | zero => rfl
    | succ m =>
      rw [resolveWithin, resolveWithin]
      refine (TypeExpr.bind_congr fun v hv => ?_).trans (TypeExpr.bind_var t)
      rw [unbound_of_rank_le_zero (h v hv)]
  | succ n ih =>
    cases m with
    | zero => omega
    | succ m =>
      rw [resolveWithin, resolveWithin]
      refine TypeExpr.bind_congr fun v hv => ?_
      cases hb : s.bound? v.cell with
      | none => rfl
      | some u =>
        refine ih (fun w hw => ?_) (by omega)
        have := hs.grounded.rank_lt_of_mem hb hw
        have := h v hv
        omega

theorem WellFormed.resolve_eq (hs : s.WellFormed) (t : Ty) :
    s.resolve t = s.resolveWithin (s.size + 1) t :=
  (hs.resolveWithin_stable (fun v _ => rank_le_size s v.cell) (Nat.le_succ _)).symm

theorem WellFormed.resolve_unbound (hs : s.WellFormed) {v : TypeVar}
    (h : s.bound? v.cell = none) : s.resolve (.var v) = .var v := by
  rw [hs.resolve_eq, resolveWithin, TypeExpr.bind, h]

theorem WellFormed.resolve_bound (hs : s.WellFormed) {v : TypeVar} {t : Ty}
    (h : s.bound? v.cell = some t) : s.resolve (.var v) = s.resolve t := by
  rw [hs.resolve_eq, resolveWithin, TypeExpr.bind, h]
  rfl

@[simp] theorem resolve_con (s : Store) (name : String) : s.resolve (.con name) = .con name := by
  rw [resolve]
  cases s.size <;> rfl

@[simp] theorem resolve_arrow (s : Store) (a b : Ty) :
    s.resolve (.arrow a b) = .arrow (s.resolve a) (s.resolve b) := by
  rw [resolve, resolve, resolve]
  cases s.size <;> rfl

@[simp] theorem resolve_app (s : Store) (t a : Ty) :
    s.resolve (.app t a) = .app (s.resolve t) (s.resolve a) := by
  rw [resolve, resolve, resolve]
  cases s.size <;> rfl

theorem resolve_of_unbound {t : Ty} (free : ∀ v ∈ t.vars, s.bound? v.cell = none) : s.resolve t = t := by
  rw [resolve]
  cases s.size with
  | zero => rfl
  | succ n =>
    rw [resolveWithin]
    nth_rewrite 2 [← TypeExpr.bind_var t]
    exact TypeExpr.bind_congr fun v mem => by rw [free v mem]

/-- No variable of a resolved type is bound. -/
theorem WellFormed.unbound_of_mem_resolve (hs : s.WellFormed) (t : Ty) :
    ∀ v ∈ (s.resolve t).vars, s.bound? v.cell = none := by
  induction t using hs.through with
  | unbound v hv =>
    intro w hw
    rw [hs.resolve_unbound hv] at hw
    obtain rfl : w = v := by simpa [TypeExpr.vars] using hw
    exact hv
  | bound v t hv ih => rwa [hs.resolve_bound hv]
  | con name => simp [TypeExpr.vars]
  | arrow a b iha ihb =>
    rw [resolve_arrow]
    exact TypeExpr.forall_vars_arrow.2 ⟨iha, ihb⟩
  | app t a iht iha =>
    rw [resolve_app]
    exact TypeExpr.forall_vars_app.2 ⟨iht, iha⟩

/-- A property of cells that bindings hand down holds of all variables of a resolved type. -/
theorem WellFormed.forall_mem_resolve (hs : s.WellFormed) {P : CellId → Prop}
    (hP : ∀ c t, P c → s.bound? c = some t → ∀ v ∈ t.vars, P v.cell) (t : Ty) :
    (∀ v ∈ t.vars, P v.cell) → ∀ v ∈ (s.resolve t).vars, P v.cell := by
  intro h
  induction t using hs.through with
  | unbound v hv => rwa [hs.resolve_unbound hv]
  | bound v t hv ih =>
    rw [hs.resolve_bound hv]
    exact ih (hP _ _ (h v (by simp [TypeExpr.vars])) hv)
  | con name => rwa [resolve_con]
  | arrow a b iha ihb =>
    obtain ⟨ha, hb⟩ := TypeExpr.forall_vars_arrow.1 h
    rw [resolve_arrow]
    exact TypeExpr.forall_vars_arrow.2 ⟨iha ha, ihb hb⟩
  | app t a iht iha =>
    obtain ⟨ht, ha⟩ := TypeExpr.forall_vars_app.1 h
    rw [resolve_app]
    exact TypeExpr.forall_vars_app.2 ⟨iht ht, iha ha⟩

theorem WellFormed.over_resolve (hs : s.WellFormed) {t : Ty} (h : s.Over t) :
    s.Over (s.resolve t) :=
  hs.forall_mem_resolve (P := (· < s.size)) (fun c t _ hb => hs.inStore c t hb) t h

/-- Types of cells that have the same bindings in two stores, and so down through the bindings, stand for
the same in both. -/
theorem WellFormed.resolve_congr {s' : Store} (hs : s.WellFormed) (hs' : s'.WellFormed) {P : CellId → Prop}
    (hP : ∀ c t, P c → s.bound? c = some t → ∀ v ∈ t.vars, P v.cell)
    (hbound : ∀ c, P c → s'.bound? c = s.bound? c) {t : Ty} (h : ∀ v ∈ t.vars, P v.cell) :
    s'.resolve t = s.resolve t := by
  induction t using hs.through with
  | unbound v hv =>
    have hv' := hbound _ (h v (by simp [TypeExpr.vars]))
    rw [hs.resolve_unbound hv, hs'.resolve_unbound (hv'.trans hv)]
  | bound v t hv ih =>
    have hPv := h v (by simp [TypeExpr.vars])
    rw [hs.resolve_bound hv, hs'.resolve_bound ((hbound _ hPv).trans hv)]
    exact ih (hP _ _ hPv hv)
  | con name => rw [resolve_con, resolve_con]
  | arrow a b iha ihb =>
    obtain ⟨ha, hb⟩ := TypeExpr.forall_vars_arrow.1 h
    rw [resolve_arrow, resolve_arrow, iha ha, ihb hb]
  | app t a iht iha =>
    obtain ⟨ht, ha⟩ := TypeExpr.forall_vars_app.1 h
    rw [resolve_app, resolve_app, iht ht, iha ha]

/-! ## The occurs check -/

theorem Grounded.occursWithin_iff (hs : s.Grounded) {n : Nat} {t : Ty}
    (h : ∀ v ∈ t.vars, s.rank v.cell ≤ n) :
    s.occursWithin (s.root c) n t = true ↔ s.Contains t c := by
  induction n generalizing t with
  | zero =>
    rw [occursWithin, List.any_eq_true]
    constructor
    · rintro ⟨v, hv, hvc⟩
      exact ⟨v, hv, .inl (by simpa using hvc)⟩
    · rintro ⟨v, hv, hvc | hvc⟩
      · exact ⟨v, hv, by simpa using hvc⟩
      · obtain ⟨u, hu, -⟩ := leads_trans_iff.1 hvc
        exact absurd (h v hv) (Nat.not_le.2 (rank_pos hu))
  | succ n ih =>
    have below : ∀ v ∈ t.vars, ∀ u, s.bound? v.cell = some u →
        (s.occursWithin (s.root c) n u = true ↔ s.Contains u c) := by
      intro v hv u hu
      refine ih fun w hw => ?_
      have := hs.rank_lt_of_mem hu hw
      have := h v hv
      omega
    rw [occursWithin, List.any_eq_true]
    constructor
    · rintro ⟨v, hv, hvc⟩
      rcases Bool.or_eq_true_iff.1 hvc with hvc | hvc
      · exact ⟨v, hv, .inl (by simpa using hvc)⟩
      · split at hvc
        · rename_i u hu
          exact ⟨v, hv, .inr (leads_trans_iff.2 ⟨u, hu, (below v hv u hu).1 hvc⟩)⟩
        · cases hvc
    · rintro ⟨v, hv, hvc | hvc⟩
      · exact ⟨v, hv, by simp [hvc]⟩
      · obtain ⟨u, hu, huc⟩ := leads_trans_iff.1 hvc
        refine ⟨v, hv, ?_⟩
        rw [hu]
        simp [(below v hv u hu).2 huc]

/-- The occurs check finds a class exactly if it can be reached. -/
theorem Grounded.occurs_iff (hs : s.Grounded) (v : TypeVar) (t : Ty) :
    s.occurs v t = true ↔ s.Contains t v.cell :=
  hs.occursWithin_iff fun w _ => rank_le_size s w.cell

end BlockTypes.Store
