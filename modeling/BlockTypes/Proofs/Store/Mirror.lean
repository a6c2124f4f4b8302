import BlockTypes.Proofs.Store.Copy

/-!
# Stores that differ in their cells

What a store does depends on which cells are one class and what is known of each class, but not on which
cells these are. `Mirror` relates two stores that say the same of their cells, up to a renaming of the
cells; types are related by `Renamed`, which leaves the names of variables aside. All questions to a store
have mirrored answers, and all changes keep the mirror.
-/

namespace BlockTypes

/-- The second type is the first one with its cells renamed. -/
inductive Renamed (ρ : CellId → CellId) : Ty → Ty → Prop
  | var {v v' : TypeVar} (cell : v'.cell = ρ v.cell) : Renamed ρ (.var v) (.var v')
  | con (name : String) : Renamed ρ (.con name) (.con name)
  | arrow {a b a' b' : Ty} (argument : Renamed ρ a a') (result : Renamed ρ b b') :
      Renamed ρ (.arrow a b) (.arrow a' b')
  | app {t a t' a' : Ty} (function : Renamed ρ t t') (argument : Renamed ρ a a') :
      Renamed ρ (.app t a) (.app t' a')

namespace Renamed

variable {ρ : CellId → CellId} {a b t a' b' t' : Ty}

theorem self (h : ∀ v ∈ t.vars, ρ v.cell = v.cell) : Renamed ρ t t := by
  induction t with
  | var v => exact .var (h v (by simp [TypeExpr.vars])).symm
  | con name => exact .con name
  | arrow a b iha ihb =>
    obtain ⟨ha, hb⟩ := TypeExpr.forall_vars_arrow.1 h
    exact .arrow (iha ha) (ihb hb)
  | app t a iht iha =>
    obtain ⟨ht, ha⟩ := TypeExpr.forall_vars_app.1 h
    exact .app (iht ht) (iha ha)

theorem vars (h : Renamed ρ t t') : List.Forall₂ (fun v v' => v'.cell = ρ v.cell) t.vars t'.vars := by
  induction h with
  | var cell => exact .cons cell .nil
  | con name => exact .nil
  | arrow _ _ iha ihb => exact List.rel_append iha ihb
  | app _ _ iht iha => exact List.rel_append iht iha

theorem bind {f g : TypeVar → Ty} (h : Renamed ρ t t')
    (hfg : ∀ v v', v'.cell = ρ v.cell → Renamed ρ (f v) (g v')) :
    Renamed ρ (t.bind f) (t'.bind g) := by
  induction h with
  | var cell => exact hfg _ _ cell
  | con name => exact .con name
  | arrow _ _ iha ihb => exact .arrow iha ihb
  | app _ _ iht iha => exact .app iht iha

theorem map {ν : Type} {f g : ν → TypeVar} {t : TypeExpr ν}
    (h : ∀ x ∈ t.vars, (g x).cell = ρ (f x).cell) : Renamed ρ (t.map f) (t.map g) := by
  induction t with
  | var x => exact .var (h x (by simp [TypeExpr.vars]))
  | con name => exact .con name
  | arrow a b iha ihb =>
    obtain ⟨ha, hb⟩ := TypeExpr.forall_vars_arrow.1 h
    exact .arrow (iha ha) (ihb hb)
  | app t a iht iha =>
    obtain ⟨ht, ha⟩ := TypeExpr.forall_vars_app.1 h
    exact .app (iht ht) (iha ha)

theorem concrete (h : Renamed ρ t t') (ht : ∀ v, t ≠ .var v) : ∀ v, t' ≠ .var v := by
  cases h with
  | var cell => exact absurd rfl (ht _)
  | con name => simp
  | arrow => simp
  | app => simp

theorem clash (ha : Renamed ρ a a') (hb : Renamed ρ b b') (h : a.Clash b) : a'.Clash b' := by
  cases ha <;> cases hb <;> simp_all [TypeExpr.Clash]

theorem paired (ha : Renamed ρ a a') (hb : Renamed ρ b b') {a₁ a₂ b₁ b₂ : Ty}
    (h : a.Paired b a₁ a₂ b₁ b₂) :
    ∃ a₁' a₂' b₁' b₂', a'.Paired b' a₁' a₂' b₁' b₂' ∧ (Renamed ρ a₁ a₁' ∧ Renamed ρ a₂ a₂') ∧
      Renamed ρ b₁ b₁' ∧ Renamed ρ b₂ b₂' := by
  cases h with
  | arrow =>
    cases ha with
    | arrow ha₁ ha₂ =>
      cases hb with
      | arrow hb₁ hb₂ => exact ⟨_, _, _, _, .arrow, ⟨ha₁, ha₂⟩, hb₁, hb₂⟩
  | app =>
    cases ha with
    | app ha₁ ha₂ =>
      cases hb with
      | app hb₁ hb₂ => exact ⟨_, _, _, _, .app, ⟨ha₁, ha₂⟩, hb₁, hb₂⟩

theorem satisfies_iff (h : Renamed ρ t t') {cs : ConstraintSet} :
    Store.Satisfies t' cs ↔ Store.Satisfies t cs := by
  cases h <;> rfl

end Renamed

namespace Store

variable {ρ : CellId → CellId} {s s' : Store} {a b t a' b' t' : Ty} {v w v' w' : TypeVar}

/-- The second store says of renamed cells what the first one says of its cells. -/
structure Mirror (ρ : CellId → CellId) (s s' : Store) : Prop where
  injective : Function.Injective ρ
  size : ∀ c, c < s.size → ρ c < s'.size
  root : ∀ c, s'.root (ρ c) = ρ (s.root c)
  bound : ∀ c, Option.Rel (Renamed ρ) (s.bound? c) (s'.bound? (ρ c))
  constraints : ∀ c, s'.constraints (ρ c) = s.constraints c

namespace Mirror

theorem root_eq_iff (h : Mirror ρ s s') {c d : CellId} :
    s'.root (ρ c) = s'.root (ρ d) ↔ s.root c = s.root d := by
  rw [h.root, h.root]
  exact h.injective.eq_iff

theorem unbound (h : Mirror ρ s s') {c d : CellId} (hd : d = ρ c) (hc : s.bound? c = none) :
    s'.bound? d = none := by
  have hrel := h.bound c
  rw [hc] at hrel
  rw [hd]
  generalize s'.bound? (ρ c) = o at hrel
  cases hrel
  rfl

theorem exists_bound (h : Mirror ρ s s') {c d : CellId} (hd : d = ρ c) (hc : s.bound? c = some t) :
    ∃ t', s'.bound? d = some t' ∧ Renamed ρ t t' := by
  have hrel := h.bound c
  rw [hc] at hrel
  rw [hd]
  generalize s'.bound? (ρ c) = o at hrel
  cases hrel with
  | some ht => exact ⟨_, rfl, ht⟩

theorem classes (h : Mirror ρ s s') (ht : Renamed ρ t t') : s'.classes t' = (s.classes t).map ρ := by
  unfold Store.classes
  induction ht with
  | var cell => simp only [TypeExpr.map, cell, h.root]
  | con name => rfl
  | arrow _ _ iha ihb => simp only [TypeExpr.map, iha, ihb]
  | app _ _ iht iha => simp only [TypeExpr.map, iht, iha]

theorem same_iff (h : Mirror ρ s s') (ha : Renamed ρ a a') (hb : Renamed ρ b b') :
    s'.Same a' b' ↔ s.Same a b := by
  unfold Same
  rw [h.classes ha, h.classes hb]
  exact (TypeExpr.map_injective h.injective).eq_iff

/-! ## Questions that look through bindings -/

theorem any_eq {R : TypeVar → TypeVar → Prop} {p q : TypeVar → Bool} {vs vs' : List TypeVar}
    (h : List.Forall₂ R vs vs') (hpq : ∀ v v', R v v' → q v' = p v) : vs'.any q = vs.any p := by
  induction h with
  | nil => rfl
  | cons hv _ ih => rw [List.any_cons, List.any_cons, hpq _ _ hv, ih]

theorem occursWithin (h : Mirror ρ s s') (r : CellId) {n : Nat} (ht : Renamed ρ t t') :
    s'.occursWithin (ρ r) n t' = s.occursWithin r n t := by
  have hroot : ∀ v v' : TypeVar, v'.cell = ρ v.cell →
      (s'.root v'.cell == ρ r) = (s.root v.cell == r) := by
    intro v v' hv
    rw [hv, h.root, Bool.eq_iff_iff, beq_iff_eq, beq_iff_eq, h.injective.eq_iff]
  induction n generalizing t t' with
  | zero => exact any_eq ht.vars hroot
  | succ n ih =>
    refine any_eq ht.vars fun v v' hv => ?_
    rw [hroot v v' hv]
    cases hb : s.bound? v.cell with
    | none => rw [h.unbound hv hb]
    | some u =>
      obtain ⟨u', hu', hu⟩ := h.exists_bound hv hb
      rw [hu']
      exact congrArg _ (ih hu)

/-- The occurs check has the same answer on both sides, however many cells each has. -/
theorem occurs (h : Mirror ρ s s') (hs : s.Grounded) (hs' : s'.Grounded) (hv : v'.cell = ρ v.cell)
    (ht : Renamed ρ t t') : s'.occurs v' t' = s.occurs v t := by
  have hleft := hs.occursWithin_iff (c := v.cell) (n := s.size + s'.size) (t := t)
    fun u _ => (rank_le_size s u.cell).trans (Nat.le_add_right _ _)
  have hright := hs'.occursWithin_iff (c := v'.cell) (n := s.size + s'.size) (t := t')
    fun u _ => (rank_le_size s' u.cell).trans (Nat.le_add_left _ _)
  rw [hv, h.root, h.occursWithin _ ht, ← hv] at hright
  rw [Bool.eq_iff_iff, hs'.occurs_iff, hs.occurs_iff, ← hleft, ← hright]

theorem resolveWithin (h : Mirror ρ s s') {n : Nat} (ht : Renamed ρ t t') :
    Renamed ρ (s.resolveWithin n t) (s'.resolveWithin n t') := by
  induction n generalizing t t' with
  | zero => exact ht
  | succ n ih =>
    refine ht.bind fun v v' hv => ?_
    cases hb : s.bound? v.cell with
    | none =>
      rw [h.unbound hv hb]
      exact .var hv
    | some u =>
      obtain ⟨u', hu', hu⟩ := h.exists_bound hv hb
      rw [hu']
      exact ih hu

theorem resolve (h : Mirror ρ s s') (hs : s.WellFormed) (hs' : s'.WellFormed) (ht : Renamed ρ t t') :
    Renamed ρ (s.resolve t) (s'.resolve t') := by
  have hleft := hs.resolveWithin_stable (t := t) (fun v _ => rank_le_size s v.cell)
    (Nat.le_add_right s.size s'.size)
  have hright := hs'.resolveWithin_stable (t := t') (fun v _ => rank_le_size s' v.cell)
    (Nat.le_add_left s'.size s.size)
  rw [Store.resolve, Store.resolve, ← hleft, ← hright]
  exact h.resolveWithin ht

/-! ## Writes -/

theorem assign (h : Mirror ρ s s') {c : CellId} (hc : c < s.size) (ht : Renamed ρ t t') :
    Mirror ρ (s.assign c t) (s'.assign (ρ c) t') where
  injective := h.injective
  size d hd := by simpa using h.size d (by simpa using hd)
  root d := by simpa using h.root d
  bound d := by
    rw [bound?_assign hc, bound?_assign (h.size c hc)]
    by_cases hd : s.root d = s.root c
    · rw [if_pos hd, if_pos (h.root_eq_iff.2 hd)]
      exact .some ht
    · rw [if_neg hd, if_neg (mt h.root_eq_iff.1 hd)]
      exact h.bound d
  constraints d := by simpa using h.constraints d

theorem apart (h : Mirror ρ s s') {c d : CellId} (hcd : s.Apart c d) : s'.Apart (ρ c) (ρ d) :=
  ⟨mt h.root_eq_iff.1 hcd.ne, h.size c hcd.left_lt, h.size d hcd.right_lt⟩

theorem join (h : Mirror ρ s s') {c d : CellId} (hcd : s.Apart c d) :
    Mirror ρ (s.join c d) (s'.join (ρ c) (ρ d)) where
  injective := h.injective
  size e he := by simpa using h.size e (by simpa using he)
  root e := by
    rw [root_join hcd, root_join (h.apart hcd), apply_ite ρ]
    simp only [h.root, h.injective.eq_iff]
  bound e := by
    rw [bound?_join hcd, bound?_join (h.apart hcd)]
    simp only [h.root_eq_iff]
    split
    · exact .none
    · exact h.bound e
  constraints e := by
    rw [constraints_join hcd, constraints_join (h.apart hcd)]
    simp only [h.root_eq_iff, h.constraints]

end Mirror

/-! ## New cells -/

/-- A mirror in which the cells that will be made next correspond in their order, so that it stays one
when both stores are given new cells. -/
structure Twin (ρ : CellId → CellId) (s s' : Store) : Prop extends Mirror ρ s s' where
  next : ∀ i, ρ (s.size + i) = s'.size + i

namespace Twin

theorem next_cell (h : Twin ρ s s') : s'.size = ρ s.size := (h.next 0).symm

theorem push (h : Twin ρ s s') (cs : ConstraintSet) (serial serial' : Nat) :
    Twin ρ { s.push cs with serial } { s'.push cs with serial := serial' } where
  injective := h.injective
  size c hc := by
    rcases Nat.lt_succ_iff_lt_or_eq.1 (hc.trans_eq (size_push s cs)) with hc | rfl
    · exact ((h.size c hc).trans (Nat.lt_succ_self _)).trans_eq (size_push s' cs).symm
    · rw [← h.next_cell]
      exact (Nat.lt_succ_self _).trans_eq (size_push s' cs).symm
  root c := by
    show (s'.push cs).root (ρ c) = ρ ((s.push cs).root c)
    rw [root_push, root_push, h.root]
  bound c := by
    show Option.Rel _ ((s.push cs).bound? c) ((s'.push cs).bound? (ρ c))
    rw [bound?_push, bound?_push]
    exact h.bound c
  constraints c := by
    show (s'.push cs).constraints (ρ c) = (s.push cs).constraints c
    rw [constraints_push, constraints_push, h.constraints, h.next_cell]
    simp only [h.injective.eq_iff]
  next i := by
    show ρ ((s.push cs).size + i) = (s'.push cs).size + i
    rw [size_push, size_push, Nat.add_right_comm, Nat.add_assoc, h.next, Nat.add_right_comm, Nat.add_assoc]

theorem writes (h : Twin ρ s s') {s₁ s₁' : Store} (hm : Mirror ρ s₁ s₁') (hs : s₁.size = s.size)
    (hs' : s₁'.size = s'.size) : Twin ρ s₁ s₁' :=
  { hm with next := fun i => by rw [hs, hs', h.next] }

end Twin

/-- The cells from `n` on moved up by `d`. -/
def shift (n d c : Nat) : Nat := if c < n then c else c + d

theorem shift_of_lt {n d c : Nat} (h : c < n) : shift n d c = c := if_pos h

theorem shift_of_le {n d c : Nat} (h : n ≤ c) : shift n d c = c + d := if_neg (Nat.not_lt.2 h)

theorem shift_injective (n d : Nat) : Function.Injective (shift n d) := by
  intro c e h
  unfold shift at h
  split at h <;> split at h <;> omega

/-- A store that says the same as an earlier one about the cells that this one has is its twin: the cells
made meanwhile are passed over. -/
theorem twin_of_agrees (hs : s.WellFormed) (hsize : s.size ≤ s'.size)
    (h : ∀ c, c < s.size → s.Agrees s' c) : Twin (shift s.size (s'.size - s.size)) s s' := by
  have hnew : ∀ c, s.size ≤ c → s'.size ≤ shift s.size (s'.size - s.size) c := by
    intro c hc
    rw [shift_of_le hc]
    omega
  refine ⟨⟨shift_injective _ _, fun c hc => ?_, fun c => ?_, fun c => ?_, fun c => ?_⟩, fun i => ?_⟩
  · rw [shift_of_lt hc]
    exact hc.trans_le hsize
  · rcases Nat.lt_or_ge c s.size with hc | hc
    · rw [shift_of_lt hc, shift_of_lt (root_lt hc), (h c hc).root]
    · rw [root_of_size_le (hnew c hc), root_of_size_le hc]
  · rcases Nat.lt_or_ge c s.size with hc | hc
    · rw [shift_of_lt hc, (h c hc).bound]
      cases hb : s.bound? c with
      | none => exact .none
      | some t => exact .some (.self fun v hv => shift_of_lt (hs.inStore c t hb v hv))
    · rw [bound?_of_size_le hc, bound?_of_size_le (hnew c hc)]
      exact .none
  · rcases Nat.lt_or_ge c s.size with hc | hc
    · rw [shift_of_lt hc, (h c hc).constraints]
    · rw [constraints_of_size_le hc, constraints_of_size_le (hnew c hc)]
  · show shift s.size (s'.size - s.size) (s.size + i) = s'.size + i
    rw [shift_of_le (Nat.le_add_right _ _)]
    omega

/-- Tables with the same entries, up to the names of keys and cells. -/
abbrev TableRel {K K' : Type} (g : K → K') (ρ : CellId → CellId) :
    List (K × TypeVar) → List (K' × TypeVar) → Prop :=
  List.Forall₂ fun p p' => p'.1 = g p.1 ∧ p'.2.cell = ρ p.2.cell

theorem lookup_rel {K K' : Type} [BEq K] [LawfulBEq K] [BEq K'] [LawfulBEq K'] {g : K → K'}
    (hg : Function.Injective g) {table : List (K × TypeVar)} {table' : List (K' × TypeVar)}
    (h : TableRel g ρ table table') (k : K) :
    Option.Rel (fun v v' => v'.cell = ρ v.cell) (table.lookup k) (table'.lookup (g k)) := by
  induction h with
  | nil => exact .none
  | @cons p p' _ _ hp _ ih =>
    obtain ⟨hkey, hcell⟩ := hp
    rw [List.lookup_cons, List.lookup_cons, hkey]
    by_cases hk : k = p.1
    · simp only [hk, BEq.rfl]
      exact .some hcell
    · rw [beq_false_of_ne hk, beq_false_of_ne (mt (hg.eq_iff).1 hk)]
      exact ih

namespace Twin

/-- Copies are made of the same variables in the same order. -/
theorem renew (h : Twin ρ s s') {vs vs' : List TypeVar}
    (hvs : List.Forall₂ (fun v v' => v'.cell = ρ v.cell) vs vs') :
    Twin ρ (s.renew vs).store (s'.renew vs').store ∧
      TableRel ρ ρ (s.renew vs).copies (s'.renew vs').copies := by
  refine List.rel_foldl
    (P := fun r r' : Renewal => Twin ρ r.store r'.store ∧ TableRel ρ ρ r.copies r'.copies)
    (fun r r' hr v v' hv => ?_) ⟨h, .nil⟩ hvs
  obtain ⟨hstore, hcopies⟩ := hr
  have hlookup := lookup_rel h.injective hcopies (s.root v.cell)
  rw [← h.root, ← hv] at hlookup
  unfold Renewal.add
  generalize r.copies.lookup (s.root v.cell) = o, r'.copies.lookup (s'.root v'.cell) = o' at hlookup
  cases hlookup with
  | some _ => exact ⟨hstore, hcopies⟩
  | none =>
    refine ⟨?_, .cons ⟨?_, hstore.next_cell⟩ hcopies⟩
    · rw [hv, h.constraints]
      exact hstore.push _ _ _
    · rw [hv, h.root]

theorem instantiate (h : Twin ρ s s') (hs : s.WellFormed) (hs' : s'.WellFormed) (ht : Renamed ρ t t') :
    Twin ρ (s.instantiate t).2 (s'.instantiate t').2 ∧
      Renamed ρ (s.instantiate t).1 (s'.instantiate t').1 := by
  have hresolved := h.resolve hs hs' ht
  obtain ⟨hstore, hcopies⟩ := h.renew hresolved.vars
  refine ⟨hstore, ?_⟩
  unfold Store.instantiate
  dsimp only
  rw [TypeExpr.map_eq_bind, TypeExpr.map_eq_bind]
  refine hresolved.bind fun v v' hv => .var ?_
  have hlookup := lookup_rel h.injective hcopies (s.root v.cell)
  rw [← h.root, ← hv] at hlookup
  generalize (s.renew (s.resolve t).vars).copies.lookup (s.root v.cell) = o,
    (s'.renew (s'.resolve t').vars).copies.lookup (s'.root v'.cell) = o' at hlookup ⊢
  cases hlookup with
  | some hcell => exact hcell
  | none => exact hv

end Twin

end Store

/-! ## Types of signatures -/

theorem Signature.build_twin {ρ : CellId → CellId} {s s' : Store} (sig : Signature)
    (h : Store.Twin ρ s s') :
    Store.Twin ρ (sig.build s).2 (sig.build s').2 ∧ Renamed ρ (sig.build s).1 (sig.build s').1 := by
  have hscope : Store.Twin ρ (sig.scope s).store (sig.scope s').store ∧
      Store.TableRel id ρ (sig.scope s).vars (sig.scope s').vars := by
    refine List.rel_foldl
      (P := fun x x' : Scope => Store.Twin ρ x.store x'.store ∧ Store.TableRel id ρ x.vars x'.vars)
      (R := Eq) (fun x x' hx name name' hname => ?_) ⟨h, .nil⟩ (List.forall₂_eq_eq_eq ▸ rfl)
    subst hname
    obtain ⟨hstore, hvars⟩ := hx
    have hlookup := Store.lookup_rel Function.injective_id hvars name
    unfold Scope.add
    rw [id] at hlookup
    generalize x.vars.lookup name = o, x'.vars.lookup name = o' at hlookup
    cases hlookup with
    | some _ => exact ⟨hstore, hvars⟩
    | none => exact ⟨hstore.push _ _ _, .cons ⟨rfl, hstore.next_cell⟩ hvars⟩
  refine ⟨hscope.1, .map fun name hname => ?_⟩
  have hlookup := Store.lookup_rel Function.injective_id hscope.2 name
  obtain ⟨v, hv⟩ := (sig.scope_makes s).2 name hname
  obtain ⟨v', hv'⟩ := (sig.scope_makes s').2 name hname
  rw [id, hv, hv'] at hlookup
  rw [hv, hv']
  cases hlookup with
  | some hcell => exact hcell

end BlockTypes
