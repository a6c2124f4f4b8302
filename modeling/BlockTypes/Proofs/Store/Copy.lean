import BlockTypes.Proofs.Store.Solution
import BlockTypes.Signature.Basic

/-!
# New variables

Copies of types and types of signatures are made in the same way: each key, a class or a name, is given
a new cell when it is met first. `Makes` is that process. A solution of the store before goes on to one
of the store after that gives each key any type within its constraints (`Makes.solution`), so that a
copy of a type can become exactly the instances of the type (`instance_of_instantiate`,
`exists_solves_instantiate`).
-/

namespace BlockTypes

namespace Store

variable {ν : Type} {κ : ν → ConstraintSet} {s s' : Store} {σ : CellId → TypeExpr ν}

/-! ## Cells by key -/

section Makes

variable {K : Type} [BEq K] {cs : K → ConstraintSet} {table : List (K × TypeVar)}

/-- The store and the table after new keys were given cells, one by one; the cell of a key has the
constraints that `cs` says. -/
inductive Makes (s : Store) (cs : K → ConstraintSet) : Store → List (K × TypeVar) → Prop
  | start : Makes s cs s []
  | add {s' : Store} {table : List (K × TypeVar)} {k : K} (name : String) (serial : Nat)
      (made : Makes s cs s' table) (new : table.lookup k = none) :
      Makes s cs { s'.push (cs k) with serial } ((k, ⟨name, s'.size⟩) :: table)

theorem Makes.toExtends (h : Makes s cs s' table) : s.Extends s' := by
  induction h with
  | start => exact .refl s
  | add name serial _ _ ih => exact (ih.trans (extends_push _ _)).withSerial serial

variable [LawfulBEq K]

theorem lookup_cons_cases {k k' : K} {v v' : TypeVar} (h : ((k, v) :: table).lookup k' = some v') :
    (k' = k ∧ v' = v) ∨ (k' ≠ k ∧ table.lookup k' = some v') := by
  rw [List.lookup_cons] at h
  by_cases hk : k' = k
  · subst hk
    exact .inl ⟨rfl, by simpa using h.symm⟩
  · rw [beq_false_of_ne hk] at h
    exact .inr ⟨hk, h⟩

/-- A key's cell is new, and has the constraints of the key. -/
theorem Makes.cell (h : Makes s cs s' table) {k : K} {v : TypeVar} (hv : table.lookup k = some v) :
    s.size ≤ v.cell ∧ v.cell < s'.size ∧ s'.constraints v.cell = cs k := by
  induction h with
  | start => cases hv
  | @add s' table k' name serial made new ih =>
    show s.size ≤ v.cell ∧ v.cell < (s'.push (cs k')).size ∧ (s'.push (cs k')).constraints v.cell = cs k
    rw [size_push, constraints_push]
    rcases lookup_cons_cases hv with ⟨rfl, rfl⟩ | ⟨-, hv⟩
    · exact ⟨made.toExtends.size, Nat.lt_succ_self _, if_pos rfl⟩
    · obtain ⟨hlow, hhigh, hcs⟩ := ih hv
      exact ⟨hlow, Nat.lt_succ_of_lt hhigh, by rw [if_neg (Nat.ne_of_lt hhigh), hcs]⟩

/-- Each key has a cell of its own. -/
theorem Makes.key_eq (h : Makes s cs s' table) {k k' : K} {v v' : TypeVar} (hv : table.lookup k = some v)
    (hv' : table.lookup k' = some v') (e : v.cell = v'.cell) : k = k' := by
  induction h with
  | start => cases hv
  | @add s' table k₀ name serial made new ih =>
    rcases lookup_cons_cases hv with ⟨rfl, rfl⟩ | ⟨-, old⟩ <;>
      rcases lookup_cons_cases hv' with ⟨rfl, rfl⟩ | ⟨-, old'⟩
    · rfl
    · exact absurd e.symm (Nat.ne_of_lt (made.cell old').2.1)
    · exact absurd e (Nat.ne_of_lt (made.cell old).2.1)
    · exact ih old old'

/-- A solution goes on to one that gives the cells of the keys what `θ` says, if that fits. -/
theorem Makes.solution (h : Makes s cs s' table) (hs : s.WellFormed) (hσ : Solves κ s σ)
    (θ : K → TypeExpr ν) (hθ : ∀ k v, table.lookup k = some v → Fits κ (cs k) (θ k)) :
    ∃ σ', Solves κ s' σ' ∧ (∀ c, c < s.size → σ' c = σ c) ∧
      ∀ k v, table.lookup k = some v → σ' v.cell = θ k := by
  induction h with
  | start => exact ⟨σ, hσ, fun _ _ => rfl, fun k v hv => by cases hv⟩
  | @add s' table k name serial made new ih =>
    have hkeep : ∀ k' v, table.lookup k' = some v →
        ((k, ⟨name, s'.size⟩) :: table).lookup k' = some v := by
      intro k' v hv
      have hk : k' ≠ k := by
        rintro rfl
        rw [new] at hv
        cases hv
      rw [List.lookup_cons, beq_false_of_ne hk, hv]
    obtain ⟨σ', hσ', hold, hnew⟩ := ih fun k' v hv => hθ k' v (hkeep k' v hv)
    refine ⟨Function.update σ' s'.size (θ k), ?_, fun c hc => ?_, fun k' v hv => ?_⟩
    · have hfits : Fits κ (cs k) (θ k) := hθ k ⟨name, s'.size⟩ (by simp)
      exact hσ'.update_push (made.toExtends.wellFormed hs) hfits serial
    · have hlt : c < s'.size := hc.trans_le made.toExtends.size
      rw [Function.update_of_ne (Nat.ne_of_lt hlt), hold c hc]
    · rcases lookup_cons_cases hv with ⟨rfl, rfl⟩ | ⟨-, hv⟩
      · exact Function.update_self _ _ _
      · rw [Function.update_of_ne (Nat.ne_of_lt (made.cell hv).2.1), hnew k' v hv]

end Makes

theorem fresh_extends (s : Store) (stem : String) (cs : ConstraintSet) :
    s.Extends (s.fresh stem cs).2 :=
  (extends_push s cs).withSerial _

@[simp] theorem size_fresh (s : Store) (stem : String) (cs : ConstraintSet) :
    (s.fresh stem cs).2.size = s.size + 1 :=
  size_push s cs

/-! ## Copies -/

theorem renew_append (s : Store) (vs : List TypeVar) (v : TypeVar) :
    s.renew (vs ++ [v]) = (s.renew vs).add s v := by
  rw [renew, List.foldl_append]
  rfl

/-- The copies for a list of variables: each class of the list has one, and no other class. -/
theorem renew_makes (s : Store) (vs : List TypeVar) :
    Makes s s.constraints (s.renew vs).store (s.renew vs).copies ∧
      (∀ v ∈ vs, ∃ w, (s.renew vs).copies.lookup (s.root v.cell) = some w) ∧
      ∀ c w, (s.renew vs).copies.lookup c = some w → ∃ v ∈ vs, s.root v.cell = c := by
  induction vs using List.reverseRecOn with
  | nil => exact ⟨.start, fun v hv => (by cases hv), fun c w h => (by cases h)⟩
  | append_singleton vs v ih =>
    obtain ⟨makes, covers, keys⟩ := ih
    rw [renew_append, Renewal.add]
    split
    · rename_i w hw
      refine ⟨makes, fun u hu => ?_, fun c x hx => ?_⟩
      · rcases List.mem_append.1 hu with hu | hu
        · exact covers u hu
        · obtain rfl : u = v := by simpa using hu
          exact ⟨w, hw⟩
      · obtain ⟨u, hu, hc⟩ := keys c x hx
        exact ⟨u, List.mem_append_left _ hu, hc⟩
    · rename_i hnew
      refine ⟨?_, fun u hu => ?_, fun c x hx => ?_⟩
      · rw [constraints_congr (root_root s v.cell).symm]
        exact .add _ _ makes hnew
      · by_cases huv : s.root u.cell = s.root v.cell
        · exact ⟨_, by rw [huv, List.lookup_cons_self]⟩
        · rcases List.mem_append.1 hu with hu | hu
          · obtain ⟨w, hw⟩ := covers u hu
            exact ⟨w, by rw [List.lookup_cons, beq_false_of_ne huv, hw]⟩
          · obtain rfl : u = v := by simpa using hu
            exact absurd rfl huv
      · rcases lookup_cons_cases hx with ⟨rfl, -⟩ | ⟨-, hx⟩
        · exact ⟨v, by simp, rfl⟩
        · obtain ⟨u, hu, hc⟩ := keys c x hx
          exact ⟨u, List.mem_append_left _ hu, hc⟩

theorem instantiate_extends (s : Store) (t : Ty) : s.Extends (s.instantiate t).2 :=
  (renew_makes s _).1.toExtends

/-- All variables of a copy are new. -/
theorem instantiate_new (s : Store) (t : Ty) :
    ∀ v ∈ (s.instantiate t).1.vars, s.size ≤ v.cell ∧ v.cell < (s.instantiate t).2.size := by
  intro v hv
  obtain ⟨makes, covers, -⟩ := renew_makes s (s.resolve t).vars
  obtain ⟨u, hu, rfl⟩ := TypeExpr.mem_vars_map.1 hv
  obtain ⟨w, hw⟩ := covers u hu
  rw [hw]
  exact ⟨(makes.cell hw).1, (makes.cell hw).2.1⟩

/-- The substitution gives the variables of the resolved type types that fit their constraints. -/
def Respects (κ : ν → ConstraintSet) (s : Store) (t : Ty) (θ : CellId → TypeExpr ν) : Prop :=
  ∀ v ∈ (s.resolve t).vars, Fits κ (s.constraints v.cell) (θ (s.root v.cell))

/-- The resolved type with each class of variables replaced. -/
def substitute (s : Store) (t : Ty) (θ : CellId → TypeExpr ν) : TypeExpr ν :=
  (s.resolve t).bind fun v => θ (s.root v.cell)

/-- A solution is a substitution that respects constraints, for every type of the store. -/
theorem Solves.respects (hσ : Solves κ s σ) (hs : s.WellFormed) (t : Ty) : Respects κ s t σ := by
  intro v hv
  rw [← hσ.same _ _ (root_root s v.cell).symm]
  exact hσ.fits _ (hs.unbound_of_mem_resolve t v hv)

theorem Solves.image_eq_substitute (hσ : Solves κ s σ) (hs : s.WellFormed) (t : Ty) :
    t.image σ = s.substitute t σ := by
  rw [← hσ.image_resolve hs]
  exact TypeExpr.bind_congr fun v _ => hσ.same _ _ (root_root s v.cell).symm

/-- What a solution makes of a copy is an instance of the type. -/
theorem instance_of_instantiate (t : Ty) (hσ : Solves κ (s.instantiate t).2 σ) :
    ∃ θ, Respects κ s t θ ∧ (s.instantiate t).1.image σ = s.substitute t θ := by
  obtain ⟨makes, covers, -⟩ := renew_makes s (s.resolve t).vars
  obtain ⟨θ, hθ⟩ : ∃ θ : CellId → TypeExpr ν, ∀ c w,
      (s.renew (s.resolve t).vars).copies.lookup c = some w → θ c = σ w.cell :=
    ⟨fun c => σ (((s.renew (s.resolve t).vars).copies.lookup c).getD ⟨"", c⟩).cell,
      fun c w hw => by simp [hw]⟩
  refine ⟨θ, ?_, ?_⟩
  · intro v hv
    obtain ⟨w, hw⟩ := covers v hv
    obtain ⟨hnew, -, hcs⟩ := makes.cell hw
    have hfits := hσ.fits w.cell (by
      rw [(instantiate_extends s t).bound]
      exact bound?_of_size_le hnew)
    rw [hθ _ w hw, constraints_congr (root_root s v.cell).symm, ← hcs]
    exact hfits
  · unfold instantiate substitute TypeExpr.image
    rw [TypeExpr.bind_map]
    refine TypeExpr.bind_congr fun v hv => ?_
    obtain ⟨w, hw⟩ := covers v hv
    rw [hw, hθ _ w hw]
    rfl

/-- A copy can become any instance of the type, whatever the cells before stand for. -/
theorem exists_solves_instantiate (hs : s.WellFormed) (hσ : Solves κ s σ) (t : Ty)
    {θ : CellId → TypeExpr ν} (hθ : Respects κ s t θ) :
    ∃ σ', Solves κ (s.instantiate t).2 σ' ∧ (∀ c, c < s.size → σ' c = σ c) ∧
      (s.instantiate t).1.image σ' = s.substitute t θ := by
  obtain ⟨makes, covers, keys⟩ := renew_makes s (s.resolve t).vars
  obtain ⟨σ', hσ', hold, hnew⟩ := makes.solution hs hσ θ fun c w hw => by
    obtain ⟨v, hv, rfl⟩ := keys c w hw
    rw [constraints_congr (root_root s v.cell)]
    exact hθ v hv
  refine ⟨σ', hσ', hold, ?_⟩
  unfold instantiate substitute TypeExpr.image
  rw [TypeExpr.bind_map]
  refine TypeExpr.bind_congr fun v hv => ?_
  obtain ⟨w, hw⟩ := covers v hv
  rw [hw]
  exact hnew _ w hw

/-! ## Instances in a store that has changed elsewhere -/

theorem resolve_of_agrees (hs : s.WellFormed) (hs' : s'.WellFormed)
    (h : ∀ c, c < s.size → s.Agrees s' c) {t : Ty} : s.Over t → s'.resolve t = s.resolve t :=
  hs.resolve_congr hs' (P := (· < s.size)) (fun c t _ => hs.inStore c t) fun c hc => (h c hc).bound

theorem respects_of_agrees (hs : s.WellFormed) (hs' : s'.WellFormed)
    (h : ∀ c, c < s.size → s.Agrees s' c) {t : Ty} (ht : s.Over t) {θ : CellId → TypeExpr ν} :
    Respects κ s' t θ ↔ Respects κ s t θ := by
  unfold Respects
  rw [resolve_of_agrees hs hs' h ht]
  refine forall₂_congr fun v hv => ?_
  have hagrees := h v.cell (hs.over_resolve ht v hv)
  rw [hagrees.constraints, hagrees.root]

theorem substitute_of_agrees (hs : s.WellFormed) (hs' : s'.WellFormed)
    (h : ∀ c, c < s.size → s.Agrees s' c) {t : Ty} (ht : s.Over t) (θ : CellId → TypeExpr ν) :
    s'.substitute t θ = s.substitute t θ := by
  unfold substitute
  rw [resolve_of_agrees hs hs' h ht]
  refine TypeExpr.bind_congr fun v hv => ?_
  rw [(h v.cell (hs.over_resolve ht v hv)).root]

end Store

/-! ## Types of signatures -/

theorem Signature.scope_makes (sig : Signature) (s : Store) :
    Store.Makes s sig.constraintsOn (sig.scope s).store (sig.scope s).vars ∧
      ∀ name ∈ sig.type.vars, ∃ v, (sig.scope s).vars.lookup name = some v := by
  unfold scope
  induction sig.type.vars using List.reverseRecOn with
  | nil => exact ⟨.start, fun name h => by cases h⟩
  | append_singleton names name ih =>
    obtain ⟨makes, covers⟩ := ih
    rw [List.foldl_append, List.foldl_cons, List.foldl_nil, Scope.add]
    split
    · rename_i v hv
      refine ⟨makes, fun other h => ?_⟩
      rcases List.mem_append.1 h with h | h
      · exact covers other h
      · obtain rfl : other = name := by simpa using h
        exact ⟨v, hv⟩
    · rename_i hnew
      refine ⟨.add _ _ makes hnew, fun other h => ?_⟩
      by_cases hne : other = name
      · exact ⟨_, by rw [hne, List.lookup_cons_self]⟩
      · rcases List.mem_append.1 h with h | h
        · obtain ⟨v, hv⟩ := covers other h
          exact ⟨v, by rw [List.lookup_cons, beq_false_of_ne hne, hv]⟩
        · exact absurd (by simpa using h) hne

/-- A signature is built of new cells only. -/
theorem Store.ofSignature_new {s s' : Store} {classes : Signature.Classes} {text : WideText} {t : Ty}
    (h : s.ofSignature classes text = .ok (t, s')) :
    s.Extends s' ∧ ∀ v ∈ t.vars, s.size ≤ v.cell ∧ v.cell < s'.size := by
  unfold ofSignature at h
  cases hread : Signature.readWide classes text with
  | error e => rw [hread] at h; cases h
  | ok sig =>
    rw [hread] at h
    obtain ⟨makes, covers⟩ := sig.scope_makes s
    have hbuild : sig.build s = (t, s') := by simpa [Except.map] using h
    obtain ⟨rfl, rfl⟩ := Prod.mk.inj hbuild
    refine ⟨makes.toExtends, fun v hv => ?_⟩
    obtain ⟨name, hname, rfl⟩ := TypeExpr.mem_vars_map.1 hv
    obtain ⟨w, hw⟩ := covers name hname
    rw [hw]
    exact ⟨(makes.cell hw).1, (makes.cell hw).2.1⟩

end BlockTypes
