import BlockTypes.Store.Forest

/-!
# Substitution in types

Laws of `map`, `bind` and `vars`. A type over the cells of a store is read through an assignment of
types to cells (`image`); a type that is not a variable itself is larger than what its variables are
given (`size_lt_bind`), which is why no assignment makes a variable equal to a type around it.
-/

namespace BlockTypes.TypeExpr

variable {ν μ ξ : Type}

theorem forall_vars_arrow {a b : TypeExpr ν} {p : ν → Prop} :
    (∀ v ∈ (arrow a b).vars, p v) ↔ (∀ v ∈ a.vars, p v) ∧ ∀ v ∈ b.vars, p v :=
  List.forall_mem_append

theorem forall_vars_app {t a : TypeExpr ν} {p : ν → Prop} :
    (∀ v ∈ (app t a).vars, p v) ↔ (∀ v ∈ t.vars, p v) ∧ ∀ v ∈ a.vars, p v :=
  List.forall_mem_append

theorem bind_congr {t : TypeExpr ν} {f g : ν → TypeExpr μ} (h : ∀ v ∈ t.vars, f v = g v) :
    t.bind f = t.bind g := by
  induction t with
  | var v => exact h v (by simp [vars])
  | con name => rfl
  | arrow a b iha ihb =>
    obtain ⟨ha, hb⟩ := forall_vars_arrow.1 h
    rw [bind, bind, iha ha, ihb hb]
  | app t a iht iha =>
    obtain ⟨ht, ha⟩ := forall_vars_app.1 h
    rw [bind, bind, iht ht, iha ha]

theorem map_eq_bind (t : TypeExpr ν) (f : ν → μ) : t.map f = t.bind fun v => var (f v) := by
  induction t with
  | var v => rfl
  | con name => rfl
  | arrow a b iha ihb => rw [map, bind, iha, ihb]
  | app t a iht iha => rw [map, bind, iht, iha]

theorem map_injective {f : ν → μ} (hf : Function.Injective f) :
    Function.Injective (map f : TypeExpr ν → TypeExpr μ) := by
  intro t
  induction t with
  | var v =>
    intro u h
    cases u <;> simp_all [map, hf.eq_iff]
  | con name =>
    intro u h
    cases u <;> simp_all [map]
  | arrow a b iha ihb =>
    intro u h
    cases u with
    | arrow a' b' =>
      obtain ⟨ha, hb⟩ : a.map f = a'.map f ∧ b.map f = b'.map f := by simpa [map] using h
      rw [iha ha, ihb hb]
    | _ => simp [map] at h
  | app t a iht iha =>
    intro u h
    cases u with
    | app t' a' =>
      obtain ⟨ht, ha⟩ : t.map f = t'.map f ∧ a.map f = a'.map f := by simpa [map] using h
      rw [iht ht, iha ha]
    | _ => simp [map] at h

theorem bind_bind (t : TypeExpr ν) (f : ν → TypeExpr μ) (g : μ → TypeExpr ξ) :
    (t.bind f).bind g = t.bind fun v => (f v).bind g := by
  induction t with
  | var v => rfl
  | con name => rfl
  | arrow a b iha ihb => simp only [bind, iha, ihb]
  | app t a iht iha => simp only [bind, iht, iha]

theorem bind_map (t : TypeExpr ν) (f : ν → μ) (g : μ → TypeExpr ξ) :
    (t.map f).bind g = t.bind fun v => g (f v) := by
  rw [map_eq_bind, bind_bind]
  rfl

theorem map_bind (t : TypeExpr ν) (f : ν → TypeExpr μ) (g : μ → ξ) :
    (t.bind f).map g = t.bind fun v => (f v).map g := by
  simp only [map_eq_bind, bind_bind]

theorem bind_var (t : TypeExpr ν) : t.bind var = t := by
  induction t with
  | var v => rfl
  | con name => rfl
  | arrow a b iha ihb => rw [bind, iha, ihb]
  | app t a iht iha => rw [bind, iht, iha]

theorem mem_vars_bind {t : TypeExpr ν} {f : ν → TypeExpr μ} {w : μ} :
    w ∈ (t.bind f).vars ↔ ∃ v ∈ t.vars, w ∈ (f v).vars := by
  induction t with
  | var v => simp [bind, vars]
  | con name => simp [bind, vars]
  | arrow a b iha ihb =>
    simp only [bind, vars, List.mem_append, iha, ihb, or_and_right, exists_or]
  | app t a iht iha =>
    simp only [bind, vars, List.mem_append, iht, iha, or_and_right, exists_or]

theorem mem_vars_map {t : TypeExpr ν} {f : ν → μ} {w : μ} :
    w ∈ (t.map f).vars ↔ ∃ v ∈ t.vars, w = f v := by
  rw [map_eq_bind, mem_vars_bind]
  simp [vars]

theorem size_le_bind {t : TypeExpr ν} {v : ν} (h : v ∈ t.vars) (f : ν → TypeExpr μ) :
    (f v).size ≤ (t.bind f).size := by
  induction t with
  | var w =>
    obtain rfl : v = w := by simpa [vars] using h
    exact Nat.le_refl _
  | con name => simp [vars] at h
  | arrow a b iha ihb =>
    rw [bind, size]
    rcases List.mem_append.1 h with h | h
    · have := iha h; omega
    · have := ihb h; omega
  | app t a iht iha =>
    rw [bind, size]
    rcases List.mem_append.1 h with h | h
    · have := iht h; omega
    · have := iha h; omega

/-- What stands for a variable is smaller than what stands for a type around it. -/
theorem size_lt_bind {t : TypeExpr ν} (ht : ∀ w, t ≠ var w) {v : ν} (h : v ∈ t.vars)
    (f : ν → TypeExpr μ) : (f v).size < (t.bind f).size := by
  cases t with
  | var w => exact absurd rfl (ht w)
  | con name => simp [vars] at h
  | arrow a b =>
    rw [bind, size]
    rcases List.mem_append.1 h with h | h
    · have := size_le_bind h f; omega
    · have := size_le_bind h f; omega
  | app t a =>
    rw [bind, size]
    rcases List.mem_append.1 h with h | h
    · have := size_le_bind h f; omega
    · have := size_le_bind h f; omega

/-! ## Variables of two kinds -/

/-- The type over the variables on the left; there should be no others. -/
def left (t : TypeExpr (ν ⊕ μ)) : TypeExpr ν := t.bind (Sum.elim var fun _ => con "")

theorem left_map_inl (t : TypeExpr ν) : (t.map (Sum.inl : ν → ν ⊕ μ)).left = t := by
  unfold left
  rw [bind_map]
  exact bind_var t

theorem inr_notMem_map_inl (t : TypeExpr ν) (y : μ) :
    Sum.inr y ∉ (t.map (Sum.inl : ν → ν ⊕ μ)).vars := by
  intro h
  obtain ⟨x, -, hx⟩ := mem_vars_map.1 h
  cases hx

/-! ## Parts -/

/-- A smaller type whose variables are variables of the larger one. -/
structure PartOf (u t : TypeExpr ν) : Prop where
  size_lt : u.size < t.size
  vars : ∀ v ∈ u.vars, v ∈ t.vars

theorem PartOf.arrow_left (a b : TypeExpr ν) : PartOf a (arrow a b) :=
  ⟨by rw [size]; omega, fun _ hv => List.mem_append_left _ hv⟩

theorem PartOf.arrow_right (a b : TypeExpr ν) : PartOf b (arrow a b) :=
  ⟨by rw [size]; omega, fun _ hv => List.mem_append_right _ hv⟩

theorem PartOf.app_left (t a : TypeExpr ν) : PartOf t (app t a) :=
  ⟨by rw [size]; omega, fun _ hv => List.mem_append_left _ hv⟩

theorem PartOf.app_right (t a : TypeExpr ν) : PartOf a (app t a) :=
  ⟨by rw [size]; omega, fun _ hv => List.mem_append_right _ hv⟩

/-- Two arrows or two applications, and their parts. -/
inductive Paired : (a b a₁ a₂ b₁ b₂ : TypeExpr ν) → Prop
  | arrow {a₁ a₂ b₁ b₂ : TypeExpr ν} : Paired (.arrow a₁ a₂) (.arrow b₁ b₂) a₁ a₂ b₁ b₂
  | app {a₁ a₂ b₁ b₂ : TypeExpr ν} : Paired (.app a₁ a₂) (.app b₁ b₂) a₁ a₂ b₁ b₂

/-- Neither of the two types is a variable, and they differ in shape. -/
def Clash : TypeExpr ν → TypeExpr ν → Prop
  | var _, _ => False
  | _, var _ => False
  | con _, con _ => False
  | arrow _ _, arrow _ _ => False
  | app _ _, app _ _ => False
  | _, _ => True

namespace Paired

variable {a b a₁ a₂ b₁ b₂ : TypeExpr ν}

theorem partOf (h : Paired a b a₁ a₂ b₁ b₂) :
    (a₁.PartOf a ∧ a₂.PartOf a) ∧ b₁.PartOf b ∧ b₂.PartOf b := by
  cases h with
  | arrow => exact ⟨⟨.arrow_left _ _, .arrow_right _ _⟩, .arrow_left _ _, .arrow_right _ _⟩
  | app => exact ⟨⟨.app_left _ _, .app_right _ _⟩, .app_left _ _, .app_right _ _⟩

theorem swap (h : Paired a b a₁ a₂ b₁ b₂) : Paired b a b₁ b₂ a₁ a₂ := by
  cases h with
  | arrow => exact .arrow
  | app => exact .app

theorem bind_eq_iff (h : Paired a b a₁ a₂ b₁ b₂) (f : ν → TypeExpr μ) :
    a.bind f = b.bind f ↔ a₁.bind f = b₁.bind f ∧ a₂.bind f = b₂.bind f := by
  cases h <;> simp [bind]

end Paired

theorem Clash.swap {a b : TypeExpr ν} (h : Clash a b) : Clash b a := by
  cases a <;> cases b <;> simp_all [Clash]

theorem Clash.bind_ne {a b : TypeExpr ν} (h : Clash a b) (f : ν → TypeExpr μ) :
    a.bind f ≠ b.bind f := by
  cases a <;> cases b <;> simp_all [Clash, bind]

/-! ## Types through an assignment of cells -/

/-- The type with every variable replaced by what its cell is given. -/
def image (t : Ty) (σ : CellId → TypeExpr ν) : TypeExpr ν := t.bind fun v => σ v.cell

@[simp] theorem image_var (v : TypeVar) (σ : CellId → TypeExpr ν) : image (.var v) σ = σ v.cell := rfl

@[simp] theorem image_con (name : String) (σ : CellId → TypeExpr ν) :
    image (.con name) σ = .con name := rfl

@[simp] theorem image_arrow (a b : Ty) (σ : CellId → TypeExpr ν) :
    image (.arrow a b) σ = .arrow (a.image σ) (b.image σ) := rfl

@[simp] theorem image_app (t a : Ty) (σ : CellId → TypeExpr ν) :
    image (.app t a) σ = .app (t.image σ) (a.image σ) := rfl

theorem image_congr {t : Ty} {σ τ : CellId → TypeExpr ν} (h : ∀ v ∈ t.vars, σ v.cell = τ v.cell) :
    t.image σ = t.image τ :=
  bind_congr h

theorem size_lt_image {t : Ty} (ht : ∀ w, t ≠ .var w) {v : TypeVar} (h : v ∈ t.vars)
    (σ : CellId → TypeExpr ν) : (σ v.cell).size < (t.image σ).size :=
  size_lt_bind ht h fun w => σ w.cell

end BlockTypes.TypeExpr
