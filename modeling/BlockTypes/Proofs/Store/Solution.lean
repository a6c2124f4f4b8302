import BlockTypes.Proofs.Store.Write

/-!
# Solutions of a store

A store is a set of equations and constraints on its cells. A solution gives every cell a finite type
so that all of them hold; the types may have variables of any kind, each with constraints of its own.
Each write to a store adds one equation (`solves_assign_iff`, `solves_join_iff`), and a store that has
grown has no more solutions than before (`Solves.of_grows`). A solution is determined by what it gives
unbound classes, and that may be chosen freely within the constraints (`solves_spread`).
-/

namespace BlockTypes.Store

open Relation

variable {ν : Type} {κ : ν → ConstraintSet} {s s' : Store} {σ : CellId → TypeExpr ν}

/-- The type may stand where a variable has the constraints `cs`: if there are any, it is a
constructor that all of them admit, or a variable that has all of them. -/
def Fits (κ : ν → ConstraintSet) (cs : ConstraintSet) (t : TypeExpr ν) : Prop :=
  cs ≠ ∅ → (∃ name, t = .con name ∧ cs.Admits name) ∨ ∃ x, t = .var x ∧ ∀ k ∈ cs, k ∈ κ x

/-- Cells of one class get the same type, a bound cell what it stands for, and an unbound one a type
that fits its constraints. The variables of these types have the constraints `κ`. -/
structure Solves (κ : ν → ConstraintSet) (s : Store) (σ : CellId → TypeExpr ν) : Prop where
  same : ∀ c d, s.root c = s.root d → σ c = σ d
  bound : ∀ c t, s.bound? c = some t → σ c = t.image σ
  fits : ∀ c, s.bound? c = none → Fits κ (s.constraints c) (σ c)

/-! ## Fitting constraints -/

theorem ne_empty_of_mem {cs : ConstraintSet} {k : TypeClass} (h : k ∈ cs) : cs ≠ ∅ := by
  rintro rfl
  exact SortedSet.not_mem_empty k h

theorem exists_mem_of_ne_empty {cs : ConstraintSet} (h : cs ≠ ∅) : ∃ k, k ∈ cs := by
  by_contra hk
  exact h (SortedSet.ext fun k => iff_of_false (not_exists.1 hk k) (SortedSet.not_mem_empty k))

theorem admits_iff {cs : ConstraintSet} {name : String} :
    cs.Admits name ↔ ∀ k ∈ cs, k.Admits name :=
  Iff.rfl

theorem Fits.mono {cs ds : ConstraintSet} {t : TypeExpr ν} (h : Fits κ ds t)
    (hsub : ∀ k ∈ cs, k ∈ ds) : Fits κ cs t := by
  intro hcs
  obtain ⟨k, hk⟩ := exists_mem_of_ne_empty hcs
  rcases h (ne_empty_of_mem (hsub k hk)) with ⟨name, rfl, hname⟩ | ⟨x, rfl, hx⟩
  · exact .inl ⟨name, rfl, admits_iff.2 fun k hk => admits_iff.1 hname k (hsub k hk)⟩
  · exact .inr ⟨x, rfl, fun k hk => hx k (hsub k hk)⟩

theorem Fits.union {cs ds : ConstraintSet} {t : TypeExpr ν} (hc : Fits κ cs t) (hd : Fits κ ds t) :
    Fits κ (cs.union ds) t := by
  by_cases hcs : cs = ∅
  · refine hd.mono fun k hk => ?_
    rw [SortedSet.mem_union, hcs] at hk
    exact hk.resolve_left (SortedSet.not_mem_empty k)
  by_cases hds : ds = ∅
  · refine hc.mono fun k hk => ?_
    rw [SortedSet.mem_union, hds] at hk
    exact hk.resolve_right (SortedSet.not_mem_empty k)
  intro _
  rcases hc hcs with ⟨name, rfl, hname⟩ | ⟨x, rfl, hx⟩
  · rcases hd hds with ⟨name', he, hname'⟩ | ⟨y, he, -⟩
    · cases he
      refine .inl ⟨name, rfl, admits_iff.2 fun k hk => ?_⟩
      rcases SortedSet.mem_union.1 hk with hk | hk
      · exact hname k hk
      · exact hname' k hk
    · cases he
  · rcases hd hds with ⟨name', he, -⟩ | ⟨y, he, hy⟩
    · cases he
    · cases he
      refine .inr ⟨x, rfl, fun k hk => ?_⟩
      rcases SortedSet.mem_union.1 hk with hk | hk
      · exact hx k hk
      · exact hy k hk

/-- A type that fits still does among more variables. -/
theorem Fits.inl {μ : Type} {cs : ConstraintSet} {t : TypeExpr ν} (h : Fits κ cs t)
    (ι : μ → ConstraintSet) : Fits (Sum.elim κ ι) cs (t.map .inl) := by
  intro hcs
  rcases h hcs with ⟨name, rfl, hname⟩ | ⟨x, rfl, hx⟩
  · exact .inl ⟨name, rfl, hname⟩
  · exact .inr ⟨.inl x, rfl, hx⟩

theorem Fits.left {μ : Type} {ι : μ → ConstraintSet} {cs : ConstraintSet} {t : TypeExpr (ν ⊕ μ)}
    (h : Fits (Sum.elim κ ι) cs t) (ht : ∀ y, .inr y ∉ t.vars) : Fits κ cs t.left := by
  intro hcs
  rcases h hcs with ⟨name, rfl, hname⟩ | ⟨x | y, rfl, hx⟩
  · exact .inl ⟨name, rfl, hname⟩
  · exact .inr ⟨x, rfl, hx⟩
  · exact absurd (by simp [TypeExpr.vars]) (ht y)

/-- What does not satisfy constraints, and is no variable, fits them under no assignment. -/
theorem not_fits_image {t : Ty} {cs : ConstraintSet} (ht : ∀ v, t ≠ .var v)
    (h : ¬ Satisfies t cs) : ¬ Fits κ cs (t.image σ) := by
  intro hf
  have hcs : cs ≠ ∅ := by
    rintro rfl
    apply h
    cases t with
    | con name => exact fun k hk => absurd hk (SortedSet.not_mem_empty k)
    | var v => exact absurd rfl (ht v)
    | arrow a b => rfl
    | app t a => rfl
  rcases hf hcs with ⟨name, he, hname⟩ | ⟨x, he, -⟩
  · cases t with
    | con name' =>
      cases he
      exact h hname
    | var v => exact absurd rfl (ht v)
    | arrow a b => cases he
    | app t a => cases he
  · cases t with
    | var v => exact absurd rfl (ht v)
    | con name' => cases he
    | arrow a b => cases he
    | app t a => cases he

/-! ## What a solution keeps apart -/

theorem Solves.image_eq_bind_classes (hσ : Solves κ s σ) (t : Ty) :
    t.image σ = (s.classes t).bind σ := by
  rw [classes, TypeExpr.bind_map]
  exact TypeExpr.bind_congr fun v _ => hσ.same _ _ (root_root s v.cell).symm

theorem Solves.image_eq_of_same (hσ : Solves κ s σ) {a b : Ty} (h : s.Same a b) :
    a.image σ = b.image σ := by
  rw [hσ.image_eq_bind_classes, hσ.image_eq_bind_classes, h]

theorem Solves.size_lt (hσ : Solves κ s σ) (hs : s.WellFormed) {c d : CellId}
    (h : TransGen s.Leads c d) : (σ d).size < (σ c).size := by
  have step : ∀ {c d}, s.Leads c d → (σ d).size < (σ c).size := by
    rintro c d ⟨t, ht, v, hv, hvd⟩
    rw [hσ.bound c t ht, ← hσ.same _ _ hvd]
    exact TypeExpr.size_lt_image (hs.concrete c t ht) hv σ
  induction h with
  | single h => exact step h
  | tail _ h ih => exact (step h).trans ih

/-- No solution makes a variable equal to another type that contains it. -/
theorem Solves.ne_of_contains (hσ : Solves κ s σ) (hs : s.WellFormed) {v : TypeVar} {t : Ty}
    (h : s.Contains t v.cell) (hne : ¬ s.Same (.var v) t) : σ v.cell ≠ t.image σ := by
  intro he
  obtain ⟨w, hw, hwv⟩ := h
  have hle : (σ v.cell).size ≤ (σ w.cell).size := by
    rcases hwv with hwv | hwv
    · rw [hσ.same _ _ hwv]
    · exact (hσ.size_lt hs hwv).le
  have hlt : (σ v.cell).size < (t.image σ).size := by
    cases t with
    | var u =>
      obtain rfl : w = u := by simpa [TypeExpr.vars] using hw
      rcases hwv with hwv | hwv
      · exact absurd (by rw [Same, classes, classes, TypeExpr.map, TypeExpr.map, hwv]) hne
      · exact hσ.size_lt hs hwv
    | con name => simp [TypeExpr.vars] at hw
    | arrow a b => exact hle.trans_lt (TypeExpr.size_lt_image (fun _ h => by cases h) hw σ)
    | app t a => exact hle.trans_lt (TypeExpr.size_lt_image (fun _ h => by cases h) hw σ)
  rw [he] at hlt
  exact Nat.lt_irrefl _ hlt

/-- Only what the cells of the store are given counts. -/
theorem Solves.congr_cells {σ' : CellId → TypeExpr ν} (hσ : Solves κ s σ) (hs : s.WellFormed)
    (h : ∀ c, c < s.size → σ' c = σ c) : Solves κ s σ' where
  same c d hcd := by
    by_cases hc : c < s.size
    · have hd : d < s.size := root_lt_iff.1 (hcd ▸ root_lt hc)
      rw [h c hc, h d hd]
      exact hσ.same c d hcd
    · have hd : ¬ d < s.size := fun hd => hc (root_lt_iff.1 (hcd ▸ root_lt hd))
      rw [root_of_size_le (Nat.not_lt.1 hc), root_of_size_le (Nat.not_lt.1 hd)] at hcd
      rw [hcd]
  bound c t ht := by
    rw [h c (lt_of_bound ht), hσ.bound c t ht]
    exact TypeExpr.image_congr fun v hv => (h _ (hs.inStore c t ht v hv)).symm
  fits c hb := by
    by_cases hc : c < s.size
    · rw [h c hc]
      exact hσ.fits c hb
    · rw [constraints_of_size_le (Nat.not_lt.1 hc)]
      exact fun hne => absurd rfl hne

/-! ## What a write adds -/

/-- Every solution of a store that has grown is one of the store before. -/
theorem Solves.of_grows (hσ : Solves κ s' σ) (h : s.Grows s') (hs' : s'.WellFormed) :
    Solves κ s σ where
  same c d hcd := hσ.same c d (h.root c d hcd)
  bound c t ht := hσ.bound c t (h.bound c t ht)
  fits c _ := by
    cases hb : s'.bound? c with
    | none => exact (hσ.fits c hb).mono (h.constraints c)
    | some t =>
      -- The class has been bound since: what it stands for was admitted with all its constraints.
      refine Fits.mono (fun hcs => .inl ?_) (h.constraints c)
      obtain ⟨name, rfl, hname⟩ := hs'.admitted c t hb hcs
      exact ⟨name, hσ.bound c _ hb, hname⟩

theorem solves_assign_iff {c : CellId} {t : Ty} (hs : s.WellFormed) (inside : c < s.size)
    (unbound : s.bound? c = none) (inStore : s.Over t) (concrete : ∀ v, t ≠ .var v)
    (fits : Satisfies t (s.constraints c)) (apart : ¬ s.Contains t c) :
    Solves κ (s.assign c t) σ ↔ Solves κ s σ ∧ σ c = t.image σ := by
  constructor
  · intro hσ
    refine ⟨hσ.of_grows (grows_assign inside unbound) (hs.assign inside inStore concrete fits apart), ?_⟩
    exact hσ.bound c t (by rw [bound?_assign inside, if_pos rfl])
  · rintro ⟨hσ, hc⟩
    refine ⟨fun d e h => hσ.same d e (by simpa using h), fun d u hd => ?_, fun d hd => ?_⟩
    · rw [bound?_assign inside] at hd
      split at hd
      · rename_i hdc
        cases hd
        rw [hσ.same _ _ hdc, hc]
      · exact hσ.bound d u hd
    · rw [constraints_assign]
      rw [bound?_assign inside] at hd
      split at hd
      · cases hd
      · exact hσ.fits d hd

theorem solves_join_iff {c d : CellId} (hs : s.WellFormed) (apart : s.Apart c d)
    (left : s.bound? c = none) (right : s.bound? d = none) :
    Solves κ (s.join c d) σ ↔ Solves κ s σ ∧ σ c = σ d := by
  constructor
  · intro hσ
    refine ⟨hσ.of_grows (grows_join apart left right) (hs.join apart left right), hσ.same c d ?_⟩
    rw [root_join apart, root_join apart, if_pos rfl, if_neg (Ne.symm apart.ne)]
  · rintro ⟨hσ, hcd⟩
    have toUpper : ∀ x, s.root x = s.root c ∨ s.root x = s.root d → σ x = σ d := by
      rintro x (hx | hx)
      · exact (hσ.same _ _ hx).trans hcd
      · exact hσ.same _ _ hx
    refine ⟨fun x y hxy => ?_, fun x t hx => hσ.bound x t (bound?_of_bound?_join apart hx), ?_⟩
    · rw [root_join apart, root_join apart] at hxy
      split at hxy <;> split at hxy
      · rw [toUpper x (.inl ‹_›), toUpper y (.inl ‹_›)]
      · rw [toUpper x (.inl ‹_›), toUpper y (.inr hxy.symm)]
      · rw [toUpper x (.inr hxy), toUpper y (.inl ‹_›)]
      · exact hσ.same x y hxy
    · intro x hx
      rw [bound?_join apart] at hx
      rw [constraints_join apart]
      split
      · rename_i hxcd
        rw [toUpper x hxcd]
        exact (hσ.fits d right).union (hcd ▸ hσ.fits c left)
      · rename_i hxcd
        rw [if_neg hxcd] at hx
        exact hσ.fits x hx

theorem solves_extends_iff (h : s.Extends s') :
    Solves κ s' σ ↔ Solves κ s σ ∧ ∀ c, s.size ≤ c → Fits κ (s'.constraints c) (σ c) := by
  constructor
  · intro hσ
    refine ⟨⟨fun c d hcd => hσ.same c d ?_, fun c t ht => hσ.bound c t ?_, fun c hb => ?_⟩, ?_⟩
    · rwa [h.root, h.root]
    · rwa [h.bound]
    · rw [← h.bound] at hb
      exact (hσ.fits c hb).mono (h.grows.constraints c)
    · intro c hc
      refine hσ.fits c ?_
      rw [h.bound]
      exact bound?_of_size_le hc
  · rintro ⟨hσ, hnew⟩
    refine ⟨fun c d hcd => hσ.same c d ?_, fun c t ht => hσ.bound c t ?_, fun c hb => ?_⟩
    · rwa [h.root, h.root] at hcd
    · rwa [h.bound] at ht
    · by_cases hc : c < s.size
      · rw [h.bound] at hb
        rw [h.constraints c hc]
        exact hσ.fits c hb
      · exact hnew c (Nat.not_lt.1 hc)

/-- A solution goes on to a new cell with any type that fits there. -/
theorem Solves.update_push (hσ : Solves κ s σ) (hs : s.WellFormed) {cs : ConstraintSet} {t : TypeExpr ν}
    (ht : Fits κ cs t) (serial : Nat) :
    Solves κ { s.push cs with serial } (Function.update σ s.size t) := by
  refine (solves_extends_iff ((extends_push s cs).withSerial serial)).2 ⟨?_, fun c hc => ?_⟩
  · exact hσ.congr_cells hs fun c hc => Function.update_of_ne (Nat.ne_of_lt hc) _ _
  · show Fits κ ((s.push cs).constraints c) _
    rw [constraints_push]
    split
    · rename_i hnew
      rw [hnew, Function.update_self]
      exact ht
    · rw [constraints_of_size_le hc]
      exact fun hne => absurd rfl hne

/-! ## Solutions and resolved types -/

/-- A solution gives a type and the resolved type the same image. -/
theorem Solves.image_resolve (hσ : Solves κ s σ) (hs : s.WellFormed) (t : Ty) :
    (s.resolve t).image σ = t.image σ := by
  induction t using hs.through with
  | unbound v hv => rw [hs.resolve_unbound hv]
  | bound v t hv ih =>
    rw [hs.resolve_bound hv, ih]
    exact (hσ.bound _ _ hv).symm
  | con name => rw [resolve_con]
  | arrow a b iha ihb => rw [resolve_arrow, TypeExpr.image_arrow, TypeExpr.image_arrow, iha, ihb]
  | app t a iht iha => rw [resolve_app, TypeExpr.image_app, TypeExpr.image_app, iht, iha]

/-- The assignment that gives every unbound class what `θ` gives its root. -/
def spread (s : Store) (θ : CellId → TypeExpr ν) : CellId → TypeExpr ν := fun c =>
  (s.resolve (.var ⟨"", c⟩)).bind fun v => θ (s.root v.cell)

theorem spread_of_unbound (hs : s.WellFormed) {θ : CellId → TypeExpr ν} {c : CellId}
    (h : s.bound? c = none) : s.spread θ c = θ (s.root c) := by
  rw [spread, hs.resolve_unbound (show s.bound? (TypeVar.mk "" c).cell = none from h)]
  rfl

theorem spread_of_bound (hs : s.WellFormed) {θ : CellId → TypeExpr ν} {c : CellId} {t : Ty}
    (h : s.bound? c = some t) :
    s.spread θ c = (s.resolve t).bind fun v => θ (s.root v.cell) := by
  rw [spread, hs.resolve_bound (show s.bound? (TypeVar.mk "" c).cell = some t from h)]

theorem image_spread (hs : s.WellFormed) (θ : CellId → TypeExpr ν) (t : Ty) :
    t.image (s.spread θ) = (s.resolve t).bind fun v => θ (s.root v.cell) := by
  induction t using hs.through with
  | unbound v hv =>
    rw [TypeExpr.image_var, spread_of_unbound hs hv, hs.resolve_unbound hv]
    rfl
  | bound v t hv _ => rw [TypeExpr.image_var, spread_of_bound hs hv, hs.resolve_bound hv]
  | con name =>
    rw [resolve_con]
    rfl
  | arrow a b iha ihb => rw [resolve_arrow, TypeExpr.image_arrow, TypeExpr.bind, iha, ihb]
  | app t a iht iha => rw [resolve_app, TypeExpr.image_app, TypeExpr.bind, iht, iha]

/-- What unbound classes are given may be chosen freely within their constraints. -/
theorem solves_spread (hs : s.WellFormed) {θ : CellId → TypeExpr ν}
    (h : ∀ c, s.bound? c = none → Fits κ (s.constraints c) (θ (s.root c))) :
    Solves κ s (s.spread θ) where
  same c d hcd := by
    cases hb : s.bound? c with
    | none => rw [spread_of_unbound hs hb, spread_of_unbound hs (bound?_congr hcd ▸ hb), hcd]
    | some t => rw [spread_of_bound hs hb, spread_of_bound hs (bound?_congr hcd ▸ hb)]
  bound c t hb := by rw [spread_of_bound hs hb, image_spread hs]
  fits c hb := by
    rw [spread_of_unbound hs hb]
    exact h c hb

/-- Every class may stand for itself. -/
theorem solves_spread_var (hs : s.WellFormed) : Solves s.constraints s (s.spread .var) :=
  solves_spread hs fun c _ _ =>
    .inr ⟨s.root c, rfl, fun k hk => by rwa [constraints_congr (root_root s c)]⟩

theorem image_spread_var (hs : s.WellFormed) (t : Ty) :
    t.image (s.spread .var) = s.classes (s.resolve t) := by
  rw [image_spread hs, classes, TypeExpr.map_eq_bind]

end BlockTypes.Store
