import BlockTypes.Proofs.Unify.Again
import BlockTypes.Proofs.Unify.Mirror
import Mathlib.Logic.Equiv.Basic

/-!
# Trying again with a new variable

An application makes a new variable for its result each time it is tried, so that a second attempt is not
the same unification as the first. It ends in the same way all the same (`Unifies.retry`). A first attempt
that fails has left its own new variable alone (`Unifies.spares`), for there is nothing that a free
variable cannot become. So the store it leaves looks the same with that variable and the next one
exchanged, and to exchange them turns the first attempt, made once more, into the second.
-/

namespace BlockTypes.Store

variable {ν : Type} {κ : ν → ConstraintSet} {s s' s₁ : Store} {σ : CellId → TypeExpr ν} {c : CellId}
  {a q : Ty} {v : TypeVar} {cause : Cause} {P : CellId → Prop}

/-! ## Free variables -/

/-- The cell is a class of its own, of which nothing is known, and no class stands for a type with it. -/
structure Free (s : Store) (c : CellId) : Prop where
  region : Region (· ≠ c) s
  unbound : s.bound? c = none
  unconstrained : s.constraints c = ∅

theorem Free.root_eq_iff (h : Free s c) {d : CellId} : s.root d = c ↔ d = c :=
  not_iff_not.1 (h.region.root d)

theorem Free.root_self (h : Free s c) : s.root c = c := h.root_eq_iff.2 rfl

theorem Free.writes (h : Free s c) (hw : Writes (· ≠ c) s s') : Free s' c := by
  have hagrees := Writes.outside hw h.region (c := c) fun hne => hne rfl
  refine ⟨Writes.region hw h.region, ?_, ?_⟩
  · rw [hagrees.bound, h.unbound]
  · rw [hagrees.constraints, h.unconstrained]

theorem free_fresh (hs : s.WellFormed) : Free (s.fresh "t" ∅).2 s.size := by
  refine ⟨⟨fun d => ?_, fun d t hd ht u hu => ?_⟩, ?_, ?_⟩
  · show (s.push ∅).root d ≠ s.size ↔ d ≠ s.size
    rw [root_push]
    refine ⟨fun h hd => h ?_, root_ne_size⟩
    rw [hd, root_of_size_le (Nat.le_refl _)]
  · rw [(fresh_extends s "t" ∅).bound] at ht
    exact Nat.ne_of_lt (hs.inStore d t ht u hu)
  · rw [(fresh_extends s "t" ∅).bound]
    exact bound?_of_size_le (Nat.le_refl _)
  · exact (constraints_push s ∅ s.size).trans (if_pos rfl)

/-- A free variable may be given any type. -/
theorem Free.solves_update (h : Free s c) (hσ : Solves κ s σ) (t : TypeExpr ν) :
    Solves κ s (Function.update σ c t) where
  same d e hde := by
    by_cases hd : d = c
    · have he : e = c := h.root_eq_iff.1 (hde ▸ h.root_eq_iff.2 hd)
      rw [hd, he]
    · have he : e ≠ c := fun he => hd (h.root_eq_iff.1 (hde ▸ h.root_eq_iff.2 he))
      rw [Function.update_of_ne hd, Function.update_of_ne he]
      exact hσ.same d e hde
  bound d u hu := by
    have hd : d ≠ c := by
      rintro rfl
      rw [h.unbound] at hu
      cases hu
    rw [Function.update_of_ne hd, hσ.bound d u hu]
    exact TypeExpr.image_congr fun v hv =>
      (Function.update_of_ne (h.region.bound d u hd hu v hv) _ _).symm
  fits d hd := by
    by_cases hdc : d = c
    · rw [hdc, h.unconstrained]
      exact fun hne => absurd rfl hne
    · rw [Function.update_of_ne hdc]
      exact hσ.fits d hd

/-- A type that does not have a free variable always unifies with it. -/
theorem Free.not_unifies (h : Free s v.cell) (hs : s.WellFormed) (hp : Prepared P s a (.var v))
    (ha : ∀ u ∈ a.vars, u.cell ≠ v.cell) : ¬ Unifies s a (.var v) s' (some cause) := by
  intro hu
  have hσ := h.solves_update (solves_spread_var hs) (a.image (s.spread .var))
  refine hu.unsolvable hp hs hσ ?_
  rw [TypeExpr.image_var, Function.update_self]
  exact TypeExpr.image_congr fun u hu => Function.update_of_ne (ha u hu) _ _

/-- Unification with an arrow to a free variable does not come to that variable unless it succeeds. -/
theorem Unifies.spares (hu : Unifies s a (.arrow q (.var v)) s' (some cause)) (hs : s.WellFormed)
    (hv : v.cell < s.size) (hfree : Free s v.cell) (ha : s.Within (· ≠ v.cell) a)
    (hq : s.Within (· ≠ v.cell) q) : Writes (· ≠ v.cell) s s' := by
  generalize hb : TypeExpr.arrow q (.var v) = b at hu
  generalize hr : some cause = r at hu
  induction hu with
  | same same => cases hr
  | right => cases hb
  | recursive => exact .refl
  | follow differ clear bound next ih =>
    refine ih hs hv hfree (fun u hu => ⟨hs.inStore _ _ bound u hu, ?_⟩) hq hb hr
    exact hfree.region.bound _ _ (ha _ (by simp [TypeExpr.vars])).2 bound u hu
  | followOther => cases hb
  | merge => cases hb
  | unsatisfied => exact .refl
  | bind => cases hr
  | mismatch => cases hb
  | first differ pair failed =>
    cases hb
    cases pair with
    | arrow =>
      have hleft := fun u hu => ha u (List.mem_append_left _ hu)
      exact failed.writes ⟨hs.grounded, hfree.region, hleft, hq⟩
  | @second s s₁ s' a b a₁ a₂ b₁ b₂ r differ pair done next =>
    cases hb
    cases hr
    cases pair with
    | arrow =>
      have hw := done.writes ⟨hs.grounded, hfree.region, fun u hu => ha u (List.mem_append_left _ hu), hq⟩
      have hs₁ := Writes.wellFormed hw hs
      have hright := fun u hu => ha u (List.mem_append_right _ hu)
      have hprepared : Prepared (fun _ => True) s₁ a₂ (.var v) := by
        refine .ofOver hs₁.grounded (fun u hu => ?_) fun u hu => ?_
        · exact (hright u hu).1.trans_le (Writes.grows hw).size
        · obtain rfl : u = v := by simpa [TypeExpr.vars] using hu
          exact hv.trans_le (Writes.grows hw).size
      -- The arguments have been made equal, and the result can be whatever it has to be.
      exact absurd next ((hfree.writes hw).not_unifies hs₁ hprepared fun u hu => (hright u hu).2)
  | shape => exact .refl

/-! ## The second attempt -/

/-- A free variable can be exchanged for a new one. -/
theorem Free.mirror_fresh (h : Free s c) (hs : s.WellFormed) (hc : c < s.size) :
    Mirror (Equiv.swap c s.size) s (s.fresh "t" ∅).2 := by
  have hext := fresh_extends s "t" ∅
  have hroot : s.root s.size = s.size := root_of_size_le (Nat.le_refl _)
  have hbound : s.bound? s.size = none := bound?_of_size_le (Nat.le_refl _)
  have hother : ∀ d, d ≠ c → d ≠ s.size → Equiv.swap c s.size d = d :=
    fun d hdc hds => Equiv.swap_apply_of_ne_of_ne hdc hds
  have hcases : ∀ d, d = c ∨ d = s.size ∨ d ≠ c ∧ d ≠ s.size := fun d => by
    by_cases hdc : d = c <;> by_cases hds : d = s.size <;> simp [hdc, hds]
  refine ⟨(Equiv.swap c s.size).injective, fun d hd => ?_, fun d => ?_, fun d => ?_, fun d => ?_⟩
  · rw [size_fresh]
    rcases hcases d with rfl | rfl | ⟨hdc, hds⟩
    · rw [Equiv.swap_apply_left]
      exact Nat.lt_succ_self _
    · exact absurd hd (Nat.lt_irrefl _)
    · rw [hother d hdc hds]
      exact Nat.lt_succ_of_lt hd
  · rw [hext.root]
    rcases hcases d with rfl | rfl | ⟨hdc, hds⟩
    · rw [h.root_self, Equiv.swap_apply_left, hroot]
    · rw [hroot, Equiv.swap_apply_right, h.root_self]
    · rw [hother d hdc hds, hother _ (mt h.root_eq_iff.1 hdc) (root_ne_size hds)]
  · rw [hext.bound]
    rcases hcases d with rfl | rfl | ⟨hdc, hds⟩
    · rw [h.unbound, Equiv.swap_apply_left, hbound]
      exact .none
    · rw [hbound, Equiv.swap_apply_right, h.unbound]
      exact .none
    · rw [hother d hdc hds]
      cases hb : s.bound? d with
      | none => exact .none
      | some t =>
        refine .some (.self fun u hu => hother _ (h.region.bound d t hdc hb u hu) ?_)
        exact Nat.ne_of_lt (hs.inStore d t hb u hu)
  · rcases hcases d with rfl | rfl | ⟨hdc, hds⟩
    · rw [Equiv.swap_apply_left, (free_fresh hs).unconstrained, h.unconstrained]
    · rw [Equiv.swap_apply_right, hext.constraints c hc, h.unconstrained,
        constraints_of_size_le (Nat.le_refl _)]
    · rw [hother d hdc hds]
      exact (constraints_push s ∅ d).trans (if_neg hds)

/-- Of two stores that mirror a third one, a store that has grown from the other has nothing new in it. -/
theorem Mirror.extends {ρ : CellId → CellId} (h : Mirror ρ s s') (h₁ : Mirror ρ s s₁)
    (hρ : Function.Surjective ρ) (hg : s'.Grows s₁) : s'.Extends s₁ := by
  refine ⟨hg.size, fun d => ?_, fun d => ?_, fun d _ => ?_⟩
  · obtain ⟨c, rfl⟩ := hρ d
    rw [h.root, h₁.root]
  · cases hb : s'.bound? d with
    | some t => exact hg.bound d t hb
    | none =>
      obtain ⟨c, rfl⟩ := hρ d
      have hrel := h.bound c
      rw [hb] at hrel
      refine h₁.unbound rfl ?_
      generalize s.bound? c = o at hrel
      cases hrel
      rfl
  · obtain ⟨c, rfl⟩ := hρ d
    rw [h.constraints, h₁.constraints]

theorem fresh_lt (s : Store) : (s.fresh "t" ∅).1.cell < (s.fresh "t" ∅).2.size := by
  rw [size_fresh]
  exact Nat.lt_succ_self _

theorem prepared_arrow {t u : Ty} (hs : s.Grounded) (ht : s.Over t) (hu : s.Over u)
    (hv : v.cell < s.size) : Prepared (fun _ => True) s t (.arrow u (.var v)) := by
  refine .ofOver hs ht (over_arrow.2 ⟨hu, fun x hx => ?_⟩)
  obtain rfl : x = v := by simpa [TypeExpr.vars] using hx
  exact hv

/-- When a type does not meet the arrow to a new variable, then with a further variable in its place it
fails for a cause of the same kind, and nothing but that variable is new in the store. -/
theorem Unifies.retry {t u : Ty} (hs : s.WellFormed) (ht : s.Over t) (hu : s.Over u)
    (failed : Unifies (s.fresh "t" ∅).2 t (.arrow u (.var (s.fresh "t" ∅).1)) s₁ (some cause)) :
    ∃ s₂ cause', Unifies (s₁.fresh "t" ∅).2 t (.arrow u (.var (s₁.fresh "t" ∅).1)) s₂ (some cause') ∧
      cause'.kind = cause.kind ∧ s₁.Extends s₂ := by
  have hext := fresh_extends s "t" ∅
  have hsf := hext.wellFormed hs
  have hv := fresh_lt s
  have hold : ∀ {x : Ty}, s.Over x → (s.fresh "t" ∅).2.Within (· ≠ (s.fresh "t" ∅).1.cell) x :=
    fun hx y hy => ⟨(hx y hy).trans_le hext.size, Nat.ne_of_lt (hx y hy)⟩
  -- The first attempt has left its new variable free, and would fail again in the store it has left.
  have hw := failed.spares hsf hv (free_fresh hs) (hold ht) (hold hu)
  have hfree := (free_fresh hs).writes hw
  have hs₁ := Writes.wellFormed hw hsf
  have hsize : s₁.size = s.size + 1 := (Writes.size_eq hw).trans (size_fresh s "t" ∅)
  have hprepared := prepared_arrow hsf.grounded (ht.grows hext.grows) (hu.grows hext.grows) hv
  obtain ⟨cause₁, hagain, hkind₁⟩ := failed.again hprepared hsf
  -- With the two variables exchanged, that is the second attempt.
  have hext₁ := fresh_extends s₁ "t" ∅
  have hmirror := hfree.mirror_fresh hs₁ (hsize ▸ Nat.lt_succ_self _)
  have hself : ∀ {x : Ty}, s.Over x → Renamed (Equiv.swap s.size s₁.size) x x := fun hx =>
    .self fun y hy => Equiv.swap_apply_of_ne_of_ne (Nat.ne_of_lt (hx y hy))
      (Nat.ne_of_lt ((hx y hy).trans (hsize ▸ Nat.lt_succ_self _)))
  have hg := hext.grows.trans (Writes.grows hw)
  have hg₁ := hg.trans hext₁.grows
  have hprepared₂ := prepared_arrow (hext₁.wellFormed hs₁).grounded (ht.grows hg₁) (hu.grows hg₁)
    (fresh_lt s₁)
  obtain ⟨s₂, r, hsecond, hmirror₂, hr⟩ := hagain.mirror
    (prepared_arrow hs₁.grounded (ht.grows hg) (hu.grows hg) (hv.trans_le (Writes.grows hw).size))
    hprepared₂ hmirror (hself ht)
    (.arrow (hself hu) (.var (Equiv.swap_apply_left _ _).symm))
  obtain ⟨cause₂, rfl, hkind₂⟩ := Option.map_eq_some_iff.1 hr
  have hgrows := Writes.grows (hsecond.writes hprepared₂)
  exact ⟨s₂, cause₂, hsecond, hkind₂.trans hkind₁,
    hext₁.trans (hmirror.extends hmirror₂ (Equiv.surjective _) hgrows)⟩

end BlockTypes.Store
