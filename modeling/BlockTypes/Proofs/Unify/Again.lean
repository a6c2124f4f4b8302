import BlockTypes.Proofs.Unify.Derivation

/-!
# Unifying again

Two types that are the same through all bindings unify without any write (`unifies_of_image_eq`),
although what is compared at once is only how they are written: all mixes of bound, unbound and merged
variables are taken apart before the types meet. And a unification that has failed fails in the same way
when it is tried again in the store that it left (`Unifies.again`): the parts that were made equal before
the failure are the same now, and what failed comes to the same point, since the bindings made on the way
cannot reach back to a variable that was followed.
-/

namespace BlockTypes.Store

open Relation

variable {s s' : Store} {P : CellId → Prop} {a b t : Ty} {c d : CellId} {r : Option Cause} {cause : Cause}
  {ν : Type} {κ : ν → ConstraintSet} {σ : CellId → TypeExpr ν}

/-! ## What a derivation says about solutions -/

theorem Unifies.sound (hu : Unifies s a b s' none) (h : Prepared P s a b) (hs : s.WellFormed)
    (hσ : Solves κ s' σ) : a.image σ = b.image σ := by
  obtain ⟨rfl, hf⟩ := (unify_iff h).1 hu
  exact (unifyWithin_solved h hs).sound hf hσ

theorem Unifies.unsolvable (hu : Unifies s a b s' (some cause)) (h : Prepared P s a b)
    (hs : s.WellFormed) (hσ : Solves κ s σ) : a.image σ ≠ b.image σ := by
  intro heq
  obtain ⟨-, hf⟩ := (unify_iff h).1 hu
  exact ((unifyWithin_solved h hs).complete hσ heq).2 cause hf

theorem Unifies.wellFormed (hu : Unifies s a b s' r) (h : Prepared P s a b) (hs : s.WellFormed) :
    s'.WellFormed :=
  Writes.wellFormed (hu.writes h) hs

/-- Types that do not unify are not the same afterwards either. -/
theorem Unifies.differ_after (hu : Unifies s a b s' (some cause)) (h : Prepared P s a b)
    (hs : s.WellFormed) : ¬ s'.Same a b := by
  intro hsame
  have hs' := hu.wellFormed h hs
  have hσ := solves_spread_var hs'
  exact hu.unsolvable h hs (hσ.of_grows (Writes.grows (hu.writes h)) hs') (hσ.image_eq_of_same hsame)

/-! ## Types that are the same -/

/-- Resolved types are the same exactly if every class, standing for itself, makes them equal. -/
theorem same_resolve_iff (hs : s.WellFormed) :
    s.Same (s.resolve a) (s.resolve b) ↔ a.image (s.spread .var) = b.image (s.spread .var) := by
  rw [image_spread_var hs, image_spread_var hs]
  rfl

theorem image_ne_of_unbound (hs : s.WellFormed) {v : TypeVar} (unbound : s.bound? v.cell = none)
    (concrete : ∀ w, b ≠ .var w) : s.spread .var v.cell ≠ b.image (s.spread .var) := by
  rw [spread_of_unbound hs unbound]
  cases b with
  | var w => exact absurd rfl (concrete w)
  | con name => simp
  | arrow a b => simp
  | app t a => simp

theorem Unifies.idle (hu : Unifies s a b s' r) (h : Prepared P s a b) (hs : s.WellFormed)
    (heq : a.image (s.spread .var) = b.image (s.spread .var)) : s' = s ∧ r = none := by
  induction hu with
  | same same => exact ⟨rfl, rfl⟩
  | right concrete left ih => exact ih h.swap hs heq.symm
  | @recursive s v b differ occurs =>
    have hcontains := (hs.grounded.occurs_iff v b).1 occurs
    exact absurd heq ((solves_spread_var hs).ne_of_contains hs hcontains differ)
  | follow differ clear bound next ih =>
    exact ih (h.follow bound) hs (((solves_spread_var hs).bound _ _ bound).symm.trans heq)
  | followOther differ clear unbound bound next ih =>
    exact ih (h.swap.follow bound).swap hs (heq.trans ((solves_spread_var hs).bound _ _ bound))
  | @merge s v w clear unbound other apart =>
    -- Two unbound classes are given themselves, so they would be one.
    rw [TypeExpr.image_var, TypeExpr.image_var, spread_of_unbound hs unbound,
      spread_of_unbound hs other] at heq
    exact absurd (TypeExpr.var.inj heq).symm apart.ne
  | unsatisfied concrete clear unbound misfit => exact absurd heq (image_ne_of_unbound hs unbound concrete)
  | bind concrete clear unbound fits => exact absurd heq (image_ne_of_unbound hs unbound concrete)
  | mismatch differ => exact absurd (by simpa using heq) differ
  | first differ pair failed ih =>
    obtain ⟨⟨ha₁, -⟩, hb₁, -⟩ := pair.partOf
    obtain ⟨-, hr⟩ := ih (h.parts ha₁ hb₁) hs ((pair.bind_eq_iff _).1 heq).1
    cases hr
  | second differ pair done next ihd ihn =>
    obtain ⟨⟨ha₁, ha₂⟩, hb₁, hb₂⟩ := pair.partOf
    obtain ⟨heq₁, heq₂⟩ := (pair.bind_eq_iff _).1 heq
    obtain ⟨rfl, -⟩ := ihd (h.parts ha₁ hb₁) hs heq₁
    exact ihn (h.parts ha₂ hb₂) hs heq₂
  | shape clash => exact absurd heq (clash.bind_ne _)

/-- Types that are the same through all bindings unify, and nothing is written. -/
theorem unifies_of_image_eq (h : Prepared P s a b) (hs : s.WellFormed)
    (heq : a.image (s.spread .var) = b.image (s.spread .var)) : Unifies s a b s none := by
  obtain ⟨r, hu⟩ := exists_unifies h
  obtain ⟨hstore, rfl⟩ := hu.idle h hs heq
  rwa [hstore] at hu

/-! ## Regions of two types -/

/-- The class of the cell can be reached from one of the two types. -/
def Reach (s : Store) (a b : Ty) (c : CellId) : Prop := s.Contains a c ∨ s.Contains b c

theorem contains_of_mem {v : TypeVar} (hv : v ∈ t.vars) : s.Contains t v.cell := ⟨v, hv, .inl rfl⟩

theorem region_reach (s : Store) (a b : Ty) : Region (s.Reach a b) s := by
  refine ⟨fun c => ⟨fun h => ?_, fun h => ?_⟩, fun c t h ht v hv => ?_⟩
  · exact h.imp (·.trans (.inl (root_root s c))) (·.trans (.inl (root_root s c)))
  · exact h.imp (·.trans (.inl (root_root s c).symm)) (·.trans (.inl (root_root s c).symm))
  · have hlead : TransGen s.Leads c v.cell := .single ⟨t, ht, v, hv, rfl⟩
    exact h.imp (·.trans (.inr hlead)) (·.trans (.inr hlead))

theorem prepared_reach (hs : s.Grounded) (ha : s.Over a) (hb : s.Over b) :
    Prepared (s.Reach a b) s a b :=
  ⟨hs, region_reach s a b, fun v hv => ⟨ha v hv, .inl (contains_of_mem hv)⟩,
    fun v hv => ⟨hb v hv, .inr (contains_of_mem hv)⟩⟩

/-! ## Types that do not unify -/

/-- An unbound variable is bound or merged at the end of its unification, if at all. -/
theorem Unifies.quiet_of_unbound {v : TypeVar} (hu : Unifies s (.var v) b s' (some cause))
    (unbound : s.bound? v.cell = none) (concrete : ∀ w, b ≠ .var w) : s' = s := by
  cases hu with
  | right concrete' => exact absurd rfl (concrete _)
  | recursive => rfl
  | follow differ clear bound =>
    rw [unbound] at bound
    cases bound
  | followOther => exact absurd rfl (concrete _)
  | unsatisfied => rfl
  | first differ pair => cases pair
  | second differ pair => cases pair
  | shape clash => exact clash.elim

/-- The bindings made while a variable is followed do not lead back to it. -/
theorem Unifies.clear_after {v : TypeVar} (hu : Unifies s t b s' r) (h : Prepared P s (.var v) b)
    (bound : s.bound? v.cell = some t) (clear : s.occurs v b = false) : s'.occurs v b = false := by
  have hreach := prepared_reach h.grounded (h.follow bound).left.inStore h.right.inStore
  have hw := hu.writes hreach
  have houtside : ¬ s.Reach t b v.cell := by
    rintro (hc | hc)
    · exact h.grounded.acyclic _ (leads_trans_iff.2 ⟨t, bound, hc⟩)
    · rw [← h.grounded.occurs_iff, clear] at hc
      cases hc
  cases hoccurs : s'.occurs v b with
  | false => rfl
  | true =>
    have hc := ((Writes.grounded hw h.grounded).occurs_iff v b).1 hoccurs
    exact absurd ((Writes.region hw hreach.region).contains (fun w hw => (hreach.right w hw).2) hc) houtside

/-- What has failed fails for a cause of the same kind in the store that it left, and writes nothing
there. -/
theorem Unifies.again (hu : Unifies s a b s' (some cause)) (h : Prepared P s a b) (hs : s.WellFormed) :
    ∃ cause', Unifies s' a b s' (some cause') ∧ cause'.kind = cause.kind := by
  generalize hr : some cause = r at hu
  induction hu with
  | same same => cases hr
  | right concrete left ih =>
    obtain ⟨cause', hu', hkind⟩ := ih h.swap hs hr
    exact ⟨cause', .right concrete hu', hkind⟩
  | recursive differ occurs =>
    cases hr
    exact ⟨_, .recursive differ occurs, rfl⟩
  | follow differ clear bound next ih =>
    obtain ⟨cause', hu', hkind⟩ := ih (h.follow bound) hs hr
    subst hr
    have hg := Writes.grows (next.writes (h.follow bound))
    have hwhole := Unifies.follow differ clear bound next
    exact ⟨cause', .follow (hwhole.differ_after h hs) (next.clear_after h bound clear)
      (hg.bound _ _ bound) hu', hkind⟩
  | followOther differ clear unbound bound next ih =>
    subst hr
    obtain rfl := next.quiet_of_unbound unbound (hs.concrete _ _ bound)
    exact ⟨_, .followOther differ clear unbound bound next, rfl⟩
  | merge => cases hr
  | unsatisfied concrete clear unbound misfit =>
    cases hr
    exact ⟨_, .unsatisfied concrete clear unbound misfit, rfl⟩
  | bind => cases hr
  | mismatch differ =>
    cases hr
    exact ⟨_, .mismatch differ, rfl⟩
  | first differ pair failed ih =>
    obtain ⟨⟨ha₁, -⟩, hb₁, -⟩ := pair.partOf
    obtain ⟨cause', hu', hkind⟩ := ih (h.parts ha₁ hb₁) hs hr
    exact ⟨cause', .first ((Unifies.first differ pair failed).differ_after h hs) pair hu', hkind⟩
  | @second s s₁ s' a b a₁ a₂ b₁ b₂ r differ pair done next ihd ihn =>
    subst hr
    obtain ⟨⟨ha₁, ha₂⟩, hb₁, hb₂⟩ := pair.partOf
    have h₁ := h.parts ha₁ hb₁
    have h₂ := (h.parts ha₂ hb₂).writes (done.writes h₁)
    have hs₁ := done.wellFormed h₁ hs
    have hs' := next.wellFormed h₂ hs₁
    obtain ⟨cause', hu', hkind⟩ := ihn h₂ hs₁ rfl
    -- The first parts were made equal, and what came after has not undone it.
    have hsolves := (solves_spread_var hs').of_grows (Writes.grows (next.writes h₂)) hs'
    have hidle := unifies_of_image_eq ((h₁.writes (done.writes h₁)).writes (next.writes h₂)) hs'
      (done.sound h₁ hs hsolves)
    exact ⟨cause', .second ((Unifies.second differ pair done next).differ_after h hs) pair hidle hu', hkind⟩
  | shape clash =>
    cases hr
    exact ⟨_, .shape clash, rfl⟩

end BlockTypes.Store
