import BlockTypes.Proofs.Store.Mirror
import BlockTypes.Proofs.Unify.Derivation

/-!
# Unification in mirrored stores

In two stores that differ in their cells only, unification of the same types does the same: it makes the
mirrored writes, and fails on both sides or on neither, for causes of the same kind (`Unifies.mirror`).
-/

namespace BlockTypes.Store

variable {ρ : CellId → CellId} {P P' : CellId → Prop} {s s₁ s' : Store} {a b a' b' : Ty}
  {r : Option Cause}

/-- From the mirrored store unification comes to the mirrored result. -/
def Mirrors (ρ : CellId → CellId) (s' : Store) (a' b' : Ty) (s₁ : Store) (r : Option Cause) : Prop :=
  ∃ s₁' r', Unifies s' a' b' s₁' r' ∧ Mirror ρ s₁ s₁' ∧ r'.map Cause.kind = r.map Cause.kind

theorem Mirrors.imp {a'' b'' : Ty} (h : Mirrors ρ s' a'' b'' s₁ r)
    (himp : ∀ s₁' r', Unifies s' a'' b'' s₁' r' → Unifies s' a' b' s₁' r') :
    Mirrors ρ s' a' b' s₁ r := by
  obtain ⟨s₁', r', hu, hm, hr⟩ := h
  exact ⟨s₁', r', himp s₁' r' hu, hm, hr⟩

theorem Unifies.mirror (hu : Unifies s a b s₁ r) (h : Prepared P s a b) (h' : Prepared P' s' a' b')
    (hm : Mirror ρ s s') (ha : Renamed ρ a a') (hb : Renamed ρ b b') : Mirrors ρ s' a' b' s₁ r := by
  induction hu generalizing s' a' b' with
  | same same => exact ⟨s', none, .same ((hm.same_iff ha hb).2 same), hm, rfl⟩
  | right concrete left ih =>
    cases hb with
    | var cell =>
      exact (ih h.swap h'.swap hm (.var cell) ha).imp fun _ _ hu => .right (ha.concrete concrete) hu
  | recursive differ occurs =>
    cases ha with
    | var cell =>
      have occurs' := (hm.occurs h.grounded h'.grounded cell hb).trans occurs
      exact ⟨s', _, .recursive (mt (hm.same_iff (.var cell) hb).1 differ) occurs', hm, rfl⟩
  | follow differ clear bound next ih =>
    cases ha with
    | @var v v' cell =>
      have clear' := (hm.occurs h.grounded h'.grounded cell hb).trans clear
      obtain ⟨t', bound', ht⟩ := hm.exists_bound cell bound
      refine (ih (h.follow bound) (h'.follow bound') hm ht hb).imp fun _ _ hnext => ?_
      exact .follow (mt (hm.same_iff (.var cell) hb).1 differ) clear' bound' hnext
  | followOther differ clear unbound bound next ih =>
    cases ha with
    | @var v v' cell =>
      cases hb with
      | @var w w' cell' =>
        have differ' := mt (hm.same_iff (.var cell) (.var cell')).1 differ
        have clear' := (hm.occurs h.grounded h'.grounded cell (.var cell')).trans clear
        obtain ⟨u', bound', hu⟩ := hm.exists_bound cell' bound
        refine (ih (h.swap.follow bound).swap (h'.swap.follow bound').swap hm (.var cell) hu).imp
          fun _ _ hnext => ?_
        exact .followOther differ' clear' (hm.unbound cell unbound) bound' hnext
  | merge clear unbound other apart =>
    cases ha with
    | @var v v' cell =>
      cases hb with
      | @var w w' cell' =>
        have clear' := (hm.occurs h.grounded h'.grounded cell (.var cell')).trans clear
        have apart' := hm.apart apart
        have hjoin := hm.join apart
        rw [← cell, ← cell'] at apart' hjoin
        exact ⟨_, none, .merge clear' (hm.unbound cell unbound) (hm.unbound cell' other) apart', hjoin, rfl⟩
  | unsatisfied concrete clear unbound misfit =>
    cases ha with
    | @var v v' cell =>
      have clear' := (hm.occurs h.grounded h'.grounded cell hb).trans clear
      refine ⟨s', _, .unsatisfied (hb.concrete concrete) clear' (hm.unbound cell unbound) ?_, hm, rfl⟩
      rwa [cell, hm.constraints, hb.satisfies_iff]
  | @bind s v b concrete clear unbound fits =>
    cases ha with
    | @var _ v' cell =>
      have clear' := (hm.occurs h.grounded h'.grounded cell hb).trans clear
      have hassign := hm.assign (h.left v (by simp [TypeExpr.vars])).1 hb
      rw [← cell] at hassign
      refine ⟨_, none, .bind (hb.concrete concrete) clear' (hm.unbound cell unbound) ?_, hassign, rfl⟩
      rwa [cell, hm.constraints, hb.satisfies_iff]
  | mismatch differ =>
    cases ha
    cases hb
    exact ⟨s', _, .mismatch differ, hm, rfl⟩
  | first differ pair failed ih =>
    obtain ⟨a₁', a₂', b₁', b₂', pair', ⟨ha₁, -⟩, hb₁, -⟩ := ha.paired hb pair
    obtain ⟨⟨hpa, -⟩, hpb, -⟩ := pair.partOf
    obtain ⟨⟨hpa', -⟩, hpb', -⟩ := pair'.partOf
    obtain ⟨s₁', r', hu', hm', hr'⟩ := ih (h.parts hpa hpb) (h'.parts hpa' hpb') hm ha₁ hb₁
    obtain ⟨cause', rfl⟩ : ∃ cause', r' = some cause' := by
      cases r' with
      | none => cases hr'
      | some cause' => exact ⟨cause', rfl⟩
    exact ⟨s₁', _, .first (mt (hm.same_iff ha hb).1 differ) pair' hu', hm', hr'⟩
  | second differ pair done next ihd ihn =>
    obtain ⟨a₁', a₂', b₁', b₂', pair', ⟨ha₁, ha₂⟩, hb₁, hb₂⟩ := ha.paired hb pair
    obtain ⟨⟨hpa₁, hpa₂⟩, hpb₁, hpb₂⟩ := pair.partOf
    obtain ⟨⟨hpa₁', hpa₂'⟩, hpb₁', hpb₂'⟩ := pair'.partOf
    have h₁ := h.parts hpa₁ hpb₁
    have h₁' := h'.parts hpa₁' hpb₁'
    obtain ⟨m', r', hdone', hm', hr'⟩ := ihd h₁ h₁' hm ha₁ hb₁
    obtain rfl : r' = none := Option.map_eq_none_iff.1 hr'
    -- The second parts meet in the stores that the first parts have left, which are mirrored too.
    obtain ⟨s₁', r', hnext', hm₁, hr₁⟩ := ihn ((h.parts hpa₂ hpb₂).writes (done.writes h₁))
      ((h'.parts hpa₂' hpb₂').writes (hdone'.writes h₁')) hm' ha₂ hb₂
    exact ⟨s₁', r', .second (mt (hm.same_iff ha hb).1 differ) pair' hdone' hnext', hm₁, hr₁⟩
  | shape clash => exact ⟨s', _, .shape (ha.clash hb clash), hm, rfl⟩

end BlockTypes.Store
