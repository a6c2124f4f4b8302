import BlockTypes.Proofs.Unify.Derivation

/-!
# Unification the other way round

It makes no difference which of two types is named first (`unify_symmetric`), although a call looks at the
left one first: it is the left variable that is looked for in the other type, that is followed first if it
is bound, and whose root stays when two are merged. Stores that differ in such roots only are `Alike`, and
unification takes the same way in both (`Unifies.alike`). A run is then compared with a derivation for the
types the other way round. Where both are bound variables, that derivation follows the other one first, and
it takes two calls until both are followed. So the induction is on the depth of calls
(`unifyWithin_turned`).
-/

namespace BlockTypes

open Relation

namespace Outcome

variable {s s' : Store} {r : Option Cause}

theorem Yields.of_done (h : (done s).Yields s' r) : s' = s ∧ r = none := by
  obtain ⟨rfl, hr⟩ := h
  cases r with
  | none => exact ⟨rfl, rfl⟩
  | some cause => cases hr

theorem Yields.of_refuse {event : Event} {cause : Cause} (h : (refuse s event cause).Yields s' r) :
    s' = s ∧ r = some cause := by
  obtain ⟨rfl, hr⟩ := h
  cases r with
  | none => cases hr
  | some cause' =>
    cases hr
    exact ⟨rfl, rfl⟩

end Outcome

namespace Store

variable {s s' s'' s₁ : Store} {a b t : Ty} {c d : CellId} {v w : TypeVar} {P : CellId → Prop}
  {r : Option Cause} {o : Outcome} {n : Nat}

/-! ## Stores that differ in their roots -/

/-- The stores have the same cells in the same classes, bound to the same types and with the same
constraints. They may differ in the roots that stand for the classes. -/
structure Alike (s s' : Store) : Prop where
  size : s'.size = s.size
  root : ∀ c d, s'.root c = s'.root d ↔ s.root c = s.root d
  bound : ∀ c, s'.bound? c = s.bound? c
  constraints : ∀ c, s'.constraints c = s.constraints c

namespace Alike

theorem refl (s : Store) : Alike s s := ⟨rfl, fun _ _ => Iff.rfl, fun _ => rfl, fun _ => rfl⟩

theorem symm (h : Alike s s') : Alike s' s :=
  ⟨h.size.symm, fun c d => (h.root c d).symm, fun c => (h.bound c).symm, fun c => (h.constraints c).symm⟩

theorem trans (h : Alike s s') (h' : Alike s' s'') : Alike s s'' where
  size := h'.size.trans h.size
  root c d := (h'.root c d).trans (h.root c d)
  bound c := (h'.bound c).trans (h.bound c)
  constraints c := (h'.constraints c).trans (h.constraints c)

theorem same (h : Alike s s') (hsame : s.Same a b) : s'.Same a b := by
  -- What a type looks like in one store can be told from what it looks like in the other.
  have hclasses : ∀ t : Ty, s'.classes t = (s.classes t).bind fun c => .var (s'.root c) := by
    intro t
    unfold classes
    rw [TypeExpr.bind_map, TypeExpr.map_eq_bind]
    refine TypeExpr.bind_congr fun v _ => ?_
    rw [(h.root _ _).2 (root_root s v.cell)]
  unfold Same at hsame ⊢
  rw [hclasses, hclasses, hsame]

theorem same_iff (h : Alike s s') : s'.Same a b ↔ s.Same a b := ⟨h.symm.same, h.same⟩

theorem leads (h : Alike s s') : s'.Leads = s.Leads := by
  funext c d
  simp only [Leads, h.bound, h.root]

theorem contains_iff (h : Alike s s') : s'.Contains t c ↔ s.Contains t c := by
  simp only [Contains, h.root, h.leads]

theorem grounded (h : Alike s s') (hs : s.Grounded) : s'.Grounded where
  inStore c t ht v hv := by
    rw [h.bound] at ht
    rw [h.size]
    exact hs.inStore c t ht v hv
  concrete c t ht := by
    rw [h.bound] at ht
    exact hs.concrete c t ht
  acyclic c := by
    rw [h.leads]
    exact hs.acyclic c

theorem occurs (h : Alike s s') (hs : s.Grounded) (v : TypeVar) (t : Ty) :
    s'.occurs v t = s.occurs v t := by
  rw [Bool.eq_iff_iff, (h.grounded hs).occurs_iff, hs.occurs_iff, h.contains_iff]

theorem assign (h : Alike s s') (hc : c < s.size) (t : Ty) : Alike (s.assign c t) (s'.assign c t) where
  size := by simpa using h.size
  root d e := by simpa using h.root d e
  bound d := by
    rw [bound?_assign hc, bound?_assign (h.size ▸ hc)]
    simp only [h.root, h.bound]
  constraints d := by simpa using h.constraints d

theorem apart (h : Alike s s') (hcd : s.Apart c d) : s'.Apart c d :=
  ⟨mt (h.root c d).1 hcd.ne, h.size ▸ hcd.left_lt, h.size ▸ hcd.right_lt⟩

theorem join (h : Alike s s') (hcd : s.Apart c d) : Alike (s.join c d) (s'.join c d) where
  size := by simpa using h.size
  root x y := by simp only [root_join_eq_iff hcd, root_join_eq_iff (h.apart hcd), h.root]
  bound x := by simp only [bound?_join hcd, bound?_join (h.apart hcd), h.root, h.bound]
  constraints x := by
    simp only [constraints_join hcd, constraints_join (h.apart hcd), h.root, h.constraints]

end Alike

theorem Apart.symm (h : s.Apart c d) : s.Apart d c := ⟨h.ne.symm, h.right_lt, h.left_lt⟩

/-- Whichever of two classes joins the other, they become the same class. -/
theorem alike_join_comm (h : s.Apart c d) : Alike (s.join c d) (s.join d c) := by
  have hunion : (s.constraints c).union (s.constraints d) = (s.constraints d).union (s.constraints c) :=
    SortedSet.ext fun k => by simp [or_comm]
  refine ⟨by simp, fun x y => ?_, fun x => ?_, fun x => ?_⟩
  · simp only [root_join_eq_iff h, root_join_eq_iff h.symm, or_comm]
  · simp only [bound?_join h, bound?_join h.symm, or_comm]
  · simp only [constraints_join h, constraints_join h.symm, or_comm, hunion]

/-- Unification takes the same way in stores that are alike, and leaves stores that are. -/
theorem Unifies.alike (hu : Unifies s a b s₁ r) (h : Prepared P s a b) (hs : Alike s s') :
    ∃ s₁', Unifies s' a b s₁' r ∧ Alike s₁ s₁' := by
  induction hu generalizing s' with
  | same same => exact ⟨s', .same (hs.same same), hs⟩
  | right concrete left ih =>
    obtain ⟨s₁', hu', hs₁⟩ := ih h.swap hs
    exact ⟨s₁', .right concrete hu', hs₁⟩
  | recursive differ occurs =>
    exact ⟨s', .recursive (mt hs.same_iff.1 differ) ((hs.occurs h.grounded _ _).trans occurs), hs⟩
  | follow differ clear bound next ih =>
    obtain ⟨s₁', hu', hs₁⟩ := ih (h.follow bound) hs
    exact ⟨s₁', .follow (mt hs.same_iff.1 differ) ((hs.occurs h.grounded _ _).trans clear)
      ((hs.bound _).trans bound) hu', hs₁⟩
  | followOther differ clear unbound bound next ih =>
    obtain ⟨s₁', hu', hs₁⟩ := ih (h.swap.follow bound).swap hs
    exact ⟨s₁', .followOther (mt hs.same_iff.1 differ) ((hs.occurs h.grounded _ _).trans clear)
      ((hs.bound _).trans unbound) ((hs.bound _).trans bound) hu', hs₁⟩
  | merge clear unbound other apart =>
    exact ⟨_, .merge ((hs.occurs h.grounded _ _).trans clear) ((hs.bound _).trans unbound)
      ((hs.bound _).trans other) (hs.apart apart), hs.join apart⟩
  | unsatisfied concrete clear unbound misfit =>
    rw [← hs.constraints] at misfit ⊢
    exact ⟨s', .unsatisfied concrete ((hs.occurs h.grounded _ _).trans clear)
      ((hs.bound _).trans unbound) misfit, hs⟩
  | @bind s v b concrete clear unbound fits =>
    rw [← hs.constraints] at fits
    exact ⟨_, .bind concrete ((hs.occurs h.grounded _ _).trans clear) ((hs.bound _).trans unbound) fits,
      hs.assign (h.left v (by simp [TypeExpr.vars])).1 b⟩
  | mismatch differ => exact ⟨s', .mismatch differ, hs⟩
  | first differ pair failed ih =>
    obtain ⟨⟨ha₁, -⟩, hb₁, -⟩ := pair.partOf
    obtain ⟨s₁', hu', hs₁⟩ := ih (h.parts ha₁ hb₁) hs
    exact ⟨s₁', .first (mt hs.same_iff.1 differ) pair hu', hs₁⟩
  | second differ pair done next ihd ihn =>
    obtain ⟨⟨ha₁, ha₂⟩, hb₁, hb₂⟩ := pair.partOf
    obtain ⟨m', hdone', hm⟩ := ihd (h.parts ha₁ hb₁) hs
    obtain ⟨s₁', hnext', hs₁⟩ := ihn ((h.parts ha₂ hb₂).writes (done.writes (h.parts ha₁ hb₁))) hm
    exact ⟨s₁', .second (mt hs.same_iff.1 differ) pair hdone' hnext', hs₁⟩
  | shape clash => exact ⟨s', .shape clash, hs⟩

/-! ## Variables that occur in variables -/

theorem Grounded.occurs_unbound (hs : s.Grounded) (differ : ¬ s.Same (.var v) (.var w))
    (unbound : s.bound? w.cell = none) : s.occurs v (.var w) = false := by
  rw [Bool.eq_false_iff, ne_eq, hs.occurs_iff, contains_var_iff, leads_trans_iff]
  rintro (hroot | ⟨t, ht, -⟩)
  · exact root_ne_of_not_same differ hroot
  · rw [unbound] at ht
    cases ht

theorem Grounded.occurs_bound (hs : s.Grounded) (differ : ¬ s.Same (.var v) (.var w))
    (bound : s.bound? w.cell = some t) : s.occurs v (.var w) = s.occurs v t := by
  rw [Bool.eq_iff_iff, hs.occurs_iff, hs.occurs_iff, contains_var_iff, leads_trans_iff]
  constructor
  · rintro (hroot | ⟨u, hu, huv⟩)
    · exact absurd hroot (root_ne_of_not_same differ)
    · rw [bound] at hu
      cases hu
      exact huv
  · intro htv
    exact .inr ⟨t, bound, htv⟩

/-- If one variable is met in another one, that one is not met in it. -/
theorem Grounded.clear_of_occurs (hs : s.Grounded) (differ : ¬ s.Same (.var v) (.var w))
    (occurs : s.occurs v (.var w) = true) : s.occurs w (.var v) = false := by
  have hne := root_ne_of_not_same differ
  have hwv := (contains_var_iff.1 ((hs.occurs_iff v _).1 occurs)).resolve_left hne
  rw [Bool.eq_false_iff, ne_eq, hs.occurs_iff, contains_var_iff]
  rintro (hroot | hvw)
  · exact hne hroot.symm
  · exact hs.acyclic v.cell (hvw.trans hwv)

/-! ## The types the other way round -/

/-- Unification of the two types ends in a store like `s₁`, and for a cause of the same kind as `r`, if
there is one. -/
def EndsLike (s : Store) (a b : Ty) (s₁ : Store) (r : Option Cause) : Prop :=
  ∃ s₂ r', Unifies s a b s₂ r' ∧ Alike s₁ s₂ ∧ r'.map Cause.kind = r.map Cause.kind

theorem Unifies.endsLike (hu : Unifies s a b s₁ r) : EndsLike s a b s₁ r := ⟨s₁, r, hu, .refl s₁, rfl⟩

theorem EndsLike.imp {a' b' : Ty} (h : EndsLike s a b s₁ r)
    (himp : ∀ s₂ r', Unifies s a b s₂ r' → Unifies s a' b' s₂ r') : EndsLike s a' b' s₁ r := by
  obtain ⟨s₂, r', hu, halike, hkind⟩ := h
  exact ⟨s₂, r', himp s₂ r' hu, halike, hkind⟩

theorem EndsLike.first {a₁ a₂ b₁ b₂ : Ty} {cause : Cause} (h : EndsLike s a₁ b₁ s₁ (some cause))
    (differ : ¬ s.Same a b) (pair : a.Paired b a₁ a₂ b₁ b₂) : EndsLike s a b s₁ (some cause) := by
  obtain ⟨s₂, r', hu, halike, hkind⟩ := h
  obtain ⟨cause', rfl, -⟩ := Option.map_eq_some_iff.1 hkind
  exact ⟨s₂, _, .first differ pair hu, halike, hkind⟩

theorem EndsLike.second {a₁ a₂ b₁ b₂ : Ty} {m : Store} (h : EndsLike s a₁ b₁ m none)
    (differ : ¬ s.Same a b) (pair : a.Paired b a₁ a₂ b₁ b₂) (hp : Prepared P m a₂ b₂)
    (next : EndsLike m a₂ b₂ s₁ r) : EndsLike s a b s₁ r := by
  obtain ⟨m', r', hdone, hm, hkind⟩ := h
  obtain rfl : r' = none := by simpa using hkind
  obtain ⟨s₂, r', hnext, halike, hkind⟩ := next
  -- The second parts meet in another store than before, where unification takes the same way.
  obtain ⟨s₃, hnext', halike'⟩ := hnext.alike hp hm
  exact ⟨s₃, r', .second differ pair hdone hnext', halike.trans halike', hkind⟩

theorem not_yields_zero : ¬ (unifyWithin 0 s a b).Yields s₁ r := by
  rintro ⟨-, hr⟩
  cases r <;> cases hr

/-- The first of two variables is bound, and followed to the type that the second meets. If the second is
bound too, its type has met this one from the left, and meets it from the right the other way round. -/
theorem VarStep.turned_follow (step : VarStep (unifyWithin n) s w t o)
    (h : Prepared P s (.var v) (.var w)) (differ : ¬ s.Same (.var v) (.var w))
    (clear : s.occurs v (.var w) = false) (bound : s.bound? v.cell = some t) (hy : o.Yields s₁ r)
    (ih : ∀ a b, Prepared P s a b → (unifyWithin n s a b).Yields s₁ r → EndsLike s b a s₁ r) :
    EndsLike s (.var w) (.var v) s₁ r := by
  have hs := h.grounded
  have ht := hs.concrete _ _ bound
  have differ' : ¬ s.Same (.var w) (.var v) := fun hsame => differ hsame.symm
  have hoccurs := hs.occurs_bound differ' bound
  cases step with
  | recursive occurs =>
    obtain ⟨rfl, rfl⟩ := hy.of_refuse
    exact ⟨s₁, _, .recursive differ' (hoccurs.trans occurs), .refl s₁, rfl⟩
  | @follow _ u bound' clear' =>
    have hu := hs.concrete _ _ bound'
    have clear'' := (hs.occurs_bound differ bound').symm.trans clear
    refine (ih u t ((h.follow bound).swap.follow bound') hy).imp fun s₂ r' hnext => ?_
    exact .follow differ' (hoccurs.trans clear') bound'
      (.right hu (.follow (not_same_of_concrete hu) clear'' bound hnext))
  | followOther => exact absurd rfl (ht _)
  | merge => exact absurd rfl (ht _)
  | unsatisfied unbound _ misfit clear' =>
    obtain ⟨rfl, rfl⟩ := hy.of_refuse
    exact (Unifies.followOther differ' (hoccurs.trans clear') unbound bound
      (.unsatisfied ht clear' unbound misfit)).endsLike
  | bind unbound _ fits clear' =>
    obtain ⟨rfl, rfl⟩ := hy.of_done
    exact (Unifies.followOther differ' (hoccurs.trans clear') unbound bound
      (.bind ht clear' unbound fits)).endsLike

theorem VarStep.turned (step : VarStep (unifyWithin n) s v (.var w) o)
    (h : Prepared P s (.var v) (.var w)) (differ : ¬ s.Same (.var v) (.var w)) (hy : o.Yields s₁ r)
    (ih : ∀ m < n, ∀ a b, Prepared P s a b → (unifyWithin m s a b).Yields s₁ r → EndsLike s b a s₁ r) :
    EndsLike s (.var w) (.var v) s₁ r := by
  have hs := h.grounded
  have differ' : ¬ s.Same (.var w) (.var v) := fun hsame => differ hsame.symm
  cases step with
  | recursive occurs =>
    obtain ⟨rfl, rfl⟩ := hy.of_refuse
    cases hb : s₁.bound? w.cell with
    | none =>
      rw [hs.occurs_unbound differ hb] at occurs
      cases occurs
    | some u =>
      -- The second variable leads to the first. So it is followed, and the first is met in its type.
      have hu := hs.concrete _ _ hb
      have occurs' := (hs.occurs_bound differ hb).symm.trans occurs
      refine ⟨s₁, some (.recursive v u), ?_, .refl s₁, rfl⟩
      exact .follow differ' (hs.clear_of_occurs differ occurs) hb
        (.right hu (.recursive (not_same_of_concrete hu) occurs'))
  | @follow _ t bound clear =>
    have ht := hs.concrete _ _ bound
    have hnext := h.follow bound
    cases n with
    | zero => exact absurd hy not_yields_zero
    | succ n =>
      rw [unifyWithin_concrete_var ht] at hy
      have hstep : VarStep (unifyWithin n) s w t (unifyVar (unifyWithin n) s w t) :=
        unifyVar_step (hnext.right w (by simp [TypeExpr.vars])).1 hnext.left.inStore
          (not_same_of_concrete ht)
      exact hstep.turned_follow h differ clear bound hy fun a b => ih n (Nat.lt_succ_self n) a b
  | @followOther _ u unbound bound clear =>
    have hnext := (unifyWithin_derived (h.swap.follow bound).swap).unifies hy
    exact (Unifies.follow differ' (hs.occurs_unbound differ' unbound) bound
      (.right (hs.concrete _ _ bound) hnext)).endsLike
  | merge unbound other apart clear =>
    obtain ⟨rfl, rfl⟩ := hy.of_done
    exact ⟨_, none, .merge (hs.occurs_unbound differ' unbound) other unbound apart.symm,
      alike_join_comm apart, rfl⟩
  | unsatisfied unbound concrete => exact absurd rfl (concrete w)
  | bind unbound concrete => exact absurd rfl (concrete w)

/-- What a run comes to, a derivation for the two types the other way round comes to as well. -/
theorem unifyWithin_turned (h : Prepared P s a b) (hy : (unifyWithin n s a b).Yields s₁ r) :
    EndsLike s b a s₁ r := by
  induction n using Nat.strong_induction_on generalizing s a b s₁ r with
  | _ n ih =>
    cases n with
    | zero => exact absurd hy not_yields_zero
    | succ n =>
      have hu := (unifyWithin_derived h).unifies hy
      have again : ∀ {s a b s₁ r}, Prepared P s a b → (unifyWithin n s a b).Yields s₁ r →
          EndsLike s b a s₁ r := ih n (Nat.lt_succ_self n)
      obtain ⟨o, step, heq⟩ := unifyWithin_step (n := n) h.left.inStore h.right.inStore
      rw [heq] at hy
      replace hy : o.Yields s₁ r := hy
      cases step with
      | same same =>
        obtain ⟨rfl, rfl⟩ := hy.of_done
        exact (Unifies.same same.symm).endsLike
      | @left v b _ differ step =>
        -- Only against a variable is there more to do: the run may go on to follow both of them.
        by_cases hb : ∃ w, b = .var w
        · obtain ⟨w, rfl⟩ := hb
          exact step.turned h differ hy fun m hm a b => ih m (Nat.lt_succ_of_lt hm)
        · exact (Unifies.right (fun w hw => hb ⟨w, hw⟩) hu).endsLike
      | right differ concrete step =>
        have hleft := step.derived h.swap differ fun a b h => unifyWithin_derived h
        exact (hleft.unifies hy).endsLike
      | mismatch differ =>
        obtain ⟨rfl, rfl⟩ := hy.of_refuse
        exact ⟨s₁, _, .mismatch differ.symm, .refl s₁, rfl⟩
      | @parts _ _ a₁ a₂ b₁ b₂ differ pair =>
        obtain ⟨⟨ha₁, ha₂⟩, hb₁, hb₂⟩ := pair.partOf
        have differ' : ¬ s.Same b a := fun hsame => differ hsame.symm
        cases hf : (unifyWithin n s a₁ b₁).failure with
        | some f =>
          rw [Outcome.andThen_of_failure hf] at hy
          cases r with
          | none => exact absurd (hf.symm.trans hy.2) (by simp)
          | some cause => exact (again (h.parts ha₁ hb₁) hy).first differ' pair.swap
        | none =>
          rw [Outcome.andThen_of_success hf] at hy
          have hw := (unifyWithin_runs (n := n) (h.parts ha₁ hb₁)).writes
          have hsecond := (h.parts ha₂ hb₂).writes hw
          exact (again (r := none) (h.parts ha₁ hb₁) ⟨rfl, hf⟩).second differ' pair.swap hsecond.swap
            (again hsecond hy)
      | shape clash =>
        obtain ⟨rfl, rfl⟩ := hy.of_refuse
        exact ⟨s₁, _, .shape clash.swap, .refl s₁, rfl⟩

end Store

namespace Workspace

/-- Two types unify in both orders or in neither, and then the errors are of the same kind. Either way
the two stores are alike, with all that a failure has left. -/
theorem unify_symmetric (w : Workspace) (context : Option Expr) (a b : Ty) (hw : w.store.WellFormed)
    (ha : w.store.Over a) (hb : w.store.Over b) :
    (((w.unify context a b).result = .ok () ∧ (w.unify context b a).result = .ok ()) ∨
      ∃ e e', (w.unify context a b).result = .error (.type e) ∧
        (w.unify context b a).result = .error (.type e') ∧ e'.kind = e.kind) ∧
    (w.unify context a b).workspace.store.Alike (w.unify context b a).workspace.store := by
  have h := Store.Prepared.ofOver hw.grounded ha hb
  obtain ⟨r, hu⟩ := Store.exists_unifies h
  have hy := (Store.unify_iff h).1 hu
  obtain ⟨s₂, r', hu', halike, hkind⟩ := Store.unifyWithin_turned h hy
  obtain ⟨hstore, hfailure⟩ := (Store.unify_iff h.swap).1 hu'
  subst hstore
  refine ⟨?_, halike⟩
  cases r with
  | none =>
    obtain rfl : r' = none := by simpa using hkind
    exact .inl ⟨adopt_result_ok.2 hy.2, adopt_result_ok.2 hfailure⟩
  | some cause =>
    obtain ⟨cause', rfl, hcause⟩ := Option.map_eq_some_iff.1 hkind
    exact .inr ⟨_, _, adopt_result_type.2 ⟨cause, hy.2, rfl⟩, adopt_result_type.2 ⟨cause', hfailure, rfl⟩,
      hcause⟩

/-- Two variables stand for functions whose results do not fit. Their arguments are merged before that is
found, in either order below another root. -/
theorem unify_symmetric_bound :
    let num : ConstraintSet := .ofList [⟨"Num", .ofList ["Int"]⟩]
    let x : Ty := .var ⟨"x", 0⟩
    let y : Ty := .var ⟨"y", 1⟩
    let f : Ty := .var ⟨"f", 2⟩
    let g : Ty := .var ⟨"g", 3⟩
    let made := ((((∅ : Store).push num).push ∅).push ∅).push ∅
    let w : Workspace :=
      ⟨(made.assign 2 (.arrow x (.con "Int"))).assign 3 (.arrow y (.con "Bool")), 0, []⟩
    (w.store.WellFormed ∧ w.store.Over f ∧ w.store.Over g) ∧
      (w.unify none f g).workspace.store.root 0 = 1 ∧ (w.unify none g f).workspace.store.root 0 = 0 ∧
      (∃ e e', (w.unify none f g).result = .error (.type e) ∧
        (w.unify none g f).result = .error (.type e') ∧ e'.kind = e.kind) ∧
      (w.unify none f g).workspace.store.Alike (w.unify none g f).workspace.store := by
  intro num x y f g made w
  have hmade : made.WellFormed :=
    (Store.extends_push _ ∅).wellFormed ((Store.extends_push _ ∅).wellFormed
      ((Store.extends_push _ ∅).wellFormed ((Store.extends_push _ num).wellFormed Store.wellFormed_empty)))
  have hbound : (made.assign 2 (.arrow x (.con "Int"))).WellFormed :=
    hmade.assign (by decide) (by decide) (by simp) (by decide)
      (mt (hmade.grounded.occurs_iff ⟨"f", 2⟩ _).2 (by decide))
  have hw : w.store.WellFormed :=
    hbound.assign (by decide) (by decide) (by simp) (by decide)
      (mt (hbound.grounded.occurs_iff ⟨"g", 3⟩ _).2 (by decide))
  have hf : w.store.Over f := by decide
  have hg : w.store.Over g := by decide
  have hfails : (w.unify none f g).result ≠ .ok () := by decide +kernel
  obtain ⟨hends, halike⟩ := unify_symmetric w none f g hw hf hg
  exact ⟨⟨hw, hf, hg⟩, by decide +kernel, by decide +kernel,
    hends.resolve_left fun hok => hfails hok.1, halike⟩

end Workspace

end BlockTypes
