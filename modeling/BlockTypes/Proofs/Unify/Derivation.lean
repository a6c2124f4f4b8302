import BlockTypes.Proofs.Unify.MostGeneral

/-!
# Unification without a bound

`Unifies` describes unification by its own recursion, without a bound on the depth of calls: a
derivation is a finite tree of them. In a store without cycles there always is one, and `unify` computes
it (`unify_iff`), so that from here on unification is taken apart by induction on derivations, and the
depth of calls is not spoken of again. That there is one also says how unification can end
(`unify_ends`).
-/

namespace BlockTypes

open Relation

/-- The outcome is this store, and failure for this cause if there is one. -/
def Outcome.Yields (o : Outcome) (s : Store) (cause : Option Cause) : Prop :=
  o.store = s ∧ o.failure = cause.map .type

namespace Store

/-- From the first store unification of the two types comes to the second one, and fails if there is a
cause. A rule is one call; its premises are what is checked before, and the calls that it makes. -/
inductive Unifies : Store → Ty → Ty → Store → Option Cause → Prop
  | same {s : Store} {a b : Ty} (same : s.Same a b) : Unifies s a b s none
  | right {s s' : Store} {a : Ty} {w : TypeVar} {r : Option Cause} (concrete : ∀ v, a ≠ .var v)
      (left : Unifies s (.var w) a s' r) : Unifies s a (.var w) s' r
  | recursive {s : Store} {v : TypeVar} {b : Ty} (differ : ¬ s.Same (.var v) b)
      (occurs : s.occurs v b = true) : Unifies s (.var v) b s (some (.recursive v b))
  | follow {s s' : Store} {v : TypeVar} {b t : Ty} {r : Option Cause} (differ : ¬ s.Same (.var v) b)
      (clear : s.occurs v b = false) (bound : s.bound? v.cell = some t) (next : Unifies s t b s' r) :
      Unifies s (.var v) b s' r
  | followOther {s s' : Store} {v w : TypeVar} {u : Ty} {r : Option Cause}
      (differ : ¬ s.Same (.var v) (.var w)) (clear : s.occurs v (.var w) = false)
      (unbound : s.bound? v.cell = none) (bound : s.bound? w.cell = some u)
      (next : Unifies s (.var v) u s' r) : Unifies s (.var v) (.var w) s' r
  | merge {s : Store} {v w : TypeVar} (clear : s.occurs v (.var w) = false)
      (unbound : s.bound? v.cell = none) (other : s.bound? w.cell = none)
      (apart : s.Apart w.cell v.cell) : Unifies s (.var v) (.var w) (s.join w.cell v.cell) none
  | unsatisfied {s : Store} {v : TypeVar} {b : Ty} (concrete : ∀ w, b ≠ .var w)
      (clear : s.occurs v b = false) (unbound : s.bound? v.cell = none)
      (misfit : ¬ Satisfies b (s.constraints v.cell)) :
      Unifies s (.var v) b s (some (.unsatisfied b (s.constraints v.cell)))
  | bind {s : Store} {v : TypeVar} {b : Ty} (concrete : ∀ w, b ≠ .var w)
      (clear : s.occurs v b = false) (unbound : s.bound? v.cell = none)
      (fits : Satisfies b (s.constraints v.cell)) : Unifies s (.var v) b (s.assign v.cell b) none
  | mismatch {s : Store} {c d : String} (differ : c ≠ d) :
      Unifies s (.con c) (.con d) s (some (.mismatch c d))
  | first {s s' : Store} {a b a₁ a₂ b₁ b₂ : Ty} {cause : Cause} (differ : ¬ s.Same a b)
      (pair : a.Paired b a₁ a₂ b₁ b₂) (failed : Unifies s a₁ b₁ s' (some cause)) :
      Unifies s a b s' (some cause)
  | second {s s₁ s' : Store} {a b a₁ a₂ b₁ b₂ : Ty} {r : Option Cause} (differ : ¬ s.Same a b)
      (pair : a.Paired b a₁ a₂ b₁ b₂) (done : Unifies s a₁ b₁ s₁ none)
      (next : Unifies s₁ a₂ b₂ s' r) : Unifies s a b s' r
  | shape {s : Store} {a b : Ty} (clash : a.Clash b) : Unifies s a b s (some (.shape a b))

variable {s s' : Store} {again : Store → Ty → Ty → Outcome} {P : CellId → Prop} {a b : Ty} {n : Nat}
  {r : Option Cause}

/-! ## A run that ends is a derivation -/

/-- Unless it is for lack of depth, the outcome is that of a derivation. -/
def Derived (s : Store) (a b : Ty) (o : Outcome) : Prop :=
  o.failure ≠ some .endless → ∃ r, o.Yields o.store r ∧ Unifies s a b o.store r

theorem Derived.unifies {o : Outcome} (h : Derived s a b o) (hy : o.Yields s' r) : Unifies s a b s' r := by
  obtain ⟨rfl, hr⟩ := hy
  obtain ⟨r', ⟨-, hr'⟩, hu⟩ := h (by rw [hr]; cases r <;> simp)
  obtain rfl : r' = r := by
    apply Option.map_injective (f := Failure.type) fun c d hcd => by simpa using hcd
    rw [← hr, ← hr']
  exact hu

theorem Derived.done (h : Unifies s a b s' none) : Derived s a b (.done s') :=
  fun _ => ⟨none, ⟨rfl, rfl⟩, h⟩

theorem Derived.refuse {event : Event} {cause : Cause} (h : Unifies s a b s (some cause)) :
    Derived s a b (.refuse s event cause) :=
  fun _ => ⟨some cause, ⟨rfl, rfl⟩, h⟩

theorem Derived.imp {a' b' : Ty} {o : Outcome} (h : Derived s a' b' o)
    (himp : ∀ r, Unifies s a' b' o.store r → Unifies s a b o.store r) : Derived s a b o := by
  intro hn
  obtain ⟨r, hr, hu⟩ := h hn
  exact ⟨r, hr, himp r hu⟩

theorem VarStep.derived {v : TypeVar} {o : Outcome} (step : VarStep again s v b o)
    (h : Prepared P s (.var v) b) (differ : ¬ s.Same (.var v) b)
    (ih : ∀ a b, Prepared P s a b → Derived s a b (again s a b)) : Derived s (.var v) b o := by
  cases step with
  | recursive occurs => exact .refuse (.recursive differ occurs)
  | follow bound clear =>
    exact (ih _ _ (h.follow bound)).imp fun r hr => .follow differ clear bound hr
  | followOther unbound bound clear =>
    refine (ih _ _ (h.swap.follow bound).swap).imp fun r hr => ?_
    exact .followOther differ clear unbound bound hr
  | merge unbound other apart clear => exact .done (.merge clear unbound other apart)
  | unsatisfied unbound concrete misfit clear =>
    exact .refuse (.unsatisfied concrete clear unbound misfit)
  | bind unbound concrete fits clear => exact .done (.bind concrete clear unbound fits)

theorem unifyWithin_derived (h : Prepared P s a b) : Derived s a b (unifyWithin n s a b) := by
  induction n generalizing s a b with
  | zero => exact fun hn => absurd rfl hn
  | succ n ih =>
    obtain ⟨o, step, heq⟩ := unifyWithin_step (n := n) h.left.inStore h.right.inStore
    rw [heq]
    suffices hderived : Derived s a b o from hderived
    cases step with
    | same same => exact .done (.same same)
    | left differ step => exact step.derived h differ fun a b h => ih h
    | right differ concrete step =>
      exact (step.derived h.swap differ fun a b h => ih h).imp fun r hr => .right concrete hr
    | mismatch differ => exact .refuse (.mismatch differ)
    | @parts _ _ a₁ a₂ b₁ b₂ differ pair =>
      obtain ⟨⟨ha₁, ha₂⟩, hb₁, hb₂⟩ := pair.partOf
      have hw := (unifyWithin_runs (n := n) (h.parts ha₁ hb₁)).writes
      intro hn
      cases hf : (unifyWithin n s a₁ b₁).failure with
      | some f =>
        -- The first part has failed, and so has the whole, with the same outcome.
        rw [Outcome.andThen_of_failure hf] at hn ⊢
        obtain ⟨r, hr, hu⟩ := ih (h.parts ha₁ hb₁) hn
        obtain ⟨cause, rfl⟩ : ∃ cause, r = some cause := by
          cases r with
          | none => simp [Outcome.Yields, hf] at hr
          | some cause => exact ⟨cause, rfl⟩
        exact ⟨_, hr, .first differ pair hu⟩
      | none =>
        rw [Outcome.andThen_of_success hf] at hn ⊢
        obtain ⟨r₁, hr₁, hu₁⟩ := ih (h.parts ha₁ hb₁) (by simp [hf])
        obtain rfl : r₁ = none := by simpa [Outcome.Yields, hf, eq_comm] using hr₁
        obtain ⟨r₂, hr₂, hu₂⟩ := ih ((h.parts ha₂ hb₂).writes hw) hn
        exact ⟨r₂, ⟨rfl, hr₂.2⟩, .second differ pair hu₁ hu₂⟩
    | shape clash => exact .refuse (.shape clash)

/-! ## A derivation is a run that ends -/

theorem unifyWithin_var {v : TypeVar} (differ : ¬ s.Same (.var v) b) :
    unifyWithin (n + 1) s (.var v) b =
      (unifyVar (unifyWithin n) s v b).after ⟨s, .unifying (.var v) b⟩ := by
  rw [unifyWithin, if_neg differ]

theorem unifyWithin_concrete_var {w : TypeVar} (concrete : ∀ v, a ≠ .var v) :
    unifyWithin (n + 1) s a (.var w) =
      (unifyVar (unifyWithin n) s w a).after ⟨s, .unifying a (.var w)⟩ := by
  have differ : ¬ s.Same a (.var w) := fun h => not_same_of_concrete concrete h.symm
  cases a with
  | var v => exact absurd rfl (concrete v)
  | con name => rw [unifyWithin, if_neg differ]; simp
  | arrow a b => rw [unifyWithin, if_neg differ]; simp
  | app t a => rw [unifyWithin, if_neg differ]; simp

theorem unifyWithin_parts {a₁ a₂ b₁ b₂ : Ty} (differ : ¬ s.Same a b)
    (pair : a.Paired b a₁ a₂ b₁ b₂) :
    unifyWithin (n + 1) s a b =
      ((unifyWithin n s a₁ b₁).andThen fun s => unifyWithin n s a₂ b₂).after ⟨s, .unifying a b⟩ := by
  cases pair with
  | arrow => rw [unifyWithin, if_neg differ]
  | app => rw [unifyWithin, if_neg differ]

theorem unifyWithin_clash (clash : a.Clash b) :
    unifyWithin (n + 1) s a b =
      (Outcome.refuse s (.givenUp a b) (.shape a b)).after ⟨s, .unifying a b⟩ := by
  have differ : ¬ s.Same a b := by
    intro h
    rw [Same, classes, classes, TypeExpr.map_eq_bind, TypeExpr.map_eq_bind] at h
    exact clash.bind_ne _ h
  cases a <;> cases b <;> simp_all [TypeExpr.Clash, unifyWithin]

theorem unifyVar_concrete {v : TypeVar} (concrete : ∀ w, b ≠ .var w) (clear : s.occurs v b = false)
    (unbound : s.bound? v.cell = none) :
    unifyVar again s v b =
      (s.satisfy b (s.constraints v.cell)).andThen fun s => .ofWrite s (s.bind v b) := by
  unfold unifyVar
  rw [clear, unbound]
  cases b with
  | var w => exact absurd rfl (concrete w)
  | con name => rfl
  | arrow a b => rfl
  | app t a => rfl

/-- What is derived is what every run of enough depth comes to. -/
theorem Unifies.yields (h : Unifies s a b s' r) :
    ∃ k, ∀ n, (unifyWithin (n + k) s a b).Yields s' r := by
  induction h with
  | same same =>
    refine ⟨1, fun n => ?_⟩
    simp [unifyWithin, same, Outcome.Yields, Outcome.after, Outcome.done]
  | @right s s' a w r concrete left ih =>
    obtain ⟨k, hk⟩ := ih
    refine ⟨k + 1, fun n => ?_⟩
    have hleft := hk (n + 1)
    rw [Nat.add_right_comm, unifyWithin_var (not_same_of_concrete concrete)] at hleft
    rw [← Nat.add_assoc, unifyWithin_concrete_var concrete]
    exact hleft
  | recursive differ occurs =>
    refine ⟨1, fun n => ?_⟩
    rw [unifyWithin_var differ]
    simp [unifyVar, occurs, Outcome.Yields, Outcome.after, Outcome.refuse]
  | follow differ clear bound next ih =>
    obtain ⟨k, hk⟩ := ih
    refine ⟨k + 1, fun n => ?_⟩
    rw [← Nat.add_assoc, unifyWithin_var differ]
    simpa [unifyVar, clear, bound, Outcome.Yields, Outcome.after] using hk n
  | followOther differ clear unbound bound next ih =>
    obtain ⟨k, hk⟩ := ih
    refine ⟨k + 1, fun n => ?_⟩
    rw [← Nat.add_assoc, unifyWithin_var differ]
    simpa [unifyVar, clear, unbound, bound, Outcome.Yields, Outcome.after] using hk n
  | merge clear unbound other apart =>
    refine ⟨1, fun n => ?_⟩
    rw [unifyWithin_var fun h => apart.ne (by simpa [Same, classes, TypeExpr.map] using h.symm)]
    simp [unifyVar, clear, unbound, other, Store.merge, apart.ne, Outcome.Yields, Outcome.after,
      Outcome.ofWrite, Outcome.done]
  | unsatisfied concrete clear unbound misfit =>
    refine ⟨1, fun n => ?_⟩
    rw [unifyWithin_var (not_same_of_concrete concrete), unifyVar_concrete concrete clear unbound]
    simp [satisfy, misfit, Outcome.Yields, Outcome.after, Outcome.andThen, Outcome.refuse]
  | bind concrete clear unbound fits =>
    refine ⟨1, fun n => ?_⟩
    rw [unifyWithin_var (not_same_of_concrete concrete), unifyVar_concrete concrete clear unbound]
    simp [satisfy, fits, Store.bind, unbound, Outcome.Yields, Outcome.after, Outcome.andThen,
      Outcome.ofWrite, Outcome.done]
  | mismatch differ =>
    refine ⟨1, fun n => ?_⟩
    simp [unifyWithin, Same, classes, TypeExpr.map, differ, Outcome.Yields, Outcome.after, Outcome.refuse]
  | first differ pair failed ih =>
    obtain ⟨k, hk⟩ := ih
    refine ⟨k + 1, fun n => ?_⟩
    rw [← Nat.add_assoc, unifyWithin_parts differ pair, Outcome.andThen_of_failure (hk n).2]
    exact hk n
  | second differ pair done next ihd ihn =>
    obtain ⟨k, hk⟩ := ihd
    obtain ⟨l, hl⟩ := ihn
    refine ⟨k + l + 1, fun n => ?_⟩
    have hdone := hk (n + l)
    have hnext := hl (n + k)
    rw [show n + (k + l + 1) = n + l + k + 1 by omega, unifyWithin_parts differ pair,
      Outcome.andThen_of_success hdone.2, hdone.1, show n + l + k = n + k + l by omega]
    exact hnext
  | shape clash =>
    refine ⟨1, fun n => ?_⟩
    rw [unifyWithin_clash clash]
    exact ⟨rfl, rfl⟩

/-- In a store without cycles unification computes what is derived, and nothing else is. -/
theorem unify_iff (h : Prepared P s a b) : Unifies s a b s' r ↔ (s.unify a b).Yields s' r := by
  obtain ⟨r₀, ⟨-, hr₀⟩, hu₀⟩ := unifyWithin_derived (n := s.unifyDepth a b) h
    (unify_notEndless h.grounded h.left.inStore h.right.inStore)
  constructor
  · intro hu
    -- Both are what a run of enough depth for the two derivations comes to.
    obtain ⟨k, hk⟩ := hu.yields
    obtain ⟨l, hl⟩ := hu₀.yields
    have hboth := hl k
    rw [Nat.add_comm] at hboth
    refine ⟨hboth.1.symm.trans (hk l).1, ?_⟩
    rw [unify, hr₀, ← hboth.2, (hk l).2]
  · intro hy
    exact (unifyWithin_derived h).unifies hy

theorem exists_unifies (h : Prepared P s a b) : ∃ r, Unifies s a b (s.unify a b).store r := by
  obtain ⟨r, -, hu⟩ := unifyWithin_derived (n := s.unifyDepth a b) h
    (unify_notEndless h.grounded h.left.inStore h.right.inStore)
  exact ⟨r, hu⟩

/-- What is derived writes to classes of the two types only. -/
theorem Unifies.writes (hu : Unifies s a b s' r) (h : Prepared P s a b) : Writes P s s' := by
  obtain ⟨rfl, -⟩ := (unify_iff h).1 hu
  exact (unifyWithin_runs h).writes

end Store

namespace Workspace

/-- Unification of two types of a store without cycles ends: there is a finite derivation of what it
does, and no store on the way has a cycle either. It ends in success or in a type error of one of four
kinds that names the given expression, and in no other way. -/
theorem unify_ends (w : Workspace) (context : Option Expr) (a b : Ty) (hw : w.store.Grounded)
    (ha : w.store.Over a) (hb : w.store.Over b) :
    (∀ m ∈ (w.store.unify a b).trail, m.Grounded) ∧
    ((Store.Unifies w.store a b (w.unify context a b).workspace.store none ∧
        (w.unify context a b).result = .ok ()) ∨
      ∃ cause e, Store.Unifies w.store a b (w.unify context a b).workspace.store (some cause) ∧
        (w.unify context a b).result = .error (.type e) ∧
        e.kind = cause.kind ∧ e.kind ∈ [.recursive, .mismatch, .constraint, .shape] ∧
        e.expression = context) := by
  have h := Store.Prepared.ofOver hw ha hb
  refine ⟨fun m hm => ?_, ?_⟩
  · have hchain : (w.store :: (w.store.unify a b).trail).IsChain (Store.Writes fun _ => True) :=
      (Store.unifyWithin_runs h).chain.imp fun _ _ hw => hw.to_reflTransGen
    exact Store.Writes.grounded (List.rel_of_pairwise_cons (List.isChain_iff_pairwise.1 hchain) hm) hw
  · obtain ⟨r, hu⟩ := Store.exists_unifies h
    have hfailure := ((Store.unify_iff h).1 hu).2
    cases r with
    | none => exact .inl ⟨hu, adopt_result_ok.2 hfailure⟩
    | some cause =>
      refine .inr ⟨cause, _, hu, adopt_result_type.2 ⟨cause, hfailure, rfl⟩, rfl, ?_, rfl⟩
      cases cause <;> simp [Cause.error, Cause.kind]

/-- A variable stands for an arrow, which no class of its constraints admits. The arrow is followed, its
first part binds another variable, and through that the second part fails. -/
theorem unify_ends_through_binding :
    let num : ConstraintSet := .ofList [⟨"Num", .ofList ["Int"]⟩]
    let a : Ty := .var ⟨"a", 0⟩
    let b : Ty := .var ⟨"b", 1⟩
    let w : Workspace := ⟨(((∅ : Store).push num).push ∅).assign 0 (.arrow (.con "Bool") b), 0, []⟩
    let context : Expr := .value 0 (.con "Int") "5"
    w.store.Grounded ∧ ¬ w.store.WellFormed ∧ w.store.Over a ∧ w.store.Over (.arrow b (.con "Int")) ∧
      ∃ cause e, Store.Unifies w.store a (.arrow b (.con "Int"))
          (w.unify (some context) a (.arrow b (.con "Int"))).workspace.store (some cause) ∧
        (w.unify (some context) a (.arrow b (.con "Int"))).result = .error (.type e) ∧
        e.kind = .mismatch ∧ e.expression = some context := by
  intro num a b w context
  have hpush : (((∅ : Store).push num).push ∅).WellFormed :=
    (Store.extends_push _ ∅).wellFormed ((Store.extends_push _ num).wellFormed Store.wellFormed_empty)
  have hw : w.store.Grounded := by
    refine hpush.grounded.assign (by decide) (by decide) (fun v hv => by cases hv) fun hc => ?_
    have hoccurs := (hpush.grounded.occurs_iff ⟨"a", 0⟩ _).2 hc
    exact absurd hoccurs (by decide +kernel)
  have hbroken : ¬ w.store.WellFormed := by
    intro h
    have hbound : w.store.bound? 0 = some (.arrow (.con "Bool") b) := by decide +kernel
    obtain ⟨name, hname, -⟩ := h.admitted 0 _ hbound (by decide +kernel)
    cases hname
  have ha : w.store.Over a := by decide +kernel
  have hb : w.store.Over (.arrow b (.con "Int")) := by decide +kernel
  have hresult : (w.unify (some context) a (.arrow b (.con "Int"))).result =
      .error (.type ⟨.mismatch, "Bool ⊥ Int", some context⟩) := by decide +kernel
  refine ⟨hw, hbroken, ha, hb, ?_⟩
  rcases (unify_ends w (some context) a _ hw ha hb).2 with ⟨-, hok⟩ | ⟨cause, e, hu, he, -, -, hexpr⟩
  · rw [hresult] at hok
    cases hok
  · refine ⟨cause, e, hu, he, ?_, hexpr⟩
    rw [hresult] at he
    cases he
    rfl

end Workspace

end BlockTypes
