import BlockTypes.Proofs.Store.Write

/-!
# One call of unification

`Step` lists what one call of unification can do, with what is known in each case, and `VarStep` what
it does when it meets a variable; the calls below it are made with `again`. All that is said about
whole runs comes from these two lists by induction on the depth of calls. The first such fact is
`unifyWithin_runs`: a run is a sequence of writes to the classes that can be reached from the two
types, and from each store that it notes to the next there is at most one.
-/

namespace BlockTypes

namespace Outcome

theorem andThen_of_failure {o : Outcome} {f : Failure} (h : o.failure = some f)
    (next : Store → Outcome) : o.andThen next = o := by
  simp only [andThen, h]

theorem andThen_of_success {o : Outcome} (h : o.failure = none) (next : Store → Outcome) :
    o.andThen next =
      ⟨(next o.store).store, o.notes ++ (next o.store).notes, (next o.store).failure⟩ := by
  simp only [andThen, h]

/-- The stores of an outcome in order: those it noted, and the one it left. -/
def trail (o : Outcome) : List Store := o.notes.map (·.store) ++ [o.store]

end Outcome

namespace Store

open Relation

variable {s s' : Store} {again : Store → Ty → Ty → Outcome} {P : CellId → Prop}

/-! ## What a call does -/

/-- What becomes of a variable and a type that is not the same variable. -/
inductive VarStep (again : Store → Ty → Ty → Outcome) (s : Store) (v : TypeVar) :
    Ty → Outcome → Prop
  | recursive {b : Ty} (occurs : s.occurs v b = true) :
      VarStep again s v b (.refuse s (.recursion (.var v) b) (.recursive v b))
  | follow {b t : Ty} (bound : s.bound? v.cell = some t) (clear : s.occurs v b = false) :
      VarStep again s v b (again s t b)
  | followOther {w : TypeVar} {u : Ty} (unbound : s.bound? v.cell = none)
      (bound : s.bound? w.cell = some u) (clear : s.occurs v (.var w) = false) :
      VarStep again s v (.var w) (again s (.var v) u)
  | merge {w : TypeVar} (unbound : s.bound? v.cell = none) (other : s.bound? w.cell = none)
      (apart : s.Apart w.cell v.cell) (clear : s.occurs v (.var w) = false) :
      VarStep again s v (.var w) (.done (s.join w.cell v.cell))
  | unsatisfied {b : Ty} (unbound : s.bound? v.cell = none) (concrete : ∀ w, b ≠ .var w)
      (misfit : ¬ Satisfies b (s.constraints v.cell)) (clear : s.occurs v b = false) :
      VarStep again s v b
        (.refuse s (.unable b (s.constraints v.cell)) (.unsatisfied b (s.constraints v.cell)))
  | bind {b : Ty} (unbound : s.bound? v.cell = none) (concrete : ∀ w, b ≠ .var w)
      (fits : Satisfies b (s.constraints v.cell)) (clear : s.occurs v b = false) :
      VarStep again s v b (.done (s.assign v.cell b))

/-- What becomes of two types. -/
inductive Step (again : Store → Ty → Ty → Outcome) (s : Store) : Ty → Ty → Outcome → Prop
  | same {a b : Ty} (same : s.Same a b) : Step again s a b (.done s)
  | left {v : TypeVar} {b : Ty} {o : Outcome} (differ : ¬ s.Same (.var v) b)
      (step : VarStep again s v b o) : Step again s (.var v) b o
  | right {a : Ty} {w : TypeVar} {o : Outcome} (differ : ¬ s.Same (.var w) a)
      (concrete : ∀ v, a ≠ .var v) (step : VarStep again s w a o) : Step again s a (.var w) o
  | mismatch {c d : String} (differ : c ≠ d) :
      Step again s (.con c) (.con d) (.refuse s (.mismatch (.con c) (.con d)) (.mismatch c d))
  | parts {a b a₁ a₂ b₁ b₂ : Ty} (differ : ¬ s.Same a b) (pair : a.Paired b a₁ a₂ b₁ b₂) :
      Step again s a b ((again s a₁ b₁).andThen fun s => again s a₂ b₂)
  | shape {a b : Ty} (clash : a.Clash b) :
      Step again s a b (.refuse s (.givenUp a b) (.shape a b))

theorem root_ne_of_not_same {v w : TypeVar} (h : ¬ s.Same (.var v) (.var w)) :
    s.root w.cell ≠ s.root v.cell := by
  intro he
  apply h
  rw [Same, classes, classes, TypeExpr.map, TypeExpr.map, he]

theorem not_same_of_concrete {v : TypeVar} {a : Ty} (h : ∀ w, a ≠ .var w) :
    ¬ s.Same (.var v) a := by
  intro hs
  cases a with
  | var w => exact h w rfl
  | con name => cases hs
  | arrow a b => cases hs
  | app t a => cases hs

theorem unifyVar_step {v : TypeVar} {b : Ty} (hv : v.cell < s.size) (hb : s.Over b)
    (differ : ¬ s.Same (.var v) b) : VarStep again s v b (unifyVar again s v b) := by
  unfold unifyVar
  split
  · exact .recursive ‹_›
  · rename_i hocc
    have clear : s.occurs v b = false := by simpa using hocc
    split
    · exact .follow ‹_› clear
    · rename_i w unbound
      have hne := root_ne_of_not_same differ
      split
      · exact .followOther unbound ‹_› clear
      · rename_i other
        have hmerge : s.merge w v = .ok (s.join w.cell v.cell) := by
          rw [merge, if_neg hne, other, unbound]
          rfl
        rw [hmerge]
        exact .merge unbound other ⟨hne, hb w (by simp [TypeExpr.vars]), hv⟩ clear
    · rename_i b _ _ unbound hvar
      have concrete : ∀ w, b ≠ .var w := fun w hw => hvar w hw
      unfold satisfy
      split
      · rename_i fits
        have hbind : s.bind v b = .ok (s.assign v.cell b) := by rw [bind, unbound]
        have hdone : (Outcome.done s).andThen (fun s => .ofWrite s (s.bind v b)) =
            .done (s.assign v.cell b) := by
          simp only [Outcome.andThen, Outcome.done, hbind, Outcome.ofWrite, List.nil_append]
        rw [hdone]
        exact .bind unbound concrete fits clear
      · exact .unsatisfied unbound concrete ‹_› clear

/-- A call with depth to spare notes the two types, and then makes one step. -/
theorem unifyWithin_step {n : Nat} {a b : Ty} (ha : s.Over a) (hb : s.Over b) :
    ∃ o, Step (unifyWithin n) s a b o ∧
      unifyWithin (n + 1) s a b = o.after ⟨s, .unifying a b⟩ := by
  unfold unifyWithin
  refine ⟨_, ?_, rfl⟩
  split
  · exact .same ‹_›
  · rename_i differ
    split
    · exact .left differ (unifyVar_step (ha _ (by simp [TypeExpr.vars])) hb differ)
    · rename_i w hvar
      have concrete : ∀ v, a ≠ .var v := fun v hv => hvar v hv
      have differ' : ¬ s.Same (.var w) a := not_same_of_concrete concrete
      exact .right differ' concrete (unifyVar_step (hb _ (by simp [TypeExpr.vars])) ha differ')
    · rename_i c d
      exact .mismatch fun h => differ (by rw [h, Same])
    · exact .parts differ .arrow
    · exact .parts differ .app
    · rename_i hl hr hcon harrow happ
      refine .shape ?_
      cases a with
      | var v => exact hl v rfl
      | con c =>
        cases b with
        | var w => exact hr w rfl
        | con d => exact hcon c d rfl rfl
        | arrow b b' => trivial
        | app b b' => trivial
      | arrow a a' =>
        cases b with
        | var w => exact hr w rfl
        | con d => trivial
        | arrow b b' => exact harrow _ _ _ _ rfl rfl
        | app b b' => trivial
      | app a a' =>
        cases b with
        | var w => exact hr w rfl
        | con d => trivial
        | arrow b b' => trivial
        | app b b' => exact happ _ _ _ _ rfl rfl

/-! ## Runs -/

/-- The store has no cycles, and all cells that the two types lead to are cells of it in `P`. -/
structure Prepared (P : CellId → Prop) (s : Store) (a b : Ty) : Prop where
  grounded : s.Grounded
  region : Region P s
  left : s.Within P a
  right : s.Within P b

/-- The outcome comes from writes to classes in `P`, at most one between a store that it noted and the
next, and from no misuse of a variable. -/
structure Runs (P : CellId → Prop) (s : Store) (o : Outcome) : Prop where
  chain : (s :: o.trail).IsChain (ReflGen (Write P))
  noMisuse : ∀ e, o.failure ≠ some (.misuse e)

namespace Prepared

variable {a b a' b' : Ty}

theorem swap (h : Prepared P s a b) : Prepared P s b a := { h with left := h.right, right := h.left }

theorem follow {v : TypeVar} {t : Ty} (h : Prepared P s (.var v) b) (ht : s.bound? v.cell = some t) :
    Prepared P s t b := by
  refine { h with left := fun w hw => ⟨h.grounded.inStore _ _ ht w hw, ?_⟩ }
  exact h.region.bound _ _ (h.left v (by simp [TypeExpr.vars])).2 ht w hw

theorem parts (h : Prepared P s a b) (ha : a'.PartOf a) (hb : b'.PartOf b) : Prepared P s a' b' :=
  { h with
    left := fun v hv => h.left v (ha.vars v hv)
    right := fun v hv => h.right v (hb.vars v hv) }

theorem writes (h : Prepared P s a b) (hw : Writes P s s') : Prepared P s' a b where
  grounded := Writes.grounded hw h.grounded
  region := Writes.region hw h.region
  left := h.left.grows (Writes.grows hw)
  right := h.right.grows (Writes.grows hw)

/-- In a store without cycles any two types of it are prepared. -/
theorem ofOver (hs : s.Grounded) (ha : s.Over a) (hb : s.Over b) :
    Prepared (fun _ => True) s a b :=
  ⟨hs, ⟨fun _ => Iff.rfl, fun _ _ _ _ _ _ => trivial⟩, ha.within, hb.within⟩

end Prepared

namespace Runs

theorem writes {o : Outcome} (h : Runs P s o) : Writes P s o.store := by
  have hchain : (s :: o.trail).IsChain (Writes P) := h.chain.imp fun _ _ h => h.to_reflTransGen
  exact List.rel_of_pairwise_cons (List.isChain_iff_pairwise.1 hchain) (by simp [Outcome.trail])

theorem done (h : ReflGen (Write P) s s') : Runs P s (.done s') :=
  ⟨by simpa [Outcome.trail, Outcome.done] using h, fun e he => by cases he⟩

theorem refuse (event : Event) (cause : Cause) : Runs P s (.refuse s event cause) :=
  ⟨by simp [Outcome.trail, Outcome.refuse, ReflGen.refl], fun e he => by cases he⟩

theorem after {o : Outcome} (h : Runs P s o) (event : Event) :
    Runs P s (o.after ⟨s, event⟩) :=
  ⟨List.isChain_cons_cons.2 ⟨.refl, h.chain⟩, h.noMisuse⟩

theorem andThen {o : Outcome} (h : Runs P s o) {next : Store → Outcome}
    (hnext : o.failure = none → Runs P o.store (next o.store))
    (starts : (next o.store).trail.head? = some o.store) : Runs P s (o.andThen next) := by
  cases hf : o.failure with
  | some f => rwa [Outcome.andThen_of_failure hf]
  | none =>
    have h' := hnext hf
    rw [Outcome.andThen_of_success hf]
    refine ⟨?_, h'.noMisuse⟩
    -- The store between the two parts is the first that the second part passes.
    obtain ⟨rest, hrest⟩ : ∃ rest, (next o.store).trail = o.store :: rest := by
      cases htrail : (next o.store).trail with
      | nil => simp [htrail] at starts
      | cons x rest => exact ⟨rest, by simpa [htrail] using starts⟩
    have hsecond : (o.store :: rest).IsChain (ReflGen (Write P)) := hrest ▸ h'.chain.tail
    have hfirst := h.chain
    rw [Outcome.trail, List.map_append, List.append_assoc, ← Outcome.trail, hrest]
    exact List.isChain_cons_split.2 ⟨hfirst, hsecond⟩

end Runs

theorem VarStep.runs {v : TypeVar} {b : Ty} {o : Outcome} (step : VarStep again s v b o)
    (h : Prepared P s (.var v) b)
    (ih : ∀ a b, Prepared P s a b → Runs P s (again s a b)) : Runs P s o := by
  obtain ⟨hv, hPv⟩ : v.cell < s.size ∧ P v.cell := h.left v (by simp [TypeExpr.vars])
  cases step with
  | recursive occurs => exact .refuse _ _
  | follow bound => exact ih _ _ (h.follow bound)
  | followOther unbound bound => exact ih _ _ (h.swap.follow bound).swap
  | @merge w unbound other apart =>
    have hw := h.right w (by simp [TypeExpr.vars])
    exact .done (.single (.merge apart other unbound hw.2 hPv))
  | unsatisfied unbound concrete misfit => exact .refuse _ _
  | bind unbound concrete fits clear =>
    have hapart : ¬ s.Contains b v.cell := by
      rw [← h.grounded.occurs_iff, clear]
      simp
    exact .done (.single (.bind hv unbound h.right.inStore concrete fits hapart hPv fun w hw =>
      (h.right w hw).2))

/-- The first store that a call passes is the one it is made in. -/
theorem head_trail_unifyWithin (n : Nat) (s : Store) (a b : Ty) :
    (unifyWithin n s a b).trail.head? = some s := by
  cases n with
  | zero => rfl
  | succ n => unfold unifyWithin; rfl

theorem unifyWithin_runs {n : Nat} {a b : Ty} (h : Prepared P s a b) :
    Runs P s (unifyWithin n s a b) := by
  induction n generalizing s a b with
  | zero =>
    refine ⟨by simp [unifyWithin, Outcome.trail, ReflGen.refl], fun e he => ?_⟩
    rw [unifyWithin] at he
    cases he
  | succ n ih =>
    obtain ⟨o, step, heq⟩ := unifyWithin_step (n := n) h.left.inStore h.right.inStore
    rw [heq]
    refine Runs.after ?_ _
    cases step with
    | same => exact .done .refl
    | left differ step => exact step.runs h fun a b h => ih h
    | right differ concrete step => exact step.runs h.swap fun a b h => ih h
    | mismatch differ => exact .refuse _ _
    | parts differ pair =>
      obtain ⟨⟨ha₁, ha₂⟩, hb₁, hb₂⟩ := pair.partOf
      have first := ih (h.parts ha₁ hb₁)
      have second := (h.parts ha₂ hb₂).writes first.writes
      exact first.andThen (fun _ => ih second) (head_trail_unifyWithin _ _ _ _)
    | shape clash => exact .refuse _ _

end Store

end BlockTypes
