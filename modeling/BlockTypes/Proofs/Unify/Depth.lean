import BlockTypes.Proofs.Unify.Step

/-!
# The depth of unification

Calls of unification stand one inside the other while each of the two types is taken apart or, at a
bound variable, replaced by what it stands for. Neither type shrinks by that, and the bindings that
are followed may have been made by calls that are over. But a chain of calls passes no cell twice on
the same side, since every cell it has passed leads to all that is left there; and types only ever get
bound that are parts of the given types or of types bound before. So `cost` falls from call to call:
the cells not passed yet, each with room for the largest type, and the size of the type at hand.
-/

namespace BlockTypes.Store

open Relation

variable {s s' : Store} {again : Store → Ty → Ty → Outcome} {P : CellId → Prop} {m : Nat}

/-- No class stands for a type of more than `m` nodes. -/
def Light (m : Nat) (s : Store) : Prop := ∀ c t, s.bound? c = some t → t.size ≤ m

/-- One of the two types, after the cells in `passed` were followed to come to it. -/
structure Side (m : Nat) (s : Store) (passed : Finset CellId) (t : Ty) : Prop where
  light : t.size ≤ m
  below : ∀ c ∈ passed, c < s.size ∧ ∀ v ∈ t.vars, TransGen s.Leads c v.cell

/-- A bound for the calls that can follow on one side. -/
def cost (m : Nat) (s : Store) (passed : Finset CellId) (t : Ty) : Nat :=
  (s.size - passed.card) * (m + 1) + t.size

namespace Side

variable {passed : Finset CellId} {t u : Ty}

theorem part (h : Side m s passed t) (hu : u.PartOf t) : Side m s passed u where
  light := hu.size_lt.le.trans h.light
  below c hc := ⟨(h.below c hc).1, fun v hv => (h.below c hc).2 v (hu.vars v hv)⟩

theorem writes (h : Side m s passed t) (hw : Writes P s s') : Side m s' passed t := by
  have hg := Writes.grows hw
  refine ⟨h.light, fun c hc => ⟨(h.below c hc).1.trans_le hg.size, fun v hv => ?_⟩⟩
  exact TransGen.mono (fun _ _ hl => hl.grows hg) _ _ ((h.below c hc).2 v hv)

/-- Following a bound variable passes a cell that was not passed before. -/
theorem follow {v : TypeVar} (h : Side m s passed (.var v)) (hs : s.Grounded) (hl : s.Light m)
    (ht : s.bound? v.cell = some t) :
    ∃ passed', Side m s passed' t ∧ cost m s passed' t < cost m s passed (.var v) := by
  have hv : v ∈ (TypeExpr.var v).vars := by simp [TypeExpr.vars]
  have new : v.cell ∉ passed := fun hc => hs.acyclic _ ((h.below _ hc).2 v hv)
  have side : Side m s (insert v.cell passed) t := by
    refine ⟨hl _ _ ht, fun c hc => ?_⟩
    rcases Finset.mem_insert.1 hc with rfl | hc
    · exact ⟨lt_of_bound ht, fun w hw => .single ⟨t, ht, w, hw, rfl⟩⟩
    · exact ⟨(h.below c hc).1, fun w hw => ((h.below c hc).2 v hv).tail ⟨t, ht, w, hw, rfl⟩⟩
  refine ⟨_, side, ?_⟩
  have inside : insert v.cell passed ⊆ Finset.range s.size := fun c hc =>
    Finset.mem_range.2 (side.below c hc).1
  have hcard := Finset.card_le_card inside
  rw [Finset.card_range, Finset.card_insert_of_notMem new] at hcard
  obtain ⟨k, hk⟩ : ∃ k, s.size - passed.card = k + 1 := ⟨s.size - passed.card - 1, by omega⟩
  have hk' : s.size - (passed.card + 1) = k := by omega
  rw [cost, cost, Finset.card_insert_of_notMem new, hk, hk', Nat.succ_mul]
  have := side.light
  omega

end Side

theorem cost_lt {A : Finset CellId} {t u : Ty} (h : u.PartOf t) : cost m s A u < cost m s A t :=
  Nat.add_lt_add_left h.size_lt _

theorem cost_writes {passed : Finset CellId} (hw : Writes P s s') (t : Ty) :
    cost m s' passed t = cost m s passed t := by
  rw [cost, cost, Writes.size_eq hw]

/-! ## Runs end -/

/-- The outcome binds no larger types, and is not for lack of depth. -/
structure Ends (m : Nat) (o : Outcome) : Prop where
  light : o.store.Light m
  notEndless : o.failure ≠ some .endless

theorem Ends.refuse (h : s.Light m) (event : Event) (cause : Cause) :
    Ends m (.refuse s event cause) :=
  ⟨h, fun he => by cases he⟩

theorem Ends.done (h : s.Light m) : Ends m (.done s) := ⟨h, fun he => by cases he⟩

theorem Ends.andThen {o : Outcome} {next : Store → Outcome} (h : Ends m o)
    (hnext : Ends m (next o.store)) : Ends m (o.andThen next) := by
  cases hf : o.failure with
  | some f => rwa [Outcome.andThen_of_failure hf]
  | none =>
    rw [Outcome.andThen_of_success hf]
    exact ⟨hnext.light, hnext.notEndless⟩

theorem VarStep.ends {v : TypeVar} {b : Ty} {o : Outcome} {A B : Finset CellId} {n : Nat}
    (step : VarStep again s v b o) (h : Prepared P s (.var v) b) (hl : s.Light m)
    (hA : Side m s A (.var v)) (hB : Side m s B b) (hn : cost m s A (.var v) + cost m s B b ≤ n)
    (ih : ∀ a b A B, Prepared P s a b → Side m s A a → Side m s B b →
      cost m s A a + cost m s B b < n → Ends m (again s a b)) : Ends m o := by
  cases step with
  | recursive occurs => exact .refuse hl _ _
  | follow bound =>
    obtain ⟨A', hA', hlt⟩ := hA.follow h.grounded hl bound
    exact ih _ _ _ _ (h.follow bound) hA' hB (by omega)
  | followOther unbound bound =>
    obtain ⟨B', hB', hlt⟩ := hB.follow h.grounded hl bound
    exact ih _ _ _ _ (h.swap.follow bound).swap hA hB' (by omega)
  | merge unbound other apart =>
    exact .done fun c t ht => hl c t (bound?_of_bound?_join apart ht)
  | unsatisfied unbound concrete misfit => exact .refuse hl _ _
  | bind unbound concrete fits apart =>
    refine .done fun c t ht => ?_
    rw [bound?_assign (h.left v (by simp [TypeExpr.vars])).1] at ht
    split at ht
    · cases ht
      exact hB.light
    · exact hl c t ht

theorem unifyWithin_ends {n : Nat} {a b : Ty} {A B : Finset CellId} (h : Prepared P s a b)
    (hl : s.Light m) (hA : Side m s A a) (hB : Side m s B b)
    (hn : cost m s A a + cost m s B b < n) : Ends m (unifyWithin n s a b) := by
  induction n generalizing s a b A B with
  | zero => omega
  | succ n ih =>
    obtain ⟨o, step, heq⟩ := unifyWithin_step (n := n) h.left.inStore h.right.inStore
    rw [heq]
    suffices hends : Ends m o from ⟨hends.light, hends.notEndless⟩
    have again : ∀ a b A B, Prepared P s a b → Side m s A a → Side m s B b →
        cost m s A a + cost m s B b < n → Ends m (unifyWithin n s a b) :=
      fun a b A B h hA hB hn => ih h hl hA hB hn
    cases step with
    | same => exact .done hl
    | left differ step => exact step.ends h hl hA hB (by omega) again
    | right differ concrete step => exact step.ends h.swap hl hB hA (by omega) again
    | mismatch differ => exact .refuse hl _ _
    | @parts _ _ a₁ a₂ b₁ b₂ differ pair =>
      obtain ⟨⟨ha₁, ha₂⟩, hb₁, hb₂⟩ := pair.partOf
      have hw := (unifyWithin_runs (n := n) (h.parts ha₁ hb₁)).writes
      have hcost₁ : cost m s A a₁ + cost m s B b₁ < n := by
        have := cost_lt (m := m) (s := s) (A := A) ha₁
        have := cost_lt (m := m) (s := s) (A := B) hb₁
        omega
      have hcost₂ : cost m s A a₂ + cost m s B b₂ < n := by
        have := cost_lt (m := m) (s := s) (A := A) ha₂
        have := cost_lt (m := m) (s := s) (A := B) hb₂
        omega
      have first := again _ _ _ _ (h.parts ha₁ hb₁) (hA.part ha₁) (hB.part hb₁) hcost₁
      -- The second of two parts is met in the store that the first has left.
      refine first.andThen (ih ((h.parts ha₂ hb₂).writes hw) first.light ((hA.part ha₂).writes hw)
        ((hB.part hb₂).writes hw) ?_)
      rwa [cost_writes hw, cost_writes hw]
    | shape clash => exact .refuse hl _ _

/-! ## The computed depth -/

theorem cellWeight_le_weight {cell : Cell} (h : cell ∈ s.cells.toList) :
    cellWeight cell ≤ s.weight := by
  rw [weight]
  generalize s.cells.toList = cells at h
  induction cells with
  | nil => cases h
  | cons x xs ih =>
    rw [List.foldr_cons]
    rcases List.mem_cons.1 h with rfl | h
    · omega
    · have := ih h
      omega

theorem size_le_weight {c : CellId} {t : Ty} (h : s.bound? c = some t) : t.size ≤ s.weight := by
  rw [bound?] at h
  split at h
  · rename_i bound cs hc
    subst h
    exact cellWeight_le_weight (Array.mem_toList_iff.2 (Array.mem_of_getElem? hc))
  · cases h

/-- In a store without cycles unification never runs out of depth. -/
theorem unify_notEndless {a b : Ty} (hs : s.Grounded) (ha : s.Over a) (hb : s.Over b) :
    (s.unify a b).failure ≠ some .endless := by
  have hl : s.Light (a.size + b.size + s.weight) := fun c t ht => by
    have := size_le_weight ht
    omega
  refine (unifyWithin_ends (A := ∅) (B := ∅) (.ofOver hs ha hb) hl
    ⟨by omega, by simp⟩ ⟨by omega, by simp⟩ ?_).notEndless
  have hmul := Nat.add_one_mul s.size (a.size + b.size + s.weight + 1)
  rw [cost, cost, unifyDepth, Finset.card_empty, Nat.sub_zero, Nat.mul_assoc]
  omega

end BlockTypes.Store
