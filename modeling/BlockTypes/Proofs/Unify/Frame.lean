import BlockTypes.Proofs.Unify.Again

/-!
# What unification leaves alone

Unification writes to classes that can be reached from its two types, and binds them to types that were
inside one of the two. So the cells that could be reached before the call are a region that it does not
leave (`prepared_reach`), whether it fails or not. The first part says what any writes in a region do not
do; `unify_frame` is what this comes to for a call.
-/

namespace BlockTypes

open Relation

namespace Store

variable {s s' : Store} {P : CellId → Prop} {c d : CellId} {t : Ty}

/-- No cell enters or leaves a class outside of the region. -/
theorem Writes.members_outside (h : Writes P s s') (hP : Region P s) (hc : ¬ P c) :
    s'.root d = s'.root c ↔ s.root d = s.root c := by
  constructor
  · intro hroot
    have hd : ¬ P d := fun hd => (Writes.region h hP).root_ne hc hd hroot.symm
    rwa [(Writes.outside h hP hd).root, (Writes.outside h hP hc).root] at hroot
  · intro hroot
    exact (Writes.grows h).root d c hroot

theorem Writes.inside_of_bound (h : Writes P s s') (hP : Region P s) (unbound : s.bound? c = none)
    (bound : s'.bound? c = some t) : P c := by
  by_contra hc
  rw [(Writes.outside h hP hc).bound, unbound] at bound
  cases bound

/-- What a class has been bound to leads to nothing outside of the region. -/
theorem Writes.contains_inside (h : Writes P s s') (hP : Region P s) (unbound : s.bound? c = none)
    (bound : s'.bound? c = some t) (ht : s'.Contains t d) : P d := by
  have hP' := Writes.region h hP
  have hc := Writes.inside_of_bound h hP unbound bound
  exact hP'.contains (hP'.bound c t hc bound) ht

/-- Types that lead to nothing in the region stand for what they did. -/
theorem Writes.resolve_outside (h : Writes P s s') (hP : Region P s) (hs : s.WellFormed)
    (ht : ∀ c, s.Contains t c → ¬ P c) : s'.resolve t = s.resolve t := by
  refine hs.resolve_congr (Writes.wellFormed h hs) (P := s.Contains t) ?_ ?_ fun v => contains_of_mem
  · intro c u hc hu v hv
    exact hc.trans (.inr (.single ⟨u, hu, v, hv, rfl⟩))
  · intro c hc
    exact (Writes.outside h hP (ht c hc)).bound

end Store

namespace Workspace

/-- Whether two types unify or not, classes that could not be reached from them keep their cells, their
types and their constraints. Classes that could be are bound to types from which only these can be reached.
And a type that shares none of them resolves as before. -/
theorem unify_frame (w : Workspace) (context : Option Expr) (a b : Ty) (hw : w.store.WellFormed)
    (ha : w.store.Over a) (hb : w.store.Over b) :
    let after := (w.unify context a b).workspace.store
    (∀ c, ¬ w.store.Reach a b c →
      (∀ d, after.root d = after.root c ↔ w.store.root d = w.store.root c) ∧
        after.bound? c = w.store.bound? c ∧ after.constraints c = w.store.constraints c) ∧
    (∀ c t, w.store.bound? c = none → after.bound? c = some t →
      w.store.Reach a b c ∧ ∀ d, after.Contains t d → w.store.Reach a b d) ∧
    ∀ t, (∀ c, w.store.Contains t c → ¬ w.store.Reach a b c) →
      after.resolve t = w.store.resolve t := by
  intro after
  have h := Store.prepared_reach hw.grounded ha hb
  obtain ⟨r, hu⟩ := Store.exists_unifies h
  have hwrites : Store.Writes (w.store.Reach a b) w.store after := hu.writes h
  refine ⟨fun c hc => ?_, fun c t unbound bound => ?_, fun t ht => ?_⟩
  · have hagrees := Store.Writes.outside hwrites h.region hc
    exact ⟨fun d => Store.Writes.members_outside hwrites h.region hc, hagrees.bound, hagrees.constraints⟩
  · exact ⟨Store.Writes.inside_of_bound hwrites h.region unbound bound,
      fun d => Store.Writes.contains_inside hwrites h.region unbound bound⟩
  · exact Store.Writes.resolve_outside hwrites h.region hw ht

/-- A failure leaves what was written before it was found: a variable is bound to a list of another one,
which is merged with a third. Two variables beside them, of which one is bound to a list of the other, are
as they were. -/
theorem unify_frame_failing :
    let num : ConstraintSet := .ofList [⟨"Num", .ofList ["Int"]⟩]
    let x : Ty := .var ⟨"x", 0⟩
    let y : Ty := .var ⟨"y", 1⟩
    let z : Ty := .var ⟨"z", 2⟩
    let p : Ty := .var ⟨"p", 3⟩
    let q : Ty := .var ⟨"q", 4⟩
    let made := (((((∅ : Store).push ∅).push num).push ∅).push num).push ∅
    let w : Workspace := ⟨made.assign 4 (.listOf p), 0, []⟩
    let a : Ty := .arrow x (.arrow z (.con "Int"))
    let b : Ty := .arrow (.listOf y) (.arrow y (.con "Bool"))
    let after := (w.unify none a b).workspace.store
    (w.store.WellFormed ∧ w.store.Over a ∧ w.store.Over b) ∧ (w.unify none a b).result ≠ .ok () ∧
      (after.bound? 0 = some (.listOf y) ∧ after.root 2 = after.root 1) ∧
      ((∀ d, after.root d = after.root 3 ↔ w.store.root d = w.store.root 3) ∧
        after.bound? 3 = w.store.bound? 3 ∧ after.constraints 3 = w.store.constraints 3) ∧
      (∀ d, after.Contains (.listOf y) d → w.store.Reach a b d) ∧
      after.resolve (.arrow p q) = w.store.resolve (.arrow p q) := by
  intro num x y z p q made w a b after
  have hmade : made.WellFormed :=
    (Store.extends_push _ ∅).wellFormed ((Store.extends_push _ num).wellFormed
      ((Store.extends_push _ ∅).wellFormed ((Store.extends_push _ num).wellFormed
        ((Store.extends_push _ ∅).wellFormed Store.wellFormed_empty))))
  have hw : w.store.WellFormed :=
    hmade.assign (by decide) (by decide) (by simp [TypeExpr.listOf]) (by decide)
      (mt (hmade.grounded.occurs_iff ⟨"q", 4⟩ _).2 (by decide))
  have ha : w.store.Over a := by decide
  have hb : w.store.Over b := by decide
  have hover : w.store.Over (.arrow p q) := by decide
  -- A cell that occurs in the one type occurs in none of the two others.
  have hsplit : ∀ c < w.store.size, w.store.occurs ⟨"", c⟩ (.arrow p q) = true →
      ¬ (w.store.occurs ⟨"", c⟩ a = true ∨ w.store.occurs ⟨"", c⟩ b = true) := by decide +kernel
  have hbeside : ∀ c, w.store.Contains (.arrow p q) c → ¬ w.store.Reach a b c := by
    intro c hc
    have hlt : c < w.store.size :=
      Store.Region.contains (P := (· < w.store.size))
        ⟨fun _ => Store.root_lt_iff, fun c t _ => hw.inStore c t⟩ hover hc
    have hnot := hsplit c hlt ((hw.grounded.occurs_iff ⟨"", c⟩ _).2 hc)
    rwa [hw.grounded.occurs_iff, hw.grounded.occurs_iff] at hnot
  have hbound : after.bound? 0 = some (.listOf y) := by decide +kernel
  obtain ⟨hclass, hnew, hresolve⟩ := unify_frame w none a b hw ha hb
  exact ⟨⟨hw, ha, hb⟩, by decide +kernel, ⟨hbound, by decide +kernel⟩,
    hclass 3 (hbeside 3 ⟨⟨"p", 3⟩, by decide, .inl rfl⟩), (hnew 0 _ (by decide) hbound).2,
    hresolve _ hbeside⟩

end Workspace

end BlockTypes
