import BlockTypes.Proofs.Store.Calls

/-!
# Variables form a partition

`Partition` answers calls without handles and cells: it remembers what each variable was made with, which
merges were made and which types were given, and answers from that alone. `answers_eq_partition` says that no
sequence of calls can tell it from a store, nor from the handles of one.

The invariant is `Represents`. It is kept by each call, so the whole run follows by induction on the
calls; links that are shortened on the way change neither side.
-/

namespace BlockTypes

/-! ## Calls on a partition -/

/-- The two are connected by pairs of the list. -/
def Linked (pairs : List (CellId × CellId)) : CellId → CellId → Prop :=
  Relation.EqvGen fun c d => (c, d) ∈ pairs

/-- All that was done to variables: the constraints that each was made with, in order, the merges and the
bindings that were made, the last one first, and how many names were generated. -/
structure Partition where
  made : List ConstraintSet
  merged : List (CellId × CellId)
  given : List (CellId × Ty)
  serial : Nat

namespace Partition

/-- There are no variables yet. -/
def start : Partition := ⟨[], [], [], 0⟩

open Classical in
/-- The variables of one class. -/
noncomputable def members (p : Partition) (c : CellId) : List CellId :=
  (List.range p.made.length).filter fun d => Linked p.merged c d

/-- The union of the constraints that the variables of a class were made with. -/
noncomputable def constraints (p : Partition) (c : CellId) : ConstraintSet :=
  .ofList ((p.members c).flatMap fun d => (p.made.getD d ∅).toList)

open Classical in
/-- The type that was given to a variable of the class. -/
noncomputable def type? (p : Partition) (c : CellId) : Option Ty :=
  (p.given.find? fun g => Linked p.merged c g.1).map (·.2)

open Classical in
/-- The cell that stands for a class: that of the second variable whenever two classes are merged. -/
noncomputable def keeper : List (CellId × CellId) → CellId → CellId
  | [], c => c
  | (v, w) :: earlier, c => if Linked earlier c v then keeper earlier w else keeper earlier c

open Classical in
/-- The partition after a call, and the answer. -/
noncomputable def call (p : Partition) : Call → Partition × Answer
  | .newVar name cs => ({ p with made := p.made ++ [cs] }, .made ⟨name, p.made.length⟩)
  | .freshVar stem cs =>
    ({ p with made := p.made ++ [cs], serial := p.serial + 1 },
      .made ⟨stem ++ toString p.serial, p.made.length⟩)
  | .merge v w =>
    if ¬ Linked p.merged v.cell w.cell ∧ ((p.type? v.cell).isSome ∨ (p.type? w.cell).isSome) then
      (p, .refused (.mergeBound v w))
    else ({ p with merged := (v.cell, w.cell) :: p.merged }, .done)
  | .bind v t =>
    match p.type? v.cell with
    | some u => (p, .refused (.alreadyBound v u))
    | none => ({ p with given := (v.cell, t) :: p.given }, .done)
  | .constraints v => (p, .constraints (p.constraints v.cell))
  | .isBound v => (p, .truth (p.type? v.cell).isSome)
  | .get v =>
    match p.type? v.cell with
    | some t => (p, .type t)
    | none => (p, .refused (.unbound v))
  | .same v w => (p, .truth (decide (Linked p.merged v.cell w.cell)))
  | .cell v => (p, .cell (keeper p.merged v.cell))

/-- The partition after a sequence of calls. -/
noncomputable def afterCalls (p : Partition) (calls : List Call) : Partition :=
  calls.foldl (fun p x => (p.call x).1) p

/-- The answers to a sequence of calls. -/
noncomputable def answers (p : Partition) : List Call → List Answer
  | [] => []
  | x :: calls => (p.call x).2 :: (p.call x).1.answers calls

/-- A call that only asks or is refused leaves nothing to remember. -/
theorem call_of_idle {p : Partition} {x : Call}
    (idle : x.IsQuestion ∨ ∃ e, (p.call x).2 = .refused e) : (p.call x).1 = p := by
  unfold call at idle ⊢
  cases x with
  | newVar name cs => simp [Call.IsQuestion] at idle
  | freshVar stem cs => simp [Call.IsQuestion] at idle
  | merge v w =>
    dsimp only at idle ⊢
    split
    · rfl
    · simp_all [Call.IsQuestion]
  | bind v t =>
    dsimp only at idle ⊢
    split
    · rfl
    · simp_all [Call.IsQuestion]
  | get v =>
    dsimp only
    split <;> rfl
  | constraints v => rfl
  | isBound v => rfl
  | same v w => rfl
  | cell v => rfl

end Partition

/-! ## Connected variables -/

section Linked

variable {pairs : List (CellId × CellId)} {c d : CellId}

theorem Linked.cons (h : Linked pairs c d) (pair : CellId × CellId) : Linked (pair :: pairs) c d :=
  Relation.EqvGen.mono (fun _ _ hmem => List.mem_cons_of_mem pair hmem) _ _ h

theorem linked_head (c d : CellId) (pairs : List (CellId × CellId)) : Linked ((c, d) :: pairs) c d :=
  .rel _ _ List.mem_cons_self

/-- What is the same for the two of every pair is the same for all that they connect. -/
theorem Linked.image_eq {α : Type} {f : CellId → α} (h : Linked pairs c d)
    (hf : ∀ q ∈ pairs, f q.1 = f q.2) : f c = f d := by
  induction h with
  | rel x y hxy => exact hf _ hxy
  | refl x => rfl
  | symm x y _ ih => exact ih.symm
  | trans x y z _ _ ihxy ihyz => exact ihxy.trans ihyz

end Linked

namespace Store

variable {s : Store} {p : Partition} {c d : CellId}

/-! ## Looking up roots -/

/-- The cell passes its variable on to the other one. -/
def PassesTo (s : Store) (c d : CellId) : Prop := s.cells[c]? = some (.link d)

/-- There is no endless way along links. -/
theorem wellFounded_passesTo (s : Store) : WellFounded fun d c => s.PassesTo c d := by
  have ends : ∀ n c, ¬ Forest.IsLink s.cells (Forest.climb s.cells n c) →
      Acc (fun d c => s.PassesTo c d) c := by
    intro n
    induction n with
    | zero => exact fun c hc => ⟨c, fun d hd => absurd ⟨d, hd⟩ hc⟩
    | succ n ih =>
      intro c hc
      refine ⟨c, fun d hd => ih d ?_⟩
      rwa [Forest.climb_link hd] at hc
  exact ⟨fun c => ends s.height c (s.climbs_end c)⟩

/-- The way along links from a cell leads to its root. -/
theorem passesTo_root (s : Store) (c : CellId) : Relation.ReflTransGen s.PassesTo c (s.root c) := by
  have climbs : ∀ n c, Relation.ReflTransGen s.PassesTo c (Forest.climb s.cells n c) := by
    intro n
    induction n with
    | zero => exact fun c => .refl
    | succ n ih =>
      intro c
      by_cases hc : Forest.IsLink s.cells c
      · obtain ⟨d, hd⟩ := hc
        rw [Forest.climb_link hd]
        exact .head hd (ih d)
      · rw [Forest.climb_of_not_isLink hc]
  exact climbs s.height c

/-! ## What a store stands for -/

/-- The store holds what the partition remembers. Classes are compared by their roots here, so that a
write to the store need not be followed through the pairs that connect variables. -/
structure Represents (s : Store) (p : Partition) : Prop where
  size : p.made.length = s.size
  serial : p.serial = s.serial
  merged : ∀ q ∈ p.merged, s.root q.1 = s.root q.2
  linked : ∀ c d, s.root c = s.root d → Linked p.merged c d
  kept : ∀ c, Partition.keeper p.merged c = s.root c
  constraints : ∀ c k, k ∈ s.constraints c ↔
    ∃ d cs, p.made[d]? = some cs ∧ s.root c = s.root d ∧ k ∈ cs
  bound : ∀ c t, s.bound? c = some t ↔ ∃ d, (d, t) ∈ p.given ∧ s.root c = s.root d
  once : p.given.Pairwise fun g h => s.root g.1 ≠ s.root h.1

namespace Represents

theorem linked_iff (h : s.Represents p) : Linked p.merged c d ↔ s.root c = s.root d :=
  ⟨fun hl => hl.image_eq h.merged, h.linked c d⟩

theorem constraints_eq (h : s.Represents p) (c : CellId) : p.constraints c = s.constraints c := by
  refine SortedSet.ext fun k => ?_
  rw [h.constraints]
  simp only [Partition.constraints, Partition.members, SortedSet.mem_ofList, List.mem_flatMap,
    List.mem_filter, List.mem_range, decide_eq_true_eq, h.linked_iff]
  constructor
  · rintro ⟨d, ⟨hd, hcd⟩, hk⟩
    refine ⟨d, p.made[d], List.getElem?_eq_getElem hd, hcd, SortedSet.mem_def.2 ?_⟩
    simpa [List.getD, hd] using hk
  · rintro ⟨d, cs, hd, hcd, hk⟩
    obtain ⟨hlt, rfl⟩ := List.getElem?_eq_some_iff.1 hd
    exact ⟨d, ⟨hlt, hcd⟩, by simpa [List.getD, hlt] using SortedSet.mem_def.1 hk⟩

theorem type?_eq (h : s.Represents p) (c : CellId) : p.type? c = s.bound? c := by
  classical
  unfold Partition.type?
  cases hfind : p.given.find? fun g => decide (Linked p.merged c g.1) with
  | some g =>
    have hlinked : Linked p.merged c g.1 := by simpa using List.find?_some hfind
    exact ((h.bound c g.2).2 ⟨g.1, List.mem_of_find?_eq_some hfind, h.linked_iff.1 hlinked⟩).symm
  | none =>
    cases hb : s.bound? c with
    | none => rfl
    | some t =>
      obtain ⟨d, hd, hcd⟩ := (h.bound c t).1 hb
      simpa [h.linked_iff, hcd] using List.find?_eq_none.1 hfind (d, t) hd

/-! ## What a call does -/

theorem start : (∅ : Store).Represents .start where
  size := rfl
  serial := rfl
  merged q hq := by cases hq
  linked c d h := by
    rw [root_of_size_le (Nat.zero_le c), root_of_size_le (Nat.zero_le d)] at h
    exact h ▸ .refl c
  kept c := (root_of_size_le (Nat.zero_le c)).symm
  constraints c k := by
    rw [constraints_of_size_le (Nat.zero_le c)]
    simp [SortedSet.not_mem_empty, Partition.start]
  bound c t := by
    rw [bound?_of_size_le (Nat.zero_le c)]
    simp [Partition.start]
  once := .nil

theorem shorten (h : s.Represents p) (c : CellId) : (s.shorten c).Represents p where
  size := by simpa using h.size
  serial := h.serial
  merged := by simpa using h.merged
  linked := by simpa using h.linked
  kept := by simpa using h.kept
  constraints := by simpa using h.constraints
  bound := by simpa using h.bound
  once := by simpa using h.once

theorem follow (h : s.Represents p) (cs : List CellId) : (s.follow cs).Represents p := by
  induction cs generalizing s with
  | nil => exact h
  | cons c cs ih => exact ih (h.shorten c)

theorem push (h : s.Represents p) (cs : ConstraintSet) {m n : Nat} (serial : m = n) :
    { s.push cs with serial := n }.Represents { p with made := p.made ++ [cs], serial := m } where
  size := by
    show _ = (s.push cs).size
    simp [h.size]
  serial := serial
  merged q hq := (root_push s cs q.1).trans ((h.merged q hq).trans (root_push s cs q.2).symm)
  linked c d hcd := h.linked c d ((root_push s cs c).symm.trans (hcd.trans (root_push s cs d)))
  kept c := (h.kept c).trans (root_push s cs c).symm
  constraints c k := by
    show k ∈ (s.push cs).constraints c ↔
      ∃ d ds, (p.made ++ [cs])[d]? = some ds ∧ (s.push cs).root c = (s.push cs).root d ∧ k ∈ ds
    simp only [root_push, constraints_push]
    split
    · rename_i hc
      subst hc
      constructor
      · exact fun hk => ⟨s.size, cs, by simp [← h.size], rfl, hk⟩
      · rintro ⟨d, ds, hd, hroot, hk⟩
        rw [root_of_size_le (Nat.le_refl _)] at hroot
        have hsize : d = s.size := by
          by_contra hne
          exact root_ne_size hne hroot.symm
        simp [hsize, ← h.size] at hd
        exact hd ▸ hk
    · rename_i hc
      rw [h.constraints]
      constructor
      · rintro ⟨d, ds, hd, hroot, hk⟩
        exact ⟨d, ds, by rw [List.getElem?_append_left (List.getElem?_eq_some_iff.1 hd).1, hd], hroot, hk⟩
      · rintro ⟨d, ds, hd, hroot, hk⟩
        refine ⟨d, ds, ?_, hroot, hk⟩
        have hne : d ≠ s.size := by
          rintro rfl
          rw [root_of_size_le (Nat.le_refl s.size)] at hroot
          exact root_ne_size hc hroot
        have hlt : d < p.made.length := by
          have hd' := (List.getElem?_eq_some_iff.1 hd).1
          rw [List.length_append, List.length_singleton] at hd'
          exact Nat.lt_of_le_of_ne (Nat.le_of_lt_succ hd') (h.size ▸ hne)
        rwa [List.getElem?_append_left hlt] at hd
  bound c t := by
    show (s.push cs).bound? c = some t ↔ ∃ d, (d, t) ∈ p.given ∧ (s.push cs).root c = (s.push cs).root d
    simp only [bound?_push, root_push]
    exact h.bound c t
  once := by
    show p.given.Pairwise fun g h => (s.push cs).root g.1 ≠ (s.push cs).root h.1
    simp only [root_push]
    exact h.once

theorem assign (h : s.Represents p) (hc : c < s.size) (unbound : s.bound? c = none) (t : Ty) :
    (s.assign c t).Represents { p with given := (c, t) :: p.given } where
  size := by simpa using h.size
  serial := h.serial
  merged := by simpa using h.merged
  linked := by simpa using h.linked
  kept := by simpa using h.kept
  constraints := by simpa using h.constraints
  bound d u := by
    simp only [bound?_assign hc, root_assign, List.mem_cons, Prod.mk.injEq, or_and_right, exists_or]
    split
    · rename_i hdc
      constructor
      · intro ht
        cases ht
        exact .inl ⟨c, ⟨rfl, rfl⟩, hdc⟩
      · rintro (⟨e, ⟨-, rfl⟩, -⟩ | ⟨e, he, hde⟩)
        · rfl
        · have hbound := (h.bound c u).2 ⟨e, he, hdc.symm.trans hde⟩
          rw [unbound] at hbound
          cases hbound
    · rename_i hdc
      rw [h.bound]
      constructor
      · exact .inr
      · rintro (⟨e, ⟨rfl, -⟩, hde⟩ | hgiven)
        · exact absurd hde hdc
        · exact hgiven
  once := by
    simp only [root_assign]
    refine List.pairwise_cons.2 ⟨fun g hg hroot => ?_, h.once⟩
    have hbound := (h.bound c g.2).2 ⟨g.1, hg, hroot⟩
    rw [unbound] at hbound
    cases hbound

/-- A merge within one class is remembered, and changes nothing. -/
theorem merge_same (h : s.Represents p) (hcd : s.root c = s.root d) :
    s.Represents { p with merged := (c, d) :: p.merged } where
  size := h.size
  serial := h.serial
  merged q hq := by
    rcases List.mem_cons.1 hq with rfl | hq
    · exact hcd
    · exact h.merged q hq
  linked x y hxy := (h.linked x y hxy).cons _
  kept x := by
    simp only [Partition.keeper, h.linked_iff, h.kept]
    split
    · rename_i hxc
      exact (hxc.trans hcd).symm
    · rfl
  constraints := h.constraints
  bound := h.bound
  once := h.once

end Represents

theorem Represents.join (h : s.Represents p) (apart : s.Apart c d) (left : s.bound? c = none)
    (right : s.bound? d = none) :
    (s.join c d).Represents { p with merged := (c, d) :: p.merged } := by
  have given_ne : ∀ e t, (e, t) ∈ p.given → ¬ (s.root e = s.root c ∨ s.root e = s.root d) := by
    rintro e t he (hec | hed)
    · have hbound := (h.bound c t).2 ⟨e, he, hec.symm⟩
      rw [left] at hbound
      cases hbound
    · have hbound := (h.bound d t).2 ⟨e, he, hed.symm⟩
      rw [right] at hbound
      cases hbound
  refine ⟨?_, ?_, fun q hq => ?_, fun x y hxy => ?_, fun x => ?_, fun x k => ?_, fun x t => ?_, ?_⟩
  · simpa using h.size
  · rw [Store.serial_join]
    exact h.serial
  · rw [root_join_eq_iff apart]
    rcases List.mem_cons.1 hq with rfl | hq
    · exact .inr ⟨.inl rfl, .inr rfl⟩
    · exact .inl (h.merged q hq)
  · -- Two variables of one class were so before, or the new pair connects the classes they were in.
    have old : ∀ {x y}, s.root x = s.root y → Linked ((c, d) :: p.merged) x y :=
      fun hxy => (h.linked _ _ hxy).cons _
    have toLower : ∀ {x}, s.root x = s.root c ∨ s.root x = s.root d → Linked ((c, d) :: p.merged) x c := by
      rintro x (hx | hx)
      · exact old hx
      · exact (old hx).trans _ _ _ ((linked_head c d p.merged).symm _ _)
    rcases (root_join_eq_iff apart).1 hxy with hxy | ⟨hx, hy⟩
    · exact old hxy
    · exact (toLower hx).trans _ _ _ ((toLower hy).symm _ _)
  · simp only [Partition.keeper, h.linked_iff, h.kept, root_join apart]
  · simp only [constraints_join apart, root_join_eq_iff apart]
    split
    · rename_i hx
      simp only [SortedSet.mem_union, h.constraints, hx, true_and]
      constructor
      · rintro (⟨e, cs, he, hde, hk⟩ | ⟨e, cs, he, hce, hk⟩)
        · exact ⟨e, cs, he, .inr (.inr hde.symm), hk⟩
        · exact ⟨e, cs, he, .inr (.inl hce.symm), hk⟩
      · rintro ⟨e, cs, he, hxe, hk⟩
        have hin : s.root e = s.root c ∨ s.root e = s.root d := hxe.elim (fun hxe => hxe ▸ hx) id
        rcases hin with hec | hed
        · exact .inr ⟨e, cs, he, hec.symm, hk⟩
        · exact .inl ⟨e, cs, he, hed.symm, hk⟩
    · rename_i hx
      simp only [h.constraints, hx, false_and, or_false]
  · simp only [bound?_join apart, root_join_eq_iff apart]
    split
    · rename_i hx
      simp only [reduceCtorEq, false_iff]
      rintro ⟨e, he, hxe | hxe⟩
      · exact given_ne e t he (hxe ▸ hx)
      · exact given_ne e t he hxe.2
    · rename_i hx
      simp only [h.bound, hx, false_and, or_false]
  · refine h.once.imp_of_mem fun {g g'} hg _ hne hroot => ?_
    rcases (root_join_eq_iff apart).1 hroot with hroot | ⟨hin, -⟩
    · exact hne hroot
    · exact given_ne g.1 g.2 hg hin

/-- What a call does to the store and what it answers is what it does to the partition and answers
there. -/
theorem Represents.act (h : s.Represents p) {x : Call} (allowed : s.AllowsCall x) :
    (s.act x).1.Represents (p.call x).1 ∧ (s.act x).2 = (p.call x).2 := by
  cases x with
  | newVar name cs =>
    refine ⟨h.push cs h.serial, ?_⟩
    simp [Store.act, Store.newVar, Partition.call, h.size]
  | freshVar stem cs =>
    refine ⟨h.push cs (congrArg (· + 1) h.serial), ?_⟩
    simp [Store.act, Store.fresh, Partition.call, h.size, h.serial]
  | merge v w =>
    have hv : v.cell < s.size := allowed v (by simp [Call.vars])
    have hw : w.cell < s.size := allowed w (by simp [Call.vars])
    simp only [Store.act, Store.merge, Partition.call, h.type?_eq, h.linked_iff]
    by_cases hvw : s.root v.cell = s.root w.cell
    · simp only [hvw, if_pos, not_true_eq_false, false_and, if_false]
      exact ⟨h.merge_same hvw, trivial⟩
    · by_cases hbound : (s.bound? v.cell).isSome ∨ (s.bound? w.cell).isSome
      · simp [hvw, hbound, h]
      · obtain ⟨left, right⟩ := not_or.1 hbound
        rw [Option.not_isSome_iff_eq_none] at left right
        simp [hvw, left, right, h.join ⟨hvw, hv, hw⟩ left right]
  | bind v t =>
    have hv : v.cell < s.size := allowed v (by simp [Call.vars])
    simp only [Store.act, Store.bind, Partition.call, h.type?_eq]
    cases hbound : s.bound? v.cell with
    | some u => exact ⟨h, rfl⟩
    | none => exact ⟨h.assign hv hbound t, rfl⟩
  | constraints v => exact ⟨h, by simp [Store.act, Partition.call, h.constraints_eq]⟩
  | isBound v => exact ⟨h, by simp [Store.act, Partition.call, h.type?_eq]⟩
  | get v =>
    simp only [Store.act, Store.get, Partition.call, h.type?_eq]
    cases s.bound? v.cell with
    | some t => exact ⟨h, rfl⟩
    | none => exact ⟨h, rfl⟩
  | same v w => exact ⟨h, by simp [Store.act, Partition.call, Same, classes, TypeExpr.map, h.linked_iff]⟩
  | cell v => exact ⟨h, by simp [Store.act, Partition.call, h.kept]⟩

theorem Represents.call (h : s.Represents p) {x : Call} (allowed : s.AllowsCall x) :
    (s.call x).1.Represents (p.call x).1 ∧ (s.call x).2 = (p.call x).2 := by
  refine (h.follow _).act fun v hv => ?_
  rw [size_follow]
  exact allowed v hv

/-! ## Sequences of calls -/

theorem Represents.afterCalls (h : s.Represents p) {calls : List Call} (legal : s.LegalCalls calls) :
    (s.afterCalls calls).Represents (p.afterCalls calls) := by
  induction calls generalizing s p with
  | nil => exact h
  | cons x calls ih => exact ih (h.call legal.1).1 legal.2

theorem Represents.answers (h : s.Represents p) {calls : List Call} (legal : s.LegalCalls calls) :
    s.answers calls = p.answers calls := by
  induction calls generalizing s p with
  | nil => rfl
  | cons x calls ih =>
    obtain ⟨hnext, hanswer⟩ := h.call legal.1
    rw [Store.answers, Partition.answers, hanswer, ih hnext legal.2]

/-- Stores that represent one partition allow the same calls. -/
theorem Represents.legalCalls {s' : Store} (h : s.Represents p) (h' : s'.Represents p) {calls : List Call}
    (legal : s.LegalCalls calls) : s'.LegalCalls calls := by
  induction calls generalizing s s' p with
  | nil => trivial
  | cons x calls ih =>
    have allowed : s'.AllowsCall x := by
      intro v hv
      rw [← h'.size, h.size]
      exact legal.1 v hv
    exact ⟨allowed, ih (h.call legal.1).1 (h'.call allowed).1 legal.2⟩

/-- No sequence of calls can tell the cells of a store from the partition of the variables that it
remembers: all answers are the same, also where handles are given other cells by merges. There, two variables have the same cell exactly if merges connect
them, and no class is given a type twice. A call that only asks or is refused changes no later answer.
The way along links always ends, at the root, and shortening it moves no root. -/
theorem answers_eq_partition (calls : List Call) (legal : (∅ : Store).LegalCalls calls) :
    let s := (∅ : Store).afterCalls calls
    let p := Partition.start.afterCalls calls
    Handles.start.answers calls = Partition.start.answers calls ∧
    (∅ : Store).answers calls = Partition.start.answers calls ∧
    (∀ c d, Partition.keeper p.merged c = Partition.keeper p.merged d ↔ Linked p.merged c d) ∧
    p.given.Pairwise (fun g h => ¬ Linked p.merged g.1 h.1) ∧
    (∀ x more, s.AllowsCall x → s.LegalCalls more → (x.IsQuestion ∨ ∃ e, (s.call x).2 = .refused e) →
      (s.call x).1.answers more = s.answers more) ∧
    (WellFounded fun d c => s.PassesTo c d) ∧
    ∀ c, Relation.ReflTransGen s.PassesTo c (s.root c) ∧ (∀ d, ¬ s.PassesTo (s.root c) d) ∧
      ∀ d, (s.shorten c).root d = s.root d := by
  intro s p
  have h : s.Represents p := Represents.start.afterCalls legal
  have hanswers := Represents.start.answers legal
  refine ⟨(Handles.Holds.start.answers legal).trans hanswers, hanswers, fun c d => ?_, ?_,
    fun x more allowed later idle => ?_, wellFounded_passesTo s,
    fun c => ⟨passesTo_root s c, fun d hd => s.not_isLink_root c ⟨d, hd⟩, ?_⟩⟩
  · rw [h.kept, h.kept, h.linked_iff]
  · simpa only [h.linked_iff] using h.once
  · obtain ⟨hnext, hanswer⟩ := h.call allowed
    rw [hanswer] at idle
    rw [Partition.call_of_idle idle] at hnext
    rw [hnext.answers (h.legalCalls hnext later), h.answers later]
  · exact root_shorten s c

/-- Three variables are merged one after another and bound through the one in the middle. The first then
refuses another type, and a fourth one refuses to be merged with them. -/
theorem answers_eq_partition_chain :
    let num : ConstraintSet := .ofList [⟨"Num", .ofList ["Int"]⟩]
    let ord : ConstraintSet := .ofList [⟨"Ord", .ofList ["Int", "Char"]⟩]
    let a : TypeVar := ⟨"a", 0⟩
    let b : TypeVar := ⟨"b", 1⟩
    let c : TypeVar := ⟨"c", 2⟩
    let d : TypeVar := ⟨"d3", 3⟩
    let calls : List Call := [.newVar "a" num, .newVar "b" ∅, .newVar "c" ord, .merge c b, .merge b a,
      .constraints c, .same a c, .cell c, .bind b (.con "Int"), .get c, .bind a (.con "Char"),
      .newVar "d3" ∅, .merge d a, .merge a c, .isBound d]
    (∅ : Store).LegalCalls calls ∧
      Partition.start.answers calls = [.made a, .made b, .made c, .done, .done,
        .constraints (num.union ord), .truth true, .cell 0, .done, .type (.con "Int"),
        .refused (.alreadyBound a (.con "Int")), .made d, .refused (.mergeBound d a), .done,
        .truth false] := by
  intro num ord a b c d calls
  have legal : (∅ : Store).LegalCalls calls := by decide +kernel
  refine ⟨legal, ?_⟩
  rw [← (answers_eq_partition calls legal).1]
  decide +kernel

end Store

end BlockTypes
