import BlockTypes.Proofs.Store.Graph
import Mathlib.Data.List.Chain

/-!
# Writes to a store

A store changes in three ways only: cells are made, an unbound class is bound to a type that does not
contain it, and two unbound classes are merged. `Extends` and `Write` say so, with what is known at the
time of each; the theorems of this module say what they preserve. Each keeps a well-formed store
well-formed and forgets nothing (`Grows`), and a write to classes inside a region leaves all that is
outside of it alone.
-/

namespace BlockTypes.Store

open Relation

variable {s s' s'' : Store} {P : CellId → Prop}

/-- The store holds at least what an earlier one did: cells of one class stay in one class, bound
classes keep their types, and no constraint is dropped. -/
structure Grows (s s' : Store) : Prop where
  size : s.size ≤ s'.size
  root : ∀ c d, s.root c = s.root d → s'.root c = s'.root d
  bound : ∀ c t, s.bound? c = some t → s'.bound? c = some t
  constraints : ∀ c, ∀ k ∈ s.constraints c, k ∈ s'.constraints c

/-- The store differs from an earlier one by new cells only. None of them is bound or merged. -/
structure Extends (s s' : Store) : Prop where
  size : s.size ≤ s'.size
  root : ∀ c, s'.root c = s.root c
  bound : ∀ c, s'.bound? c = s.bound? c
  constraints : ∀ c, c < s.size → s'.constraints c = s.constraints c

/-- A write to classes of cells in `P`: a class is bound to a type, or two classes are merged. -/
inductive Write (P : CellId → Prop) (s : Store) : Store → Prop
  | bind {c : CellId} {t : Ty} (inside : c < s.size) (unbound : s.bound? c = none) (inStore : s.Over t)
      (concrete : ∀ v, t ≠ .var v) (fits : Satisfies t (s.constraints c))
      (apart : ¬ s.Contains t c) (target : P c) (region : ∀ v ∈ t.vars, P v.cell) :
      Write P s (s.assign c t)
  | merge {c d : CellId} (apart : s.Apart c d) (left : s.bound? c = none) (right : s.bound? d = none)
      (lower : P c) (upper : P d) : Write P s (s.join c d)

/-- The store after any number of writes. -/
abbrev Writes (P : CellId → Prop) : Store → Store → Prop := ReflTransGen (Write P)

/-- At most one write to classes of cells in `P`, and then new cells. -/
def Move (P : CellId → Prop) (s s' : Store) : Prop := ∃ m, ReflGen (Write P) s m ∧ Extends m s'

/-- The store after any number of moves. -/
abbrev Evolves (P : CellId → Prop) : Store → Store → Prop := ReflTransGen (Move P)

/-- All stores that are passed on the way from `s`: up to the first of them cells are made, and each
further one is a move away. -/
structure Passes (P : CellId → Prop) (s : Store) (l : List Store) : Prop where
  first : ∀ m ∈ l.head?, s.Extends m
  chain : l.IsChain (Move P)

/-! ## Growth -/

theorem Grows.refl (s : Store) : s.Grows s :=
  ⟨Nat.le_refl _, fun _ _ h => h, fun _ _ h => h, fun _ _ h => h⟩

theorem Grows.trans (h : s.Grows s') (h' : s'.Grows s'') : s.Grows s'' where
  size := h.size.trans h'.size
  root c d hcd := h'.root c d (h.root c d hcd)
  bound c t ht := h'.bound c t (h.bound c t ht)
  constraints c k hk := h'.constraints c k (h.constraints c k hk)

theorem Over.grows {t : Ty} (ht : s.Over t) (h : s.Grows s') : s'.Over t :=
  fun v hv => Nat.lt_of_lt_of_le (ht v hv) h.size

theorem Leads.grows {c d : CellId} (hl : s.Leads c d) (h : s.Grows s') : s'.Leads c d := by
  obtain ⟨t, ht, v, hv, hr⟩ := hl
  exact ⟨t, h.bound c t ht, v, hv, h.root _ _ hr⟩

theorem over_arrow {a b : Ty} : s.Over (.arrow a b) ↔ s.Over a ∧ s.Over b :=
  TypeExpr.forall_vars_arrow

theorem eq_empty_of_isEmpty {cs : ConstraintSet} (h : cs.isEmpty = true) : cs = ∅ :=
  SortedSet.ext fun k => iff_of_false (SortedSet.isEmpty_iff.1 h k) (SortedSet.not_mem_empty k)

/-- A type that may take the place of a variable with constraints is a constructor they admit. -/
theorem Satisfies.admitted {t : Ty} {cs : ConstraintSet} (h : Satisfies t cs) (hcs : cs ≠ ∅) :
    ∃ name, t = .con name ∧ cs.Admits name := by
  cases t with
  | con name => exact ⟨name, rfl, h⟩
  | var v => exact absurd (eq_empty_of_isEmpty h) hcs
  | arrow a b => exact absurd (eq_empty_of_isEmpty h) hcs
  | app t a => exact absurd (eq_empty_of_isEmpty h) hcs

/-! ## Making cells -/

theorem Extends.refl (s : Store) : s.Extends s :=
  ⟨Nat.le_refl _, fun _ => rfl, fun _ => rfl, fun _ _ => rfl⟩

theorem Extends.trans (h : s.Extends s') (h' : s'.Extends s'') : s.Extends s'' where
  size := h.size.trans h'.size
  root c := (h'.root c).trans (h.root c)
  bound c := (h'.bound c).trans (h.bound c)
  constraints c hc := (h'.constraints c (hc.trans_le h.size)).trans (h.constraints c hc)

theorem extends_push (s : Store) (cs : ConstraintSet) : s.Extends (s.push cs) where
  size := by simp
  root := root_push s cs
  bound := bound?_push s cs
  constraints c hc := by rw [constraints_push, if_neg (Nat.ne_of_lt hc)]

/-- The number of the next name is no part of what is said about the cells. -/
theorem Extends.withSerial (h : s.Extends s') (serial : Nat) : s.Extends { s' with serial } :=
  ⟨h.size, h.root, h.bound, h.constraints⟩

theorem Extends.leads (h : s.Extends s') : s'.Leads = s.Leads := by
  funext c d
  simp only [Leads, h.bound, h.root]

theorem Extends.grows (h : s.Extends s') : s.Grows s' where
  size := h.size
  root c d hcd := by rwa [h.root, h.root]
  bound c t ht := by rwa [h.bound]
  constraints c k hk := by
    by_cases hc : c < s.size
    · rwa [h.constraints c hc]
    · rw [constraints_of_size_le (Nat.not_lt.1 hc)] at hk
      exact absurd hk (SortedSet.not_mem_empty k)

theorem Extends.wellFormed (h : s.Extends s') (hs : s.WellFormed) : s'.WellFormed where
  inStore c t ht := by
    rw [h.bound] at ht
    exact (hs.inStore c t ht).grows h.grows
  concrete c t ht := by
    rw [h.bound] at ht
    exact hs.concrete c t ht
  acyclic c := by
    rw [h.leads]
    exact hs.acyclic c
  admitted c t ht := by
    rw [h.bound] at ht
    rw [h.constraints c (lt_of_bound ht)]
    exact hs.admitted c t ht

/-! ## Binding a class -/

section Bind

variable {c d e : CellId} {t : Ty}

theorem Contains.trans (h : s.Contains t d) (hd : s.root d = s.root c ∨ TransGen s.Leads d c) :
    s.Contains t c := by
  obtain ⟨v, hv, hvd⟩ := h
  refine ⟨v, hv, ?_⟩
  rcases hvd with hvd | hvd <;> rcases hd with hd | hd
  · exact .inl (hvd.trans hd)
  · exact .inr (leads_trans_congr_left hvd.symm hd)
  · exact .inr (leads_trans_congr_right hd hvd)
  · exact .inr (hvd.trans hd)

theorem leads_assign (hc : c < s.size) :
    (s.assign c t).Leads d e ↔
      (s.root d = s.root c ∧ ∃ v ∈ t.vars, s.root v.cell = s.root e) ∨
        (s.root d ≠ s.root c ∧ s.Leads d e) := by
  simp only [Leads, bound?_assign hc, root_assign]
  by_cases h : s.root d = s.root c
  · simp [h]
  · simp [h]

/-- A way through the store after a class was bound either was there before, or leads through that
class and what it now stands for. -/
theorem leads_trans_assign (hc : c < s.size) (h : TransGen (s.assign c t).Leads d e) :
    TransGen s.Leads d e ∨
      ((s.root d = s.root c ∨ TransGen s.Leads d c) ∧ s.Contains t e) := by
  induction h with
  | single hde =>
    rcases (leads_assign hc).1 hde with ⟨hd, v, hv, hve⟩ | ⟨-, hde⟩
    · exact .inr ⟨.inl hd, v, hv, .inl hve⟩
    · exact .inl (.single hde)
  | tail _ hef ih =>
    rcases (leads_assign hc).1 hef with ⟨he, v, hv, hvf⟩ | ⟨-, hef⟩
    · rcases ih with ih | ⟨ih, -⟩
      · exact .inr ⟨.inr (leads_trans_congr_right he ih), v, hv, .inl hvf⟩
      · exact .inr ⟨ih, v, hv, .inl hvf⟩
    · rcases ih with ih | ⟨ih, hte⟩
      · exact .inl (ih.tail hef)
      · exact .inr ⟨ih, hte.trans (.inr (.single hef))⟩

theorem grows_assign (hc : c < s.size) (hb : s.bound? c = none) : s.Grows (s.assign c t) where
  size := by simp
  root d e h := by simpa using h
  bound d u h := by
    rw [bound?_assign hc, if_neg]
    · exact h
    · intro hd
      rw [bound?_congr hd, hb] at h
      cases h
  constraints d k hk := by simpa using hk

theorem Grounded.assign (hs : s.Grounded) (hc : c < s.size) (inStore : s.Over t)
    (concrete : ∀ v, t ≠ .var v) (apart : ¬ s.Contains t c) : (s.assign c t).Grounded where
  inStore d u h := by
    intro v hv
    rw [size_assign]
    rw [bound?_assign hc] at h
    split at h
    · cases h
      exact inStore v hv
    · exact hs.inStore d u h v hv
  concrete d u h := by
    rw [bound?_assign hc] at h
    split at h
    · cases h
      exact concrete
    · exact hs.concrete d u h
  acyclic d h := by
    rcases leads_trans_assign hc h with h | ⟨hdc, htd⟩
    · exact hs.acyclic d h
    · exact apart (htd.trans hdc)

theorem WellFormed.assign (hs : s.WellFormed) (hc : c < s.size) (inStore : s.Over t)
    (concrete : ∀ v, t ≠ .var v) (fits : Satisfies t (s.constraints c)) (apart : ¬ s.Contains t c) :
    (s.assign c t).WellFormed := by
  refine { hs.grounded.assign hc inStore concrete apart with admitted := fun d u h => ?_ }
  rw [constraints_assign]
  rw [bound?_assign hc] at h
  split at h
  · rename_i hd
    cases h
    rw [constraints_congr hd]
    exact fits.admitted
  · exact hs.admitted d u h

end Bind

/-! ## Merging two classes -/

section Merge

variable {c d x y : CellId}

theorem serial_join (s : Store) (c d : CellId) : (s.join c d).serial = s.serial := by
  unfold join
  split <;> rfl

/-- A merge that succeeds finds one class, or joins two that stand for no type. -/
theorem merge_cases {v w : TypeVar} (h : s.merge v w = .ok s') :
    (s.root v.cell = s.root w.cell ∧ s' = s) ∨
      (s.root v.cell ≠ s.root w.cell ∧ s.bound? v.cell = none ∧ s.bound? w.cell = none ∧
        s' = s.join v.cell w.cell) := by
  unfold merge at h
  split at h
  · rename_i heq
    cases h
    exact .inl ⟨heq, rfl⟩
  · rename_i hne
    split at h
    · cases h
    · rename_i hunbound
      cases h
      simp only [Bool.or_eq_true, not_or, Option.not_isSome_iff_eq_none] at hunbound
      exact .inr ⟨hne, hunbound.1, hunbound.2, rfl⟩

/-- After a merge two cells are in one class if they were before, or if each of them was in one of the two
classes. -/
theorem root_join_eq_iff (apart : s.Apart c d) :
    (s.join c d).root x = (s.join c d).root y ↔ s.root x = s.root y ∨
      ((s.root x = s.root c ∨ s.root x = s.root d) ∧ (s.root y = s.root c ∨ s.root y = s.root d)) := by
  rw [root_join apart, root_join apart]
  have hne := apart.ne
  split <;> split <;> grind

/-- A class with a binding is none of two unbound classes. -/
theorem root_ne_of_bound {t : Ty} (hc : s.bound? c = none) (hx : s.bound? x = some t) :
    s.root x ≠ s.root c := by
  intro h
  rw [bound?_congr h, hc] at hx
  cases hx

theorem bound?_of_bound?_join {t : Ty} (h : s.Apart c d) (hx : (s.join c d).bound? x = some t) :
    s.bound? x = some t := by
  rw [bound?_join h] at hx
  split at hx
  · cases hx
  · exact hx

/-- Merging two unbound classes adds no cell to the class of a bound one. -/
theorem root_eq_of_root_join (h : s.Apart c d) (hc : s.root x ≠ s.root c) (hd : s.root x ≠ s.root d)
    (hxy : (s.join c d).root y = (s.join c d).root x) : s.root y = s.root x := by
  rw [root_join h, root_join h, if_neg hc] at hxy
  split at hxy
  · exact absurd hxy.symm hd
  · exact hxy

/-- A way through the store after two unbound classes were merged ends in the class where a way ended
before. -/
theorem leads_trans_join (h : s.Apart c d) (hc : s.bound? c = none) (hd : s.bound? d = none)
    (hxy : TransGen (s.join c d).Leads x y) :
    ∃ z, (s.join c d).root z = (s.join c d).root y ∧ TransGen s.Leads x z := by
  induction hxy with
  | single hxy =>
    obtain ⟨t, ht, v, hv, hvy⟩ := hxy
    exact ⟨v.cell, hvy, .single ⟨t, bound?_of_bound?_join h ht, v, hv, rfl⟩⟩
  | tail _ hyw ih =>
    obtain ⟨z, hz, hxz⟩ := ih
    obtain ⟨t, ht, v, hv, hvw⟩ := hyw
    have hb := bound?_of_bound?_join h ht
    have hzy := root_eq_of_root_join h (root_ne_of_bound hc hb) (root_ne_of_bound hd hb) hz
    exact ⟨v.cell, hvw, (leads_trans_congr_right hzy hxz).tail ⟨t, hb, v, hv, rfl⟩⟩

theorem grows_join (h : s.Apart c d) (hc : s.bound? c = none) (hd : s.bound? d = none) :
    s.Grows (s.join c d) where
  size := by simp
  root x y hxy := by rw [root_join h, root_join h, hxy]
  bound x t hx := by
    rw [bound?_join h, if_neg]
    · exact hx
    · exact not_or.2 ⟨root_ne_of_bound hc hx, root_ne_of_bound hd hx⟩
  constraints x k hk := by
    rw [constraints_join h]
    split
    · rename_i hx
      rw [SortedSet.mem_union]
      rcases hx with hx | hx
      · exact .inr (constraints_congr hx ▸ hk)
      · exact .inl (constraints_congr hx ▸ hk)
    · exact hk

theorem Grounded.join (hs : s.Grounded) (h : s.Apart c d) (hc : s.bound? c = none)
    (hd : s.bound? d = none) : (s.join c d).Grounded where
  inStore x t hx := (hs.inStore x t (bound?_of_bound?_join h hx)).grows (grows_join h hc hd)
  concrete x t hx := hs.concrete x t (bound?_of_bound?_join h hx)
  acyclic x hx := by
    obtain ⟨z, hz, hxz⟩ := leads_trans_join h hc hd hx
    obtain ⟨t, ht, -⟩ := leads_trans_iff.1 hxz
    have hzx := root_eq_of_root_join h (root_ne_of_bound hc ht) (root_ne_of_bound hd ht) hz
    exact hs.acyclic x (leads_trans_congr_right hzx hxz)

theorem WellFormed.join (hs : s.WellFormed) (h : s.Apart c d) (hc : s.bound? c = none)
    (hd : s.bound? d = none) : (s.join c d).WellFormed := by
  refine { hs.grounded.join h hc hd with admitted := fun x t hx => ?_ }
  have hb := bound?_of_bound?_join h hx
  rw [constraints_join h, if_neg (not_or.2 ⟨root_ne_of_bound hc hb, root_ne_of_bound hd hb⟩)]
  exact hs.admitted x t hb

end Merge

/-! ## Runs of writes -/

theorem Write.grows (h : s.Write P s') : s.Grows s' := by
  cases h with
  | bind inside unbound => exact grows_assign inside unbound
  | merge apart left right => exact grows_join apart left right

theorem Write.wellFormed (h : s.Write P s') (hs : s.WellFormed) : s'.WellFormed := by
  cases h with
  | bind inside unbound inStore concrete fits apart => exact hs.assign inside inStore concrete fits apart
  | merge apart left right => exact hs.join apart left right

theorem Write.grounded (h : s.Write P s') (hs : s.Grounded) : s'.Grounded := by
  cases h with
  | bind inside unbound inStore concrete fits apart => exact hs.assign inside inStore concrete apart
  | merge apart left right => exact hs.join apart left right

theorem Write.size_eq (h : s.Write P s') : s'.size = s.size := by
  cases h <;> simp

theorem Writes.grows (h : Writes P s s') : s.Grows s' := by
  induction h with
  | refl => exact .refl s
  | tail _ h ih => exact ih.trans h.grows

theorem Writes.wellFormed (h : Writes P s s') (hs : s.WellFormed) : s'.WellFormed := by
  induction h with
  | refl => exact hs
  | tail _ h ih => exact h.wellFormed ih

theorem Writes.grounded (h : Writes P s s') (hs : s.Grounded) : s'.Grounded := by
  induction h with
  | refl => exact hs
  | tail _ h ih => exact h.grounded ih

theorem Writes.size_eq (h : Writes P s s') : s'.size = s.size := by
  induction h with
  | refl => rfl
  | tail _ h ih => exact h.size_eq.trans ih

theorem wellFormed_empty : (∅ : Store).WellFormed := by
  have unbound : ∀ c, (∅ : Store).bound? c = none := fun c => bound?_of_size_le (Nat.zero_le c)
  refine ⟨fun c t h => ?_, fun c t h => ?_, fun c h => ?_, fun c t h => ?_⟩
  · rw [unbound] at h; cases h
  · rw [unbound] at h; cases h
  · obtain ⟨t, ht, -⟩ := leads_trans_iff.1 h
    rw [unbound] at ht; cases ht
  · rw [unbound] at h; cases h

/-! ## Regions -/

/-- All variables of the type have cells of the store in `P`. -/
def Within (P : CellId → Prop) (s : Store) (t : Ty) : Prop := ∀ v ∈ t.vars, v.cell < s.size ∧ P v.cell

theorem Within.inStore {t : Ty} (h : s.Within P t) : s.Over t := fun v hv => (h v hv).1

theorem Within.grows {t : Ty} (ht : s.Within P t) (h : s.Grows s') : s'.Within P t :=
  fun v hv => ⟨(ht v hv).1.trans_le h.size, (ht v hv).2⟩

theorem Over.within {t : Ty} (h : s.Over t) : s.Within (fun _ => True) t := fun v hv => ⟨h v hv, trivial⟩

/-- A set of cells that has whole classes only, and with a class all that it leads to. -/
structure Region (P : CellId → Prop) (s : Store) : Prop where
  root : ∀ c, P (s.root c) ↔ P c
  bound : ∀ c t, P c → s.bound? c = some t → ∀ v ∈ t.vars, P v.cell

/-- The two stores say the same about the cell. -/
structure Agrees (s s' : Store) (c : CellId) : Prop where
  root : s'.root c = s.root c
  bound : s'.bound? c = s.bound? c
  constraints : s'.constraints c = s.constraints c

theorem Agrees.symm {c : CellId} (h : s.Agrees s' c) : s'.Agrees s c :=
  ⟨h.root.symm, h.bound.symm, h.constraints.symm⟩

theorem Agrees.trans {c : CellId} (h : s.Agrees s' c) (h' : s'.Agrees s'' c) : s.Agrees s'' c :=
  ⟨h'.root.trans h.root, h'.bound.trans h.bound, h'.constraints.trans h.constraints⟩

theorem Region.root_ne {c d : CellId} (hP : Region P s) (hc : ¬ P c) (hd : P d) :
    s.root c ≠ s.root d := by
  intro h
  exact hc ((hP.root c).1 (h ▸ (hP.root d).2 hd))

theorem Region.leads {c d : CellId} (hP : Region P s) (hc : P c) (h : s.Leads c d) : P d := by
  obtain ⟨t, ht, v, hv, hvd⟩ := h
  exact (hP.root d).1 (hvd ▸ (hP.root v.cell).2 (hP.bound c t hc ht v hv))

/-- What can be reached from types in a region is in the region. -/
theorem Region.contains {t : Ty} {c : CellId} (hP : Region P s) (ht : ∀ v ∈ t.vars, P v.cell)
    (h : s.Contains t c) : P c := by
  obtain ⟨v, hv, hvc | hvc⟩ := h
  · exact (hP.root c).1 (hvc ▸ (hP.root v.cell).2 (ht v hv))
  · induction hvc with
    | single hl => exact hP.leads (ht v hv) hl
    | tail _ hl ih => exact hP.leads ih hl

theorem Write.region (h : s.Write P s') (hP : Region P s) : Region P s' := by
  cases h with
  | @bind c t inside unbound inStore concrete fits apart target region =>
    refine ⟨fun d => by simpa using hP.root d, fun d u hd hu => ?_⟩
    rw [bound?_assign inside] at hu
    split at hu
    · cases hu
      exact region
    · exact hP.bound d u hd hu
  | @merge c d apart left right lower upper =>
    refine ⟨fun e => ?_, fun e t he ht => hP.bound e t he (bound?_of_bound?_join apart ht)⟩
    rw [root_join apart]
    split
    · rename_i he
      refine iff_of_true ((hP.root d).2 upper) ((hP.root e).1 ?_)
      rw [he]
      exact (hP.root c).2 lower
    · exact hP.root e

/-- A write to classes in a region changes nothing outside of it. -/
theorem Write.outside (h : s.Write P s') (hP : Region P s) {c : CellId} (hc : ¬ P c) :
    s.Agrees s' c := by
  cases h with
  | bind inside unbound inStore concrete fits apart target region =>
    refine ⟨by simp, ?_, by simp⟩
    rw [bound?_assign inside, if_neg (hP.root_ne hc target)]
  | merge apart left right lower upper =>
    have hl := hP.root_ne hc lower
    have hu := hP.root_ne hc upper
    refine ⟨?_, ?_, ?_⟩
    · rw [root_join apart, if_neg hl]
    · rw [bound?_join apart, if_neg (not_or.2 ⟨hl, hu⟩)]
    · rw [constraints_join apart, if_neg (not_or.2 ⟨hl, hu⟩)]

theorem Writes.region (h : Writes P s s') (hP : Region P s) : Region P s' := by
  induction h with
  | refl => exact hP
  | tail _ h ih => exact h.region ih

theorem Writes.outside (h : Writes P s s') (hP : Region P s) {c : CellId} (hc : ¬ P c) :
    s.Agrees s' c := by
  induction h with
  | refl => exact ⟨rfl, rfl, rfl⟩
  | tail hw h ih => exact ih.trans (h.outside (Writes.region hw hP) hc)

theorem Extends.agrees (h : s.Extends s') {c : CellId} (hc : c < s.size) : s.Agrees s' c :=
  ⟨h.root c, h.bound c, h.constraints c hc⟩

theorem Extends.region (h : s.Extends s') (hP : Region P s) : Region P s' := by
  refine ⟨fun c => ?_, fun c t hc ht => ?_⟩
  · rw [h.root]
    exact hP.root c
  · rw [h.bound] at ht
    exact hP.bound c t hc ht

/-! ## Moves -/

theorem Extends.move (h : s.Extends s') : s.Move P s' := ⟨s, .refl, h⟩

theorem Write.move (h : s.Write P s') : s.Move P s' := ⟨s', .single h, .refl s'⟩

theorem Move.thenExtends (h : s.Move P s') (h' : s'.Extends s'') : s.Move P s'' := by
  obtain ⟨m, hw, he⟩ := h
  exact ⟨m, hw, he.trans h'⟩

theorem Move.writes_extends (h : s.Move P s') : ∃ m, Writes P s m ∧ m.Extends s' := by
  obtain ⟨m, hw, he⟩ := h
  exact ⟨m, hw.to_reflTransGen, he⟩

theorem Evolves.grows (h : Evolves P s s') : s.Grows s' := by
  induction h with
  | refl => exact .refl s
  | tail _ h ih =>
    obtain ⟨m, hw, he⟩ := h.writes_extends
    exact (ih.trans (Writes.grows hw)).trans he.grows

theorem Evolves.wellFormed (h : Evolves P s s') (hs : s.WellFormed) : s'.WellFormed := by
  induction h with
  | refl => exact hs
  | tail _ h ih =>
    obtain ⟨m, hw, he⟩ := h.writes_extends
    exact he.wellFormed (Writes.wellFormed hw ih)

theorem Evolves.region (h : Evolves P s s') (hP : Region P s) : Region P s' := by
  induction h with
  | refl => exact hP
  | tail _ h ih =>
    obtain ⟨m, hw, he⟩ := h.writes_extends
    exact he.region (Writes.region hw ih)

/-- However a store evolves within a region, nothing changes outside of it. -/
theorem Evolves.outside (h : Evolves P s s') (hP : Region P s) {c : CellId} (hc : c < s.size)
    (hPc : ¬ P c) : s.Agrees s' c := by
  induction h with
  | refl => exact ⟨rfl, rfl, rfl⟩
  | @tail b d hev h ih =>
    obtain ⟨m, hw, he⟩ := h.writes_extends
    have hm : c < m.size := by
      rw [Writes.size_eq hw]
      exact hc.trans_le (Evolves.grows hev).size
    exact (ih.trans (Writes.outside hw (Evolves.region hev hP) hPc)).trans (he.agrees hm)

theorem Passes.evolves {l : List Store} (h : Passes P s l) : ∀ m ∈ l, Evolves P s m := by
  have hchain : (s :: l).IsChain (Evolves P) := by
    rw [List.isChain_cons]
    exact ⟨fun m hm => .single (h.first m hm).move, h.chain.imp fun _ _ hm => .single hm⟩
  exact fun m hm => List.rel_of_pairwise_cons (List.isChain_iff_pairwise.1 hchain) hm

theorem Extends.passes {l : List Store} (h : s.Extends s') (h' : Passes P s' l) : Passes P s l :=
  ⟨fun m hm => h.trans (h'.first m hm), h'.chain⟩

theorem Extends.passes_single (h : s.Extends s') : Passes P s [s'] := by
  refine ⟨fun m hm => ?_, .singleton s'⟩
  cases hm
  exact h

/-- The store between two ways need not be passed itself: nothing is written when the second sets
out from it. -/
theorem Passes.append {l l' : List Store} {m : Store} (h : Passes P s (l ++ [m]))
    (h' : Passes P m l') : Passes P s (l ++ l') := by
  rcases List.eq_nil_or_concat l with rfl | ⟨l, x, rfl⟩
  · exact ⟨fun y hy => (h.first m (by simp)).trans (h'.first y hy), h'.chain⟩
  · rw [List.concat_eq_append] at *
    have hx : x.Move P m := by
      have := h.chain
      rw [List.append_assoc, List.singleton_append] at this
      exact (List.isChain_append_cons_cons.1 this).2.1
    refine ⟨fun y hy => h.first y ?_, List.isChain_append.2 ⟨?_, h'.chain, fun y hy z hz => ?_⟩⟩
    · simpa using hy
    · exact (List.isChain_append.1 h.chain).1
    · obtain rfl : x = y := by simpa using hy
      exact hx.thenExtends (h'.first z hz)

end BlockTypes.Store
