import BlockTypes.Proofs.Store.Copy
import Mathlib.Data.Finset.Card

/-!
# Copies as renamings

A copy of a type is the resolved type with its classes renamed: each class that is left unbound has a new
cell of its own, and no more cells than these are made (`instantiate_renames`). `instantiate` goes over the
type three times, to resolve it, to make the new variables and to put them in. `Copied` goes over it once:
it looks through bindings as they are met, with the table of the new variables in hand, and comes to the
same type and the same store.
-/

namespace BlockTypes.Store

variable {s : Store} {r r' : Renewal} {t t' : Ty} {v w : TypeVar} {c : CellId}

/-- The classes that are left in a type when it is resolved. -/
def freeClasses (s : Store) (t : Ty) : Finset CellId :=
  ((s.resolve t).vars.map fun v => s.root v.cell).toFinset

theorem mem_freeClasses : c ∈ s.freeClasses t ↔ ∃ v ∈ (s.resolve t).vars, s.root v.cell = c := by
  simp [freeClasses]

/-- A type is copied from left to right in one walk, that starts with one table of new variables and ends
with another. -/
inductive Copied (s : Store) : Renewal → Ty → Ty → Renewal → Prop
  | unbound {r : Renewal} {v w : TypeVar} (unbound : s.bound? v.cell = none)
      (copy : (r.add s v).copies.lookup (s.root v.cell) = some w) :
      Copied s r (.var v) (.var w) (r.add s v)
  | bound {r r' : Renewal} {v : TypeVar} {t t' : Ty} (bound : s.bound? v.cell = some t)
      (next : Copied s r t t' r') : Copied s r (.var v) t' r'
  | con {r : Renewal} {name : String} : Copied s r (.con name) (.con name) r
  | arrow {r m r' : Renewal} {a a' b b' : Ty} (left : Copied s r a a' m) (right : Copied s m b b' r') :
      Copied s r (.arrow a b) (.arrow a' b') r'
  | app {r m r' : Renewal} {t t' a a' : Ty} (left : Copied s r t t' m) (right : Copied s m a a' r') :
      Copied s r (.app t a) (.app t' a') r'

/-! ## The table of new variables -/

theorem lookup_add (h : r.copies.lookup c = some w) : (r.add s v).copies.lookup c = some w := by
  unfold Renewal.add
  split
  · exact h
  · rename_i hnew
    have hc : c ≠ s.root v.cell := by
      rintro rfl
      rw [hnew] at h
      cases h
    rw [List.lookup_cons, beq_false_of_ne hc]
    exact h

theorem exists_lookup_add (s : Store) (r : Renewal) (v : TypeVar) :
    ∃ w, (r.add s v).copies.lookup (s.root v.cell) = some w := by
  unfold Renewal.add
  split
  · exact ⟨_, ‹_›⟩
  · exact ⟨_, List.lookup_cons_self⟩

theorem lookup_foldl_add {vs : List TypeVar} (h : r.copies.lookup c = some w) :
    (vs.foldl (Renewal.add s) r).copies.lookup c = some w := by
  induction vs generalizing r with
  | nil => exact h
  | cons v vs ih => exact ih (lookup_add h)

theorem exists_lookup_foldl_add {vs : List TypeVar} (hv : v ∈ vs) :
    ∃ w, (vs.foldl (Renewal.add s) r).copies.lookup (s.root v.cell) = some w := by
  induction vs generalizing r with
  | nil => cases hv
  | cons u vs ih =>
    rcases List.mem_cons.1 hv with rfl | hv
    · obtain ⟨w, hw⟩ := exists_lookup_add s r v
      exact ⟨w, lookup_foldl_add (r := r.add s v) hw⟩
    · exact ih hv

/-- A renaming that follows the table at the end has followed it all the time. -/
theorem lookup_foldl_add_of_append {vs us : List TypeVar} {ρ : CellId → TypeVar} (hv : v ∈ vs)
    (h : ((vs ++ us).foldl (Renewal.add s) r).copies.lookup (s.root v.cell) = some (ρ (s.root v.cell))) :
    (vs.foldl (Renewal.add s) r).copies.lookup (s.root v.cell) = some (ρ (s.root v.cell)) := by
  obtain ⟨w, hw⟩ := exists_lookup_foldl_add (s := s) (r := r) hv
  rw [List.foldl_append, lookup_foldl_add hw] at h
  rw [hw, h]

/-- As many cells and names are made as there are classes. -/
theorem renew_count (s : Store) (vs : List TypeVar) :
    (s.renew vs).store.size = s.size + (vs.map fun v => s.root v.cell).toFinset.card ∧
      (s.renew vs).store.serial = s.serial + (vs.map fun v => s.root v.cell).toFinset.card := by
  induction vs using List.reverseRecOn with
  | nil => exact ⟨rfl, rfl⟩
  | append_singleton vs v ih =>
    obtain ⟨hsize, hserial⟩ := ih
    obtain ⟨-, covers, keys⟩ := renew_makes s vs
    have hclasses : ((vs ++ [v]).map fun v => s.root v.cell).toFinset =
        insert (s.root v.cell) (vs.map fun v => s.root v.cell).toFinset := by
      simp [List.toFinset_append, Finset.union_comm]
    rw [renew_append, hclasses, Renewal.add]
    split
    · rename_i w hw
      have hold : s.root v.cell ∈ (vs.map fun v => s.root v.cell).toFinset := by
        simpa using keys _ w hw
      rw [Finset.insert_eq_of_mem hold]
      exact ⟨hsize, hserial⟩
    · rename_i hnew
      have hnot : s.root v.cell ∉ (vs.map fun v => s.root v.cell).toFinset := by
        intro hmem
        obtain ⟨u, hu, huv⟩ : ∃ u ∈ vs, s.root u.cell = s.root v.cell := by simpa using hmem
        obtain ⟨w, hw⟩ := covers u hu
        rw [huv, hnew] at hw
        cases hw
      rw [Finset.card_insert_of_notMem hnot, ← Nat.add_assoc, ← Nat.add_assoc, ← hsize, ← hserial]
      exact ⟨size_fresh (s.renew vs).store v.name (s.constraints v.cell), rfl⟩

/-! ## Copies in one walk -/

theorem copied_resolve (hs : s.WellFormed) (ρ : CellId → TypeVar) (r : Renewal) (t : Ty)
    (h : ∀ v ∈ (s.resolve t).vars,
      ((s.resolve t).vars.foldl (Renewal.add s) r).copies.lookup (s.root v.cell) =
        some (ρ (s.root v.cell))) :
    Copied s r t ((s.resolve t).map fun v => ρ (s.root v.cell))
      ((s.resolve t).vars.foldl (Renewal.add s) r) := by
  induction t using hs.through generalizing r with
  | unbound v hv =>
    rw [hs.resolve_unbound hv] at h ⊢
    exact .unbound hv (h v (by simp [TypeExpr.vars]))
  | bound v t hv ih =>
    rw [hs.resolve_bound hv] at h ⊢
    exact .bound hv (ih r h)
  | con name =>
    rw [resolve_con]
    exact .con
  | arrow a b iha ihb =>
    rw [resolve_arrow] at h ⊢
    obtain ⟨ha, hb⟩ := TypeExpr.forall_vars_arrow.1 h
    rw [TypeExpr.vars, List.foldl_append]
    rw [TypeExpr.vars, List.foldl_append] at hb
    exact .arrow (iha r fun v hv => lookup_foldl_add_of_append hv (ha v hv)) (ihb _ hb)
  | app t a iht iha =>
    rw [resolve_app] at h ⊢
    obtain ⟨ht, ha⟩ := TypeExpr.forall_vars_app.1 h
    rw [TypeExpr.vars, List.foldl_append]
    rw [TypeExpr.vars, List.foldl_append] at ha
    exact .app (iht r fun v hv => lookup_foldl_add_of_append hv (ht v hv)) (iha _ ha)

/-- A copy of a type is the resolved type with the classes that are left in it renamed, each to a new
unbound cell of its own that has its constraints. Nothing else is made, and nothing that was there before
changes. One walk over the type itself makes the same copy. -/
theorem instantiate_renames (s : Store) (t : Ty) (hs : s.WellFormed) :
    let after := (s.instantiate t).2
    let free := s.freeClasses t
    ∃ ρ : CellId → TypeVar,
      (s.instantiate t).1 = ((s.resolve t).map fun v => ρ (s.root v.cell)) ∧
      (∃ copies, Copied s ⟨s, []⟩ t (s.instantiate t).1 ⟨after, copies⟩) ∧
      Set.InjOn (fun c => (ρ c).cell) free ∧
      (∀ c ∈ free, s.bound? c = none ∧ (s.size ≤ (ρ c).cell ∧ (ρ c).cell < after.size) ∧
        after.root (ρ c).cell = (ρ c).cell ∧ after.bound? (ρ c).cell = none ∧
        after.constraints (ρ c).cell = s.constraints c) ∧
      (∀ c < s.size, s.Agrees after c) ∧
      after.size = s.size + free.card ∧ after.serial = s.serial + free.card := by
  intro after free
  let table := s.renew (s.resolve t).vars
  obtain ⟨makes, covers, -⟩ := renew_makes s (s.resolve t).vars
  have hextends := instantiate_extends s t
  let ρ : CellId → TypeVar := fun c => (table.copies.lookup c).getD ⟨"", c⟩
  have hρ : ∀ v ∈ (s.resolve t).vars,
      table.copies.lookup (s.root v.cell) = some (ρ (s.root v.cell)) := by
    intro v hv
    obtain ⟨w, hw⟩ := covers v hv
    simp only [ρ, table, hw, Option.getD_some]
  have hfree : ∀ c ∈ free, table.copies.lookup c = some (ρ c) := by
    intro c hc
    obtain ⟨v, hv, rfl⟩ := mem_freeClasses.1 hc
    exact hρ v hv
  have hcopy : (s.instantiate t).1 = (s.resolve t).map fun v => ρ (s.root v.cell) := by
    show ((s.resolve t).map fun v => (table.copies.lookup (s.root v.cell)).getD v) = _
    rw [TypeExpr.map_eq_bind, TypeExpr.map_eq_bind]
    refine TypeExpr.bind_congr fun v hv => ?_
    rw [hρ v hv, Option.getD_some]
  refine ⟨ρ, hcopy, ⟨table.copies, ?_⟩, fun c hc d hd heq => ?_, fun c hc => ?_, fun c hc => ?_, ?_⟩
  · rw [hcopy]
    exact copied_resolve hs ρ ⟨s, []⟩ t hρ
  · exact makes.key_eq (hfree c hc) (hfree d hd) heq
  · obtain ⟨v, hv, rfl⟩ := mem_freeClasses.1 hc
    obtain ⟨hlow, hhigh, hcs⟩ := makes.cell (hfree _ hc)
    refine ⟨?_, ⟨hlow, hhigh⟩, ?_, ?_, hcs⟩
    · rw [bound?_congr (root_root s v.cell)]
      exact hs.unbound_of_mem_resolve t v hv
    · rw [hextends.root, root_of_size_le hlow]
    · rw [hextends.bound, bound?_of_size_le hlow]
  · exact hextends.agrees hc
  · exact renew_count s (s.resolve t).vars

/-- Two variables of one class have one copy, whatever their names, and one of them is met behind a
binding. A third has the name of the first and a copy of its own. -/
theorem instantiate_renames_merged :
    let num : ConstraintSet := .ofList [⟨"Num", .ofList ["Int"]⟩]
    let x : Ty := .var ⟨"x", 0⟩
    let y : Ty := .var ⟨"y", 1⟩
    let other : Ty := .var ⟨"x", 2⟩
    let xs : Ty := .var ⟨"xs", 3⟩
    let made := ((((∅ : Store).push num).push ∅).push ∅).push ∅
    let s := (made.join 0 1).assign 3 (.listOf x)
    let t : Ty := .arrow (.arrow xs y) other
    s.WellFormed ∧
      (s.instantiate t).1 =
        .arrow (.arrow (.listOf (.var ⟨"x0", 4⟩)) (.var ⟨"x0", 4⟩)) (.var ⟨"x1", 5⟩) ∧
      (s.instantiate t).2.serial = s.serial + 2 ∧
      ∃ ρ : CellId → TypeVar,
        (s.instantiate t).1 = ((s.resolve t).map fun v => ρ (s.root v.cell)) ∧
        Set.InjOn (fun c => (ρ c).cell) (s.freeClasses t) ∧
        ∀ c ∈ s.freeClasses t, (s.instantiate t).2.constraints (ρ c).cell = s.constraints c := by
  intro num x y other xs made s t
  have hmade : made.WellFormed :=
    (extends_push _ ∅).wellFormed ((extends_push _ ∅).wellFormed
      ((extends_push _ ∅).wellFormed ((extends_push _ num).wellFormed wellFormed_empty)))
  have hjoin : (made.join 0 1).WellFormed :=
    hmade.join (by decide) (by decide) (by decide)
  have hs : s.WellFormed :=
    hjoin.assign (by decide) (by decide) (by simp [TypeExpr.listOf]) (by decide)
      (mt (hjoin.grounded.occurs_iff ⟨"xs", 3⟩ _).2 (by decide))
  have hcard : (s.freeClasses t).card = 2 := by decide +kernel
  obtain ⟨ρ, hcopy, -, hinj, hnew, -, -, hserial⟩ := instantiate_renames s t hs
  rw [hcard] at hserial
  exact ⟨hs, by decide +kernel, hserial, ρ, hcopy, hinj, fun c hc => (hnew c hc).2.2.2.2⟩

end BlockTypes.Store
