import BlockTypes.Store.Forest

/-!
# The store of type variables

A store holds the cells of all type variables made so far, and the number for the next generated
name. It is seen through three questions about a cell: which root its class has (`root`), which type
the class stands for (`bound?`), and which classes constrain it (`constraints`). The operations that
change a store are making a variable, merging two unbound classes and binding one; each shortens the
links it follows, which none of the three questions can see.
-/

namespace BlockTypes

/-- Cells, with a bound on the length of their chains of links, and the number that the next
generated name gets. -/
structure Store where
  cells : Array Cell
  height : Nat
  serial : Nat
  climbs_end : ∀ c, ¬ Forest.IsLink cells (Forest.climb cells height c)
  links_inside : ∀ c p : CellId, cells[c]? = some (.link p) → p < cells.size
deriving DecidableEq

namespace Store

/-- The store without variables. -/
def empty : Store where
  cells := #[]
  height := 0
  serial := 0
  climbs_end c := by simp [Forest.IsLink]
  links_inside c p h := by simp at h

instance : EmptyCollection Store := ⟨empty⟩

instance : Inhabited Store := ⟨∅⟩

/-- The number of cells. -/
def size (s : Store) : Nat := s.cells.size

/-! ## Questions -/

/-- The root of the class of a cell. -/
def root (s : Store) (c : CellId) : CellId := Forest.climb s.cells s.height c

/-- The type that the class of a cell stands for. -/
def bound? (s : Store) (c : CellId) : Option Ty :=
  match s.cells[s.root c]? with
  | some (.root bound _) => bound
  | _ => none

/-- The type classes that constrain the class of a cell. -/
def constraints (s : Store) (c : CellId) : ConstraintSet :=
  match s.cells[s.root c]? with
  | some (.root _ cs) => cs
  | _ => ∅

/-- The type with each variable replaced by the root of its class. -/
def classes (s : Store) (t : Ty) : TypeExpr CellId := t.map fun v => s.root v.cell

/-- The two types are equal as they are written, merged variables counting as one. Neither is looked
into through what its variables stand for. -/
def Same (s : Store) (t u : Ty) : Prop := s.classes t = s.classes u

instance (s : Store) (t u : Ty) : Decidable (s.Same t u) :=
  inferInstanceAs (Decidable (s.classes t = s.classes u))

theorem not_isLink_root (s : Store) (c : CellId) : ¬ Forest.IsLink s.cells (s.root c) :=
  s.climbs_end c

theorem root_of_not_isLink {s : Store} {c : CellId} (h : ¬ Forest.IsLink s.cells c) :
    s.root c = c :=
  Forest.climb_of_not_isLink h s.height

@[simp] theorem root_root (s : Store) (c : CellId) : s.root (s.root c) = s.root c :=
  root_of_not_isLink (s.not_isLink_root c)

theorem root_of_size_le {s : Store} {c : CellId} (h : s.size ≤ c) : s.root c = c := by
  refine root_of_not_isLink ?_
  rintro ⟨p, hp⟩
  have := (Array.getElem?_eq_some_iff.1 hp).1
  exact absurd this (Nat.not_lt.2 h)

theorem climb_lt {s : Store} {c : CellId} (h : c < s.size) (n : Nat) :
    Forest.climb s.cells n c < s.size := by
  induction n generalizing c with
  | zero => exact h
  | succ n ih =>
    rw [Forest.climb]
    split
    · rename_i p hp
      exact ih (s.links_inside c p hp)
    · exact h

theorem root_lt {s : Store} {c : CellId} (h : c < s.size) : s.root c < s.size :=
  climb_lt h s.height

/-! ## Shorter links -/

/-- Points every cell on the way from `c` to its root straight at that root. -/
def shorten (s : Store) (c : CellId) : Store where
  cells := Forest.compress s.cells (s.root c) s.height c
  height := s.height
  serial := s.serial
  climbs_end d := by
    rw [Forest.climb_compress (show Forest.climb s.cells s.height c = s.root c from rfl)
      (s.not_isLink_root c) (s.climbs_end d)]
    rintro ⟨p, hp⟩
    rw [Forest.getElem?_compress (s.climbs_end d)] at hp
    exact s.climbs_end d ⟨p, hp⟩
  links_inside e q h := by
    rw [Forest.size_compress]
    rcases Forest.link_compress h with h | rfl
    · exact s.links_inside e q h
    · by_cases hc : c < s.size
      · exact root_lt hc
      · have hnot : ¬ Forest.IsLink s.cells c := by
          rintro ⟨p, hp⟩
          exact hc (Array.getElem?_eq_some_iff.1 hp).1
        have hsame : ∀ m, Forest.compress s.cells (s.root c) m c = s.cells := by
          intro m
          cases m with
          | zero => rfl
          | succ m =>
            rw [Forest.compress]
            split
            · rename_i p hp
              exact absurd ⟨p, hp⟩ hnot
            · rfl
        rw [hsame] at h
        exact s.links_inside e _ h

@[simp] theorem size_shorten (s : Store) (c : CellId) : (s.shorten c).size = s.size :=
  Forest.size_compress

@[simp] theorem root_shorten (s : Store) (c d : CellId) : (s.shorten c).root d = s.root d :=
  Forest.climb_compress rfl (s.not_isLink_root c) (s.climbs_end d)

theorem cell_shorten (s : Store) (c d : CellId) :
    (s.shorten c).cells[s.root d]? = s.cells[s.root d]? :=
  Forest.getElem?_compress (s.not_isLink_root d)

@[simp] theorem bound?_shorten (s : Store) (c d : CellId) : (s.shorten c).bound? d = s.bound? d := by
  rw [bound?, bound?, root_shorten, cell_shorten]

@[simp] theorem constraints_shorten (s : Store) (c d : CellId) :
    (s.shorten c).constraints d = s.constraints d := by
  rw [constraints, constraints, root_shorten, cell_shorten]

/-! ## Making variables -/

/-- The store with one more cell, unbound and constrained by `cs`. -/
def push (s : Store) (cs : ConstraintSet) : Store where
  cells := s.cells.push (.root none cs)
  height := s.height
  serial := s.serial
  climbs_end d := by
    rw [Forest.climb_congr (Forest.link_push none cs)]
    rintro ⟨p, hp⟩
    exact s.climbs_end d ⟨p, (Forest.link_push none cs _ p).1 hp⟩
  links_inside e q h := by
    rw [Array.size_push]
    exact Nat.lt_succ_of_lt (s.links_inside e q ((Forest.link_push none cs e q).1 h))

/-- Makes a variable of the given name. -/
def newVar (s : Store) (name : String) (cs : ConstraintSet) : TypeVar × Store :=
  (⟨name, s.size⟩, s.push cs)

/-- Makes a variable whose name is `stem` and the next number. -/
def fresh (s : Store) (stem : String) (cs : ConstraintSet) : TypeVar × Store :=
  (⟨stem ++ toString s.serial, s.size⟩, { s.push cs with serial := s.serial + 1 })

/-- The store with the numbers of generated names starting again at zero. -/
def restart (s : Store) : Store := { s with serial := 0 }

@[simp] theorem size_push (s : Store) (cs : ConstraintSet) : (s.push cs).size = s.size + 1 :=
  Array.size_push _

@[simp] theorem root_push (s : Store) (cs : ConstraintSet) (d : CellId) :
    (s.push cs).root d = s.root d :=
  Forest.climb_congr (Forest.link_push none cs) s.height d

theorem cell_push_of_ne {s : Store} {d : CellId} (h : d ≠ s.size) (cs : ConstraintSet) :
    (s.push cs).cells[d]? = s.cells[d]? := by
  show (s.cells.push _)[d]? = _
  rw [Array.getElem?_push, if_neg (show d ≠ s.cells.size from h)]

theorem cell_push_self (s : Store) (cs : ConstraintSet) :
    (s.push cs).cells[s.size]? = some (.root none cs) := by
  show (s.cells.push _)[s.cells.size]? = _
  rw [Array.getElem?_push, if_pos rfl]

theorem root_ne_size {s : Store} {d : CellId} (h : d ≠ s.size) : s.root d ≠ s.size := by
  by_cases hd : d < s.size
  · exact Nat.ne_of_lt (root_lt hd)
  · rw [root_of_size_le (Nat.not_lt.1 hd)]
    exact h

@[simp] theorem bound?_push (s : Store) (cs : ConstraintSet) (d : CellId) :
    (s.push cs).bound? d = s.bound? d := by
  rw [bound?, bound?, root_push]
  by_cases h : d = s.size
  · subst h
    rw [root_of_size_le (Nat.le_refl _), cell_push_self]
    show none = match s.cells[s.cells.size]? with
      | some (.root bound _) => bound
      | _ => none
    rw [Array.getElem?_size]
  · rw [cell_push_of_ne (root_ne_size h)]

theorem constraints_push (s : Store) (cs : ConstraintSet) (d : CellId) :
    (s.push cs).constraints d = if d = s.size then cs else s.constraints d := by
  rw [constraints, constraints, root_push]
  by_cases h : d = s.size
  · subst h
    rw [root_of_size_le (Nat.le_refl _), cell_push_self, if_pos rfl]
  · rw [cell_push_of_ne (root_ne_size h), if_neg h]

/-! ## Binding -/

/-- The store in which the class of `c` stands for `t`. -/
def assign (s : Store) (c : CellId) (t : Ty) : Store where
  cells := (s.shorten c).cells.setIfInBounds (s.root c) (.root (some t) (s.constraints c))
  height := s.height
  serial := s.serial
  climbs_end d := by
    have h := (s.shorten c).not_isLink_root c
    rw [root_shorten] at h
    rw [Forest.climb_congr (Forest.link_set_root h _ _)]
    rintro ⟨p, hp⟩
    exact (s.shorten c).climbs_end d ⟨p, (Forest.link_set_root h _ _ _ p).1 hp⟩
  links_inside e q hq := by
    have h := (s.shorten c).not_isLink_root c
    rw [root_shorten] at h
    rw [Array.size_setIfInBounds]
    exact (s.shorten c).links_inside e q ((Forest.link_set_root h _ _ e q).1 hq)

@[simp] theorem size_assign (s : Store) (c : CellId) (t : Ty) : (s.assign c t).size = s.size := by
  show Array.size (Array.setIfInBounds _ _ _) = _
  rw [Array.size_setIfInBounds]
  exact size_shorten s c

@[simp] theorem root_assign (s : Store) (c : CellId) (t : Ty) (d : CellId) :
    (s.assign c t).root d = s.root d := by
  have h := (s.shorten c).not_isLink_root c
  rw [root_shorten] at h
  rw [← root_shorten s c d]
  exact Forest.climb_congr (Forest.link_set_root h _ _) s.height d

theorem cell_assign_self {s : Store} {c : CellId} (hc : c < s.size) (t : Ty) :
    (s.assign c t).cells[s.root c]? = some (.root (some t) (s.constraints c)) := by
  show (Array.setIfInBounds _ _ _)[_]? = _
  have h : s.root c < (s.shorten c).cells.size := by
    have := size_shorten s c
    exact (show (s.shorten c).cells.size = s.size from this) ▸ root_lt hc
  rw [Array.getElem?_setIfInBounds, if_pos rfl, if_pos h]

theorem cell_assign_of_ne {s : Store} {c d : CellId} (h : s.root d ≠ s.root c) (t : Ty) :
    (s.assign c t).cells[s.root d]? = s.cells[s.root d]? := by
  show (Array.setIfInBounds _ _ _)[_]? = _
  rw [Array.getElem?_setIfInBounds, if_neg (Ne.symm h)]
  exact cell_shorten s c d

theorem bound?_assign {s : Store} {c : CellId} (hc : c < s.size) (t : Ty) (d : CellId) :
    (s.assign c t).bound? d = if s.root d = s.root c then some t else s.bound? d := by
  by_cases h : s.root d = s.root c
  · rw [if_pos h, bound?, root_assign, h, cell_assign_self hc]
  · rw [if_neg h, bound?, bound?, root_assign, cell_assign_of_ne h]

@[simp] theorem constraints_assign (s : Store) (c : CellId) (t : Ty) (d : CellId) :
    (s.assign c t).constraints d = s.constraints d := by
  by_cases h : s.root d = s.root c
  · by_cases hc : c < s.size
    · rw [constraints, root_assign, h, cell_assign_self hc]
      show s.constraints c = s.constraints d
      rw [constraints, constraints, h]
    · have hr : s.root c = c := root_of_size_le (Nat.not_lt.1 hc)
      have hout : ∀ u : Store, u.size = s.size → u.cells[s.root d]? = none := by
        intro u hu
        rw [h, hr]
        exact Array.getElem?_eq_none (show u.size ≤ c from hu ▸ Nat.not_lt.1 hc)
      rw [constraints, constraints, root_assign, hout _ (size_assign s c t), hout s rfl]
  · rw [constraints, constraints, root_assign, cell_assign_of_ne h]

/-! ## Merging -/

/-- Two cells of the store whose classes differ. -/
structure Apart (s : Store) (c d : CellId) : Prop where
  ne : s.root c ≠ s.root d
  left_lt : c < s.size
  right_lt : d < s.size

instance (s : Store) (c d : CellId) : Decidable (s.Apart c d) :=
  decidable_of_iff (s.root c ≠ s.root d ∧ c < s.size ∧ d < s.size)
    ⟨fun ⟨h, hc, hd⟩ => ⟨h, hc, hd⟩, fun ⟨h, hc, hd⟩ => ⟨h, hc, hd⟩⟩

/-- The cells after the root of `c` is linked below the root of `d`. -/
def joinCells (s : Store) (c d : CellId) : Array Cell :=
  Forest.graft ((s.shorten c).shorten d).cells (s.root c) (s.root d)
    ((s.constraints d).union (s.constraints c))

theorem size_joinCells (s : Store) (c d : CellId) : (s.joinCells c d).size = s.size := by
  rw [joinCells, Forest.size_graft]
  show Store.size _ = _
  simp

theorem climb_joinCells {s : Store} {c d : CellId} (h : s.Apart c d) (e : CellId) :
    Forest.climb (s.joinCells c d) (s.height + 1) e =
      if s.root e = s.root c then s.root d else s.root e := by
  have hsize : ((s.shorten c).shorten d).cells.size = s.size := by
    show Store.size _ = _
    simp
  have hroot : ∀ e, ((s.shorten c).shorten d).root e = s.root e := by simp
  have hc := ((s.shorten c).shorten d).not_isLink_root c
  have hd := ((s.shorten c).shorten d).not_isLink_root d
  rw [hroot] at hc hd
  have := Forest.climb_graft hc hd h.ne (hsize ▸ root_lt h.left_lt) (hsize ▸ root_lt h.right_lt)
    ((s.constraints d).union (s.constraints c)) (((s.shorten c).shorten d).climbs_end e)
  rw [show Forest.climb _ ((s.shorten c).shorten d).height e = s.root e from hroot e] at this
  exact this

theorem cell_joinCells_upper {s : Store} {c d : CellId} (h : s.Apart c d) :
    (s.joinCells c d)[s.root d]? = some (.root none ((s.constraints d).union (s.constraints c))) := by
  have hsize : ((s.shorten c).shorten d).cells.size = s.size := by
    show Store.size _ = _
    simp
  exact Forest.getElem?_graft_upper h.ne (hsize ▸ root_lt h.right_lt) _

theorem cell_joinCells_of_ne {s : Store} {c d e : CellId} (hc : s.root e ≠ s.root c)
    (hd : s.root e ≠ s.root d) : (s.joinCells c d)[s.root e]? = s.cells[s.root e]? := by
  have h := cell_shorten (s.shorten c) d e
  rw [root_shorten, cell_shorten] at h
  rw [joinCells, Forest.getElem?_graft_of_ne (Ne.symm hc) (Ne.symm hd), h]

theorem not_isLink_joinCells {s : Store} {c d : CellId} (h : s.Apart c d) (e : CellId) :
    ¬ Forest.IsLink (s.joinCells c d) (if s.root e = s.root c then s.root d else s.root e) := by
  have upper : ¬ Forest.IsLink (s.joinCells c d) (s.root d) := by
    rintro ⟨p, hp⟩
    rw [cell_joinCells_upper h] at hp
    simp at hp
  split
  · exact upper
  · rename_i hc
    by_cases hd : s.root e = s.root d
    · exact hd ▸ upper
    · rintro ⟨p, hp⟩
      rw [cell_joinCells_of_ne hc hd] at hp
      exact s.not_isLink_root e ⟨p, hp⟩

/-- The store in which the class of `c` has joined the class of `d`. The joined class is unbound and
has the constraints of both. -/
def join (s : Store) (c d : CellId) : Store :=
  if h : s.Apart c d then
    { cells := s.joinCells c d
      height := s.height + 1
      serial := s.serial
      climbs_end e := by
        rw [climb_joinCells h]
        exact not_isLink_joinCells h e
      links_inside e q hq := by
        rw [size_joinCells]
        rcases Forest.link_graft hq with hq | ⟨_, rfl⟩
        · have hin := ((s.shorten c).shorten d).links_inside e q hq
          have hsize : ((s.shorten c).shorten d).cells.size = s.size := by
            show Store.size _ = _
            simp
          exact hsize ▸ hin
        · exact root_lt h.right_lt }
  else s

theorem join_of_not_apart {s : Store} {c d : CellId} (h : ¬ s.Apart c d) : s.join c d = s := by
  rw [join, dif_neg h]

@[simp] theorem size_join (s : Store) (c d : CellId) : (s.join c d).size = s.size := by
  by_cases h : s.Apart c d
  · rw [join, dif_pos h]
    exact size_joinCells s c d
  · rw [join_of_not_apart h]

theorem root_join {s : Store} {c d : CellId} (h : s.Apart c d) (e : CellId) :
    (s.join c d).root e = if s.root e = s.root c then s.root d else s.root e := by
  rw [join, dif_pos h]
  exact climb_joinCells h e

theorem bound?_join {s : Store} {c d : CellId} (h : s.Apart c d) (e : CellId) :
    (s.join c d).bound? e =
      if s.root e = s.root c ∨ s.root e = s.root d then none else s.bound? e := by
  have cells : (s.join c d).cells = s.joinCells c d := by rw [join, dif_pos h]
  rw [bound?, root_join h, cells]
  by_cases hc : s.root e = s.root c
  · rw [if_pos hc, cell_joinCells_upper h, if_pos (.inl hc)]
  · by_cases hd : s.root e = s.root d
    · rw [if_neg hc, hd, cell_joinCells_upper h, if_pos (.inr rfl)]
    · rw [if_neg hc, cell_joinCells_of_ne hc hd, if_neg (not_or.2 ⟨hc, hd⟩), bound?]

theorem constraints_join {s : Store} {c d : CellId} (h : s.Apart c d) (e : CellId) :
    (s.join c d).constraints e =
      if s.root e = s.root c ∨ s.root e = s.root d then (s.constraints d).union (s.constraints c)
      else s.constraints e := by
  have cells : (s.join c d).cells = s.joinCells c d := by rw [join, dif_pos h]
  rw [constraints, root_join h, cells]
  by_cases hc : s.root e = s.root c
  · rw [if_pos hc, cell_joinCells_upper h, if_pos (.inl hc)]
  · by_cases hd : s.root e = s.root d
    · rw [if_neg hc, hd, cell_joinCells_upper h, if_pos (.inr rfl)]
    · rw [if_neg hc, cell_joinCells_of_ne hc hd, if_neg (not_or.2 ⟨hc, hd⟩)]
      rfl

/-! ## Checked writes -/

/-- Why a variable could not be read, bound or merged. -/
inductive VarError where
  | unbound (v : TypeVar)
  | alreadyBound (v : TypeVar) (type : Ty)
  | mergeBound (v w : TypeVar)
deriving DecidableEq

/-- The type that a bound variable stands for. -/
def get (s : Store) (v : TypeVar) : Except VarError Ty :=
  match s.bound? v.cell with
  | some t => .ok t
  | none => .error (.unbound v)

/-- Binds an unbound variable, and with it all variables of its class. -/
def bind (s : Store) (v : TypeVar) (t : Ty) : Except VarError Store :=
  match s.bound? v.cell with
  | some u => .error (.alreadyBound v u)
  | none => .ok (s.assign v.cell t)

/-- Merges the class of `v` into the class of `w`; both have to be unbound, unless they are one. -/
def merge (s : Store) (v w : TypeVar) : Except VarError Store :=
  if s.root v.cell = s.root w.cell then .ok s
  else if (s.bound? v.cell).isSome || (s.bound? w.cell).isSome then .error (.mergeBound v w)
  else .ok (s.join v.cell w.cell)

end Store

end BlockTypes
