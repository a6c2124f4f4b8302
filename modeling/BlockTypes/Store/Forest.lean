import BlockTypes.TypeClass
import BlockTypes.TypeExpr.Basic

/-!
# Cells and links

A type variable is a name and a cell. Merging two variables links the cell of one to the cell of the
other, so the cells form a forest whose roots hold what is known about a class of merged variables.
`climb` follows links; `climb_relink` says that pointing a cell straight at its root moves no root,
and `climb_graft` which roots move when one root is linked below another.
-/

namespace BlockTypes

/-- The place of a cell in its store. -/
abbrev CellId := Nat

/-- A type variable: the name it is shown by and the cell it was made with. -/
structure TypeVar where
  name : String
  cell : CellId
deriving DecidableEq

/-- A type over the variables of a store. -/
abbrev Ty := TypeExpr TypeVar

/-- A cell passes its variable on to another cell, or is a root: it holds the type that its class of
variables stands for, if any, and the classes that constrain it. -/
inductive Cell where
  | link (target : CellId)
  | root (bound : Option Ty) (constraints : ConstraintSet)
deriving DecidableEq

namespace Forest

/-- The cell passes its variable on. -/
def IsLink (cells : Array Cell) (c : CellId) : Prop := ∃ p, cells[c]? = some (.link p)

/-- The cell reached from `c` by following links, at most `n` of them. -/
def climb (cells : Array Cell) : (n : Nat) → (c : CellId) → CellId
  | 0, c => c
  | n + 1, c =>
    match cells[c]? with
    | some (.link p) => climb cells n p
    | _ => c

/-- Points every cell on the way from `c` straight at `top`. -/
def compress (cells : Array Cell) (top : CellId) : (n : Nat) → (c : CellId) → Array Cell
  | 0, _ => cells
  | n + 1, c =>
    match cells[c]? with
    | some (.link p) =>
      if p = top then cells else compress (cells.setIfInBounds c (.link top)) top n p
    | _ => cells

/-- Links the root `lower` below the root `upper`, which becomes unbound with the given
constraints. -/
def graft (cells : Array Cell) (lower upper : CellId) (cs : ConstraintSet) : Array Cell :=
  (cells.setIfInBounds upper (.root none cs)).setIfInBounds lower (.link upper)

variable {cells : Array Cell} {c d p r : CellId}

/-! ## Climbing -/

theorem climb_of_not_isLink (h : ¬ IsLink cells c) (n : Nat) : climb cells n c = c := by
  cases n with
  | zero => rfl
  | succ n =>
    rw [climb]
    split
    · rename_i p hp
      exact absurd ⟨p, hp⟩ h
    · rfl

theorem climb_link (h : cells[c]? = some (.link p)) (n : Nat) :
    climb cells (n + 1) c = climb cells n p := by
  rw [climb, h]

/-- All climbs that end at a root end at the same one. -/
theorem climb_unique {m n : Nat} (hm : ¬ IsLink cells (climb cells m c))
    (hn : ¬ IsLink cells (climb cells n c)) : climb cells m c = climb cells n c := by
  induction m generalizing n c with
  | zero => exact (climb_of_not_isLink hm n).symm
  | succ m ih =>
    by_cases hc : IsLink cells c
    · obtain ⟨p, hp⟩ := hc
      cases n with
      | zero => exact absurd ⟨p, hp⟩ hn
      | succ n =>
        rw [climb_link hp] at hm ⊢
        rw [climb_link hp] at hn ⊢
        exact ih hm hn
    · rw [climb_of_not_isLink hc, climb_of_not_isLink hc]

/-! ## Changes that keep the links -/

/-- Cells that differ only at roots are climbed alike. -/
theorem climb_congr {cells' : Array Cell}
    (h : ∀ c p : CellId, cells'[c]? = some (.link p) ↔ cells[c]? = some (.link p))
    (n : Nat) (c : CellId) :
    climb cells' n c = climb cells n c := by
  induction n generalizing c with
  | zero => rfl
  | succ n ih =>
    by_cases hc : IsLink cells c
    · obtain ⟨p, hp⟩ := hc
      rw [climb_link hp, climb_link ((h c p).2 hp), ih]
    · have hc' : ¬ IsLink cells' c := fun ⟨p, hp⟩ => hc ⟨p, (h c p).1 hp⟩
      rw [climb_of_not_isLink hc, climb_of_not_isLink hc']

theorem link_push (bound : Option Ty) (cs : ConstraintSet) (c p : CellId) :
    (cells.push (.root bound cs))[c]? = some (.link p) ↔ cells[c]? = some (.link p) := by
  rw [Array.getElem?_push]
  split
  · rename_i h
    simp [h]
  · rfl

theorem link_set_root (h : ¬ IsLink cells r) (bound : Option Ty) (cs : ConstraintSet)
    (c p : CellId) :
    (cells.setIfInBounds r (.root bound cs))[c]? = some (.link p) ↔
      cells[c]? = some (.link p) := by
  rw [Array.getElem?_setIfInBounds]
  split
  · rename_i hrc
    subst hrc
    constructor
    · split <;> simp
    · exact fun hp => absurd ⟨p, hp⟩ h
  · rfl

/-! ## Path compression -/

/-- Pointing a link straight at the root above it changes where no climb ends. -/
theorem climb_relink {k : Nat} (hc : IsLink cells c) (hk : climb cells k c = r)
    (hr : ¬ IsLink cells r) {n : Nat} {d : CellId} (hd : ¬ IsLink cells (climb cells n d)) :
    climb (cells.setIfInBounds c (.link r)) n d = climb cells n d := by
  have hcr : c ≠ r := fun h => hr (h ▸ hc)
  have hsize : c < cells.size := by
    obtain ⟨p, hp⟩ := hc
    exact (Array.getElem?_eq_some_iff.1 hp).1
  have hr' : ¬ IsLink (cells.setIfInBounds c (.link r)) r := by
    rintro ⟨p, hp⟩
    rw [Array.getElem?_setIfInBounds, if_neg hcr] at hp
    exact hr ⟨p, hp⟩
  induction n generalizing d with
  | zero => rfl
  | succ n ih =>
    by_cases hdc : d = c
    · subst hdc
      have hlink : (cells.setIfInBounds d (.link r))[d]? = some (.link r) := by
        rw [Array.getElem?_setIfInBounds, if_pos rfl, if_pos hsize]
      rw [climb_link hlink, climb_of_not_isLink hr']
      exact hk ▸ climb_unique (hk ▸ hr) hd
    · have hsame : (cells.setIfInBounds c (.link r))[d]? = cells[d]? := by
        rw [Array.getElem?_setIfInBounds, if_neg (Ne.symm hdc)]
      by_cases hl : IsLink cells d
      · obtain ⟨p, hp⟩ := hl
        rw [climb_link hp, climb_link (hsame.trans hp)]
        rw [climb_link hp] at hd
        exact ih hd
      · rw [climb_of_not_isLink hl, climb_of_not_isLink fun ⟨p, hp⟩ => hl ⟨p, hsame ▸ hp⟩]

theorem not_isLink_relink (hc : IsLink cells c) (hd : ¬ IsLink cells d) (r : CellId) :
    ¬ IsLink (cells.setIfInBounds c (.link r)) d := by
  rintro ⟨p, hp⟩
  have hcd : c ≠ d := fun h => hd (h ▸ hc)
  rw [Array.getElem?_setIfInBounds, if_neg hcd] at hp
  exact hd ⟨p, hp⟩

/-- Compressing the way from `c` to the root above it changes where no climb ends. -/
theorem climb_compress {m k : Nat} (hk : climb cells k c = r) (hr : ¬ IsLink cells r)
    {n : Nat} {d : CellId} (hd : ¬ IsLink cells (climb cells n d)) :
    climb (compress cells r m c) n d = climb cells n d := by
  induction m generalizing cells c k with
  | zero => rfl
  | succ m ih =>
    rw [compress]
    split
    · rename_i p hp
      have hc : IsLink cells c := ⟨p, hp⟩
      split
      · rfl
      · cases k with
        | zero => exact absurd (hk ▸ hc) hr
        | succ k =>
          rw [climb_link hp] at hk
          have hall : ∀ {n : Nat} {d : CellId}, ¬ IsLink cells (climb cells n d) →
              climb (cells.setIfInBounds c (.link r)) n d = climb cells n d :=
            climb_relink hc (climb_link hp k ▸ hk) hr
          rw [ih (k := k) ((hall (hk ▸ hr)).trans hk) (not_isLink_relink hc hr r) (by
            rw [hall hd]
            exact not_isLink_relink hc hd r), hall hd]
    · rfl

/-- Compression makes no root a link, and changes no root. -/
theorem getElem?_compress {m : Nat} (hd : ¬ IsLink cells d) :
    (compress cells r m c)[d]? = cells[d]? := by
  induction m generalizing cells c with
  | zero => rfl
  | succ m ih =>
    rw [compress]
    split
    · rename_i p hp
      split
      · rfl
      · have hc : IsLink cells c := ⟨p, hp⟩
        have hcd : c ≠ d := fun h => hd (h ▸ hc)
        rw [ih (not_isLink_relink hc hd r), Array.getElem?_setIfInBounds, if_neg hcd]
    · rfl

theorem size_compress {m : Nat} : (compress cells r m c).size = cells.size := by
  induction m generalizing cells c with
  | zero => rfl
  | succ m ih =>
    rw [compress]
    split
    · split
      · rfl
      · rw [ih, Array.size_setIfInBounds]
    · rfl

/-- Compression links cells to `top` only. -/
theorem link_compress {m : Nat} {e q : CellId}
    (h : (compress cells r m c)[e]? = some (.link q)) : cells[e]? = some (.link q) ∨ q = r := by
  induction m generalizing cells c with
  | zero => exact .inl h
  | succ m ih =>
    rw [compress] at h
    split at h
    · split at h
      · exact .inl h
      · rcases ih h with h | h
        · rw [Array.getElem?_setIfInBounds] at h
          split at h
          · split at h
            · exact .inr (by simpa using h.symm)
            · simp at h
          · exact .inl h
        · exact .inr h
    · exact .inl h

/-! ## Linking roots -/

variable {lower upper : CellId}

theorem getElem?_graft_lower (h : lower < cells.size) (cs : ConstraintSet) :
    (graft cells lower upper cs)[lower]? = some (.link upper) := by
  rw [graft, Array.getElem?_setIfInBounds, if_pos rfl, if_pos (by simpa using h)]

theorem getElem?_graft_upper (hne : lower ≠ upper) (h : upper < cells.size) (cs : ConstraintSet) :
    (graft cells lower upper cs)[upper]? = some (.root none cs) := by
  rw [graft, Array.getElem?_setIfInBounds, if_neg hne, Array.getElem?_setIfInBounds, if_pos rfl,
    if_pos h]

theorem getElem?_graft_of_ne (hl : lower ≠ c) (hu : upper ≠ c) (cs : ConstraintSet) :
    (graft cells lower upper cs)[c]? = cells[c]? := by
  rw [graft, Array.getElem?_setIfInBounds, if_neg hl, Array.getElem?_setIfInBounds, if_neg hu]

theorem size_graft (cs : ConstraintSet) : (graft cells lower upper cs).size = cells.size := by
  simp [graft]

/-- The only new link leads from `lower` to `upper`. -/
theorem link_graft {cs : ConstraintSet} {e q : CellId}
    (h : (graft cells lower upper cs)[e]? = some (.link q)) :
    cells[e]? = some (.link q) ∨ (e = lower ∧ q = upper) := by
  rw [graft, Array.getElem?_setIfInBounds] at h
  split at h
  · rename_i he
    split at h
    · exact .inr ⟨he.symm, by simpa using h.symm⟩
    · simp at h
  · rw [Array.getElem?_setIfInBounds] at h
    split at h
    · split at h <;> simp at h
    · exact .inl h

/-- After the link, a climb that ended at `lower` ends at `upper`, one step later. -/
theorem climb_graft (hl : ¬ IsLink cells lower) (hu : ¬ IsLink cells upper) (hne : lower ≠ upper)
    (hlower : lower < cells.size) (hupper : upper < cells.size) (cs : ConstraintSet)
    {n : Nat} {d : CellId} (hd : ¬ IsLink cells (climb cells n d)) :
    climb (graft cells lower upper cs) (n + 1) d =
      if climb cells n d = lower then upper else climb cells n d := by
  have hu' : ¬ IsLink (graft cells lower upper cs) upper := by
    rintro ⟨p, hp⟩
    rw [getElem?_graft_upper hne hupper] at hp
    simp at hp
  have at_root : ∀ {d : CellId}, ¬ IsLink cells d → ∀ n : Nat,
      climb (graft cells lower upper cs) (n + 1) d = if d = lower then upper else d := by
    intro d hd n
    by_cases hdl : d = lower
    · subst hdl
      rw [climb_link (getElem?_graft_lower hlower cs), climb_of_not_isLink hu', if_pos rfl]
    · rw [if_neg hdl]
      refine climb_of_not_isLink ?_ _
      rintro ⟨p, hp⟩
      by_cases hdu : d = upper
      · subst hdu
        exact hu' ⟨p, hp⟩
      · rw [getElem?_graft_of_ne (Ne.symm hdl) (Ne.symm hdu)] at hp
        exact hd ⟨p, hp⟩
  induction n generalizing d with
  | zero => exact at_root hd 0
  | succ n ih =>
    by_cases hlink : IsLink cells d
    · obtain ⟨p, hp⟩ := hlink
      have hdl : lower ≠ d := fun h => hl (h ▸ ⟨p, hp⟩)
      have hdu : upper ≠ d := fun h => hu (h ▸ ⟨p, hp⟩)
      rw [climb_link ((getElem?_graft_of_ne hdl hdu cs).trans hp), climb_link hp]
      rw [climb_link hp] at hd
      exact ih hd
    · rw [climb_of_not_isLink hlink]
      exact at_root hlink _

end Forest

end BlockTypes
